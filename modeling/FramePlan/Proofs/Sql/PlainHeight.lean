import FramePlan.Proofs.Eval.Filtering
import FramePlan.Proofs.Sql.Having
import FramePlan.Proofs.Sql.Operands
import FramePlan.Sql.Parser.Statement

/-!
# Rows of statements that do not group

A statement that does not group has as many rows as its WHERE leaves, if one of its items spans the rows of
the table; the height of a projection is guessed from the lengths of its series. An expression spans the rows
if it is a column, a `CASE` or a `COALESCE`, or is made of one that does and is no aggregate (`Expr.spans`).
Without such an item all series are single cells, and the projection has one row whatever the WHERE leaves:
`plain_height` says both, and `plain_height_forgotten` is a statement of the second kind.

`spans_expr` has the lengths of all expressions, by induction from operands.
-/
namespace FramePlan.Sql

open FramePlan.Eval Table Series

/-! ## Expressions that span rows -/

mutual

/-- The expression has a cell for each row of a table, not a single one. -/
def Expr.spans : Expr → Bool
  | .ident _ => true
  | .compound _ => true
  | .literal _ => false
  | .nested e => e.spans
  | .binary _ l r => l.spans || r.spans
  | .unary _ e => e.spans
  | .isNull e => e.spans
  | .isNotNull e => e.spans
  | .between e _ low high => e.spans || low.spans || high.spans
  | .inList e items _ => !items.isEmpty && (e.spans || anySpans items)
  | .cast e _ _ _ => e.spans
  | .case _ _ _ => true
  | .call name args _ _ =>
    functionName name == "coalesce" || ((aggregateOf? (functionName name)).isNone && args.spans)
  | .subquery _ => false
  | .foreign _ => false

def anySpans : List Expr → Bool
  | [] => false
  | e :: rest => e.spans || anySpans rest

def Args.spans : Args → Bool
  | .list _ args _ => anyArgSpans args
  | .bare => false
  | .query _ => false

def anyArgSpans : List Arg → Bool
  | [] => false
  | .expr e :: rest => e.spans || anyArgSpans rest
  | .wildcard :: rest => anyArgSpans rest
  | .foreign _ :: rest => anyArgSpans rest

end

/-- The series has a cell for each of `n` rows if it spans them, and else a single one. -/
def Spans (n : Nat) (spans : Bool) (s : Series) : Prop := s.length = if spans then n else 1

variable {t : Table} {s l r x : Series} {n : Nat} {a b : Bool}

theorem spans_unary (op : UnaryOp) (h : unary op s = .ok r) (hs : Spans n a s) : Spans n a r := by
  rw [unary_eq] at h
  obtain ⟨d, -, rfl⟩ := map_eq_ok.mp h
  exact (List.length_map _).trans hs

theorem spans_negated (h : negated b s = .ok r) (hs : Spans n a s) : Spans n a r := by
  cases b with
  | false =>
    cases h
    exact hs
  | true => exact spans_unary .not h hs

theorem spans_sign {sign : Sign} (h : sign.apply s = .ok r) (hs : Spans n a s) : Spans n a r := by
  cases sign with
  | not => exact spans_unary .not h hs
  | minus => exact spans_unary .neg h hs
  | plus =>
    cases h
    exact hs

theorem spans_binary {op : BinaryOp} (h : binary op l r = .ok s) (hl : Spans n a l) (hr : Spans n b r) :
    Spans n (a || b) s := by
  have hlengths : (l.length = 1 ∨ l.length = if a || b then n else 1) ∧
      (r.length = 1 ∨ r.length = if a || b then n else 1) ∧
      ((l.length = if a || b then n else 1) ∨ r.length = if a || b then n else 1) := by
    -- A single cell goes with a single cell, and with the rows of the other side.
    unfold Spans at hl hr
    cases a <;> cases b <;> simp [hl, hr]
  obtain ⟨hl, hr, hm⟩ := hlengths
  rw [binary_eq op hl hr hm] at h
  obtain ⟨d, -, rfl⟩ := map_eq_ok.mp h
  simp [Spans, length]

theorem spans_anyEqual (hx : Spans t.height a x) : ∀ {items : List Expr} {found : Series} {b : Bool},
    (∀ e ∈ items, Yields (e.eval t) (Spans t.height e.spans)) → Spans t.height b found →
      anyEqual t x items found = .ok s →
        Spans t.height (b || (!items.isEmpty && (a || anySpans items))) s
  | [], found, b, _, hfound, h => by
    cases h
    simpa using hfound
  | e :: es, found, b, hitems, hfound, h => by
    rw [anyEqual] at h
    obtain ⟨y, hy, h⟩ := bind_eq_ok.mp h
    obtain ⟨hit, hhit, h⟩ := bind_eq_ok.mp h
    obtain ⟨next, hnext, h⟩ := bind_eq_ok.mp h
    obtain ⟨he, hes⟩ := List.forall_mem_cons.mp hitems
    have hspans := spans_anyEqual hx hes (spans_binary hnext hfound (spans_binary hhit hx (he y hy))) h
    -- The operand stands in every comparison, so it counts as soon as there is one.
    have hflags : ((b || (a || e.spans)) || (!es.isEmpty && (a || anySpans es))) =
        (b || (!(e :: es).isEmpty && (a || anySpans (e :: es)))) := by
      rw [anySpans]
      cases es with
      | nil => simp [anySpans]
      | cons => cases a <;> cases b <;> simp
    rwa [hflags] at hspans

/-! ## Functions -/

theorem spans_single {name : String} {args : Args} {given : List Given} (h : args.eval t = .ok given)
    (hargs : ∀ c ∈ args.operands, Yields (c.eval t) (Spans t.height c.spans)) :
    Yields (single name given) (Spans t.height args.spans) := by
  cases args with
  | bare =>
    cases h
    exact .error _
  | query text => cases h
  | list before args behind =>
    rw [eq_of_understood h]
    cases args with
    | nil => exact .error _
    | cons first rest =>
      cases rest with
      | cons second rest => cases first <;> cases second <;> exact .error _
      | nil =>
        cases first with
        | expr e =>
          have hone : (Args.list before [.expr e] behind).spans = e.spans := by
            simp [Args.spans, anyArgSpans]
          rw [hone]
          exact hargs e List.mem_cons_self
        | wildcard => exact .error _
        | foreign text => exact .error _

theorem spans_aggregate {op : AggOp} (h : aggregate op s = .ok r) : Spans n false r := by
  rw [aggregate_eq] at h
  obtain ⟨d, -, rfl⟩ := map_eq_ok.mp h
  rfl

theorem spans_string {op : StrOp} (h : string op s = .ok r) (hs : Spans n a s) : Spans n a r := by
  unfold string at h
  split at h
  · obtain ⟨cells, hcells, h⟩ := bind_eq_ok.mp h
    cases h
    exact (mapM_eq_ok.mp hcells).length_eq.symm.trans hs
  · cases h

/-- An aggregate gives a single cell, a `COALESCE` one for each row, and any other function goes cell by
    cell. -/
theorem spans_applyFunction {name : String} {given : List Given}
    (hsingle : Yields (single name given) (Spans n a)) : Yields (applyFunction n name given)
      (Spans n (name == "coalesce" || ((aggregateOf? name).isNone && a))) := by
  unfold applyFunction
  split
  · exact .ok rfl
  · exact length_coalesce
  · refine Yields.bind hsingle ?_
    intro s hs
    exact .ok ((List.length_map _).trans hs)
  · -- The flag asks for the name first, the function for the aggregate that it stands for.
    rename_i hcoalesce _ _
    have hname : (name == "coalesce") = false := beq_eq_false_iff_ne.mpr hcoalesce
    rw [hname, Bool.false_or]
    split
    · rename_i op _ hop
      rw [hop]
      refine Yields.bind hsingle ?_
      intro s hs r hr
      exact spans_aggregate hr
    · rename_i op hnone _
      rw [hnone]
      refine Yields.bind hsingle ?_
      intro s hs r hr
      exact spans_string hr hs
    · exact .error _

/-! ## Lengths of expressions -/

/-- What has a value has as many cells as the table has rows if it spans them, and else one. -/
theorem spans_expr (ht : t.WellFormed) (e : Expr) : Yields (e.eval t) (Spans t.height e.spans) := by
  have column (name : String) : Yields (t.column name) (Spans t.height true) :=
    mem_column.mono fun s hs => (ht.1 s hs).1
  induction e using Expr.induction_operands with
  | step e ih =>
    intro s h
    cases e with
    | ident name => exact column _ s h
    | compound parts => exact column _ s h
    | literal v =>
      obtain ⟨value, -, rfl⟩ := map_eq_ok.mp h
      rfl
    | nested e =>
      rw [Expr.eval] at h
      exact ih e List.mem_cons_self s h
    | unary sign e =>
      rw [Expr.eval] at h
      obtain ⟨x, hx, h⟩ := bind_eq_ok.mp h
      exact spans_sign h (ih e List.mem_cons_self x hx)
    | isNull e =>
      rw [Expr.eval] at h
      obtain ⟨x, hx, h⟩ := bind_eq_ok.mp h
      exact spans_unary _ h (ih e List.mem_cons_self x hx)
    | isNotNull e =>
      rw [Expr.eval] at h
      obtain ⟨x, hx, h⟩ := bind_eq_ok.mp h
      exact spans_unary _ h (ih e List.mem_cons_self x hx)
    | binary op l r =>
      obtain ⟨hl, hr⟩ := List.forall_mem_cons.mp ih
      rw [Expr.eval] at h
      obtain ⟨op, -, h⟩ := bind_eq_ok.mp h
      obtain ⟨a, ha, h⟩ := bind_eq_ok.mp h
      obtain ⟨b, hb, h⟩ := bind_eq_ok.mp h
      exact spans_binary h (hl a ha) (hr r List.mem_cons_self b hb)
    | between e negated low high =>
      obtain ⟨he, hbounds⟩ := List.forall_mem_cons.mp ih
      obtain ⟨hlow, hhigh⟩ := List.forall_mem_cons.mp hbounds
      rw [Expr.eval] at h
      obtain ⟨x, hx, h⟩ := bind_eq_ok.mp h
      obtain ⟨l, hl, h⟩ := bind_eq_ok.mp h
      obtain ⟨above, habove, h⟩ := bind_eq_ok.mp h
      obtain ⟨u, hu, h⟩ := bind_eq_ok.mp h
      obtain ⟨below, hbelow, h⟩ := bind_eq_ok.mp h
      obtain ⟨both, hboth, h⟩ := bind_eq_ok.mp h
      have hspans := spans_negated h (spans_binary hboth (spans_binary habove (he x hx) (hlow l hl))
        (spans_binary hbelow (he x hx) (hhigh high List.mem_cons_self u hu)))
      -- The expression stands in both comparisons.
      have hflags : ((e.spans || low.spans) || (e.spans || high.spans)) =
          (Expr.between e negated low high).spans := by
        rw [Expr.spans]
        cases e.spans <;> rfl
      rwa [hflags] at hspans
    | inList e items negated =>
      obtain ⟨he, hitems⟩ := List.forall_mem_cons.mp ih
      rw [Expr.eval] at h
      obtain ⟨x, hx, h⟩ := bind_eq_ok.mp h
      obtain ⟨found, hfound, h⟩ := bind_eq_ok.mp h
      have hstart : Spans t.height false (.scalar x.name .bool (.bool false)) := rfl
      exact spans_negated h (spans_anyEqual (he x hx) hitems hstart hfound)
    | cast e style type format =>
      rw [Expr.eval] at h
      obtain ⟨x, hx, h⟩ := bind_eq_ok.mp h
      cases htarget : type.target with
      | none =>
        rw [htarget] at h
        cases h
      | some target =>
        rw [htarget] at h
        cases h
        exact (List.length_map _).trans (ih e List.mem_cons_self x hx)
    | case operand branches otherwise =>
      rw [Expr.eval] at h
      obtain ⟨subject, -, h⟩ := bind_eq_ok.mp h
      obtain ⟨pairs, -, h⟩ := bind_eq_ok.mp h
      obtain ⟨value, -, h⟩ := bind_eq_ok.mp h
      have hcase : ∃ fallback, caseSeries t.height pairs fallback = .ok s := by
        cases value with
        | none => exact ⟨_, h⟩
        | some v =>
          obtain ⟨fallback, -, h⟩ := bind_eq_ok.mp h
          exact ⟨fallback, h⟩
      obtain ⟨fallback, hcase⟩ := hcase
      obtain ⟨d, -, hcase⟩ := bind_eq_ok.mp hcase
      cases hcase
      simp [Spans, Expr.spans, length, coerce]
    | call name args windowed tail =>
      rw [Expr.eval] at h
      split at h
      · cases h
      · obtain ⟨given, hgiven, h⟩ := bind_eq_ok.mp h
        exact spans_applyFunction (spans_single hgiven ih) s h
    | subquery text => cases h
    | foreign text => cases h

/-! ## Projections -/

/-- An item has a cell for each row in all its columns, of which there are some. -/
def Item.spans (t : Table) : Item → Bool
  | .unnamed e => e.spans
  | .named e _ => e.spans
  | .wildcard _ => !t.columns.isEmpty
  | .foreign _ => false

theorem spans_item (ht : t.WellFormed) (item : Item) :
    Yields (item.eval t) (Spans t.height (item.spans t)) := by
  cases item with
  | unnamed e => exact Yields.bind (spans_expr ht e) fun s hs => .ok hs
  | named e name => exact Yields.bind (spans_expr ht e) fun s hs => .ok hs
  | wildcard tail => exact .error _
  | foreign text => exact .error _

/-- The columns of an item span the rows if the item does. There are some, but for a star over no columns. -/
theorem spans_columns (ht : t.WellFormed) (item : Item) : Yields (item.columns t) fun columns =>
    (∀ c ∈ columns, Spans t.height (item.spans t) c) ∧
      (item.spans t = true ∨ (∀ tail, item ≠ .wildcard tail) → columns ≠ []) := by
  have one (item : Item) : Yields (do pure [← item.eval t] : Outcome (List Series)) fun columns =>
      (∀ c ∈ columns, Spans t.height (item.spans t) c) ∧
        (item.spans t = true ∨ (∀ tail, item ≠ .wildcard tail) → columns ≠ []) :=
    Yields.bind (spans_item ht item) fun s hs =>
      .ok ⟨List.forall_mem_singleton.mpr hs, fun _ => List.cons_ne_nil s []⟩
  cases item with
  | wildcard tail =>
    refine .ok ⟨fun c hc => ?_, fun hsome => ?_⟩
    · have hne : t.columns.isEmpty = false := List.isEmpty_eq_false_iff.mpr (List.ne_nil_of_mem hc)
      simpa [Spans, Item.spans, hne] using (ht.1 c hc).1
    · obtain hspans | hother := hsome
      · simpa [Item.spans] using hspans
      · exact absurd rfl (hother tail)
  | unnamed e => exact one _
  | named e name => exact one _
  | foreign text => exact one _

theorem height_project {series : List Series} (hlengths : ∀ c ∈ series, c.length = 1 ∨ c.length = n)
    (hn : ∃ c ∈ series, c.length = n) : Yields (project series) fun out => out.height = n := by
  obtain ⟨d, hd, hdn⟩ := hn
  have hguess : projectedHeight series = n := by
    unfold projectedHeight
    -- The guess is the first length that is not one, and only `n` can be that.
    cases hfind : (series.map Series.length).find? (· != 1) with
    | none =>
      have hone := List.find?_eq_none.mp hfind d.length (List.mem_map_of_mem hd)
      have hone : d.length = 1 := by simpa using hone
      exact hone.symm.trans hdn
    | some m =>
      obtain ⟨c, hc, rfl⟩ := List.mem_map.mp (List.mem_of_find?_eq_some hfind)
      have hne : c.length ≠ 1 := by simpa using List.find?_some hfind
      exact (hlengths c hc).resolve_left hne
  apply Yields.after
  intro columns hcolumns out hout
  rw [hguess] at hcolumns
  obtain ⟨rfl, level, -⟩ := ofColumns_spec out hout
  have heach : List.Forall₂ (fun s c => s.broadcast n = .ok c) series out.columns := mapM_eq_ok.mp hcolumns
  obtain ⟨s, rest, rfl⟩ := List.exists_cons_of_ne_nil (List.ne_nil_of_mem hd)
  obtain ⟨c, cs, hc, -, hcs⟩ := List.forall₂_cons_left_iff.mp heach
  have hfirst : c ∈ out.columns := hcs ▸ List.mem_cons_self
  rw [← level c hfirst, (broadcast_spec hc).2.2.1]

/-- The projection of items that are not all stars has the rows of the table if one of them spans these, and
    else a single one. -/
theorem height_projected {items : List Item} (ht : t.WellFormed)
    (hitem : ∃ item ∈ items, ∀ tail, item ≠ .wildcard tail) : Yields (projected t items) fun out =>
      out.height = if items.any (Item.spans t) then t.height else 1 := by
  apply Yields.after
  intro series hseries
  have hmap : items.map (Item.columns t) = series.map .ok := map_eq_of_mapM hseries
  refine height_project ?_ ?_
  · intro c hc
    obtain ⟨columns, hcolumns, hc⟩ := List.mem_flatten.mp hc
    have hfrom : .ok columns ∈ items.map (Item.columns t) := hmap ▸ List.mem_map_of_mem hcolumns
    obtain ⟨item, hi, hcolumns⟩ := List.mem_map.mp hfrom
    have hspans := (spans_columns ht item columns hcolumns).1 c hc
    cases hflag : item.spans t with
    | false =>
      rw [hflag] at hspans
      exact .inl hspans
    | true =>
      rw [hflag] at hspans
      rw [if_pos (List.any_eq_true.mpr ⟨item, hi, hflag⟩)]
      exact .inr hspans
  · -- Of the items that decide, any has a column.
    have hdecides : ∃ item ∈ items, (item.spans t = true ∨ ∀ tail, item ≠ .wildcard tail) ∧
        item.spans t = items.any (Item.spans t) := by
      cases hany : items.any (Item.spans t) with
      | true =>
        obtain ⟨item, hi, hflag⟩ := List.any_eq_true.mp hany
        exact ⟨item, hi, .inl hflag, hflag⟩
      | false =>
        obtain ⟨item, hi, hother⟩ := hitem
        exact ⟨item, hi, .inr hother, by simpa using List.any_eq_false.mp hany item hi⟩
    obtain ⟨item, hi, hsome, hflag⟩ := hdecides
    have hfrom : item.columns t ∈ series.map .ok := hmap ▸ List.mem_map_of_mem hi
    obtain ⟨columns, hcolumns, heq⟩ := List.mem_map.mp hfrom
    obtain ⟨hspans, hne⟩ := spans_columns ht item columns heq.symm
    obtain ⟨c, hc⟩ := List.exists_mem_of_ne_nil columns (hne hsome)
    exact ⟨c, List.mem_flatten.mpr ⟨columns, hcolumns, hc⟩, hflag ▸ hspans c hc⟩

/-! ## Statements -/

variable {source out : Table} {select : Select} {q : Query} {input : Option Table}

/-- The rows at which the WHERE is true, and all of them without one. -/
def Select.Keeps (select : Select) (source : Table) (rows : List Nat) : Prop :=
  match select.filter with
  | some condition => ∃ s, condition.eval source = .ok s ∧ rows = rowsWith s source.height (.bool true)
  | none => rows = List.range source.height

theorem mask_spec (hs : s.length = 1 ∨ s.length = t.height) :
    Yields (mask t s) fun u => u = t.take (rowsWith s t.height (.bool true)) := by
  intro u hu
  have truth : isTruthType s.dtype = true := by
    unfold mask at hu
    split at hu
    · simpa [isTruthType]
    · cases hu
  rw [mask_eq hs truth] at hu
  exact (Except.ok.inj hu).symm

theorem filtered_spec (hsource : source.WellFormed) : Yields (select.filtered source) fun t =>
    ∃ rows, select.Keeps source rows ∧ t.height = rows.length ∧ t.WellFormed ∧
      ∀ item : Item, item.spans t = item.spans source := by
  unfold Select.filtered Select.Keeps
  cases select.filter with
  | none => exact .ok ⟨_, rfl, List.length_range.symm, hsource, fun _ => rfl⟩
  | some condition =>
    apply Yields.after
    intro s hs u hu
    have hu := mask_spec (fits_expr hsource condition s hs).spread u hu
    subst hu
    refine ⟨_, ⟨s, hs, rfl⟩, rfl, hsource.take _, ?_⟩
    intro item
    cases item with
    | wildcard tail => simp [Item.spans, Table.take]
    | _ => rfl

theorem height_ordered (orderBy : List OrderItem) :
    Yields (ordered t orderBy) fun sorted => sorted.height = t.height := by
  apply Yields.after
  intro keys _
  split
  · exact .ok rfl
  · exact .ok (by rw [height_take, (sortedRows_perm keys t.height).length_eq, List.length_range])

/-- **A statement that does not group has a row for each row that its WHERE keeps**, if one of its items
spans the rows, and a single row if none does. Its input is well formed, it has no LIMIT, and one of its items
is no star. -/
theorem plain_height {keys : List Expr} (hinput : ∀ t ∈ input, t.WellFormed)
    (hkeys : select.groupBy.keys = .ok keys) (hplain : select.isGrouping keys = false)
    (hlimit : q.limit = none) (hitem : ∃ item ∈ select.items, ∀ tail, item ≠ .wildcard tail)
    (h : select.answer q input = .ok out) :
    ∃ source rows, sourceRows input select.sources = .ok source ∧ select.Keeps source rows ∧
      out.height = if select.items.any (Item.spans source) then rows.length else 1 := by
  obtain ⟨output, houtput, h⟩ := bind_eq_ok.mp h
  obtain ⟨sorted, hsorted, hcut⟩ := bind_eq_ok.mp h
  rw [hlimit] at hcut
  cases hcut
  obtain ⟨source, t, keys', hsource, ht, hkeys', hrows⟩ := rows_spec houtput
  cases hkeys.symm.trans hkeys'
  rw [hplain, if_neg Bool.false_ne_true] at hrows
  obtain ⟨rows, hkeeps, hheight, hwell, hspans⟩ :=
    filtered_spec (sourceRows_spec wellFormed_unit hinput select.sources source hsource) t ht
  refine ⟨source, rows, hsource, hkeeps, ?_⟩
  have hflags : Item.spans t = Item.spans source := funext hspans
  rw [height_ordered q.orderBy out hsorted, height_projected hwell hitem output hrows, hheight, hflags]

theorem wellFormed_crates : crates.WellFormed := by
  refine ⟨?_, by decide⟩
  simp [crates, Series.length, SeriesTyped, CellHas]

def largerThan (least : String) : Expr :=
  .binary (.plain .gt) (.ident ⟨"n", none⟩) (.literal (.number least false))

/-- `SELECT kind, 'x' AS mark FROM df WHERE n > 2` -/
theorem plain_height_crates :
    let items := [.unnamed (.ident ⟨"kind", none⟩), .named (.literal (.string "x")) ⟨"mark", none⟩]
    let select : Select := { selectGroups items [] none with filter := some (largerThan "2") }
    let q : Query := ⟨"", .select select, [], none, ""⟩
    let out : Table := ⟨[⟨"kind", .str, [.str "nut", .str "nut", .str "oat"]⟩,
      ⟨"mark", .str, [.str "x", .str "x", .str "x"]⟩], 3⟩
    select.answer q (some crates) = .ok out ∧
    ∃ rows, select.Keeps crates rows ∧ out.height = rows.length := by
  intro items select q out
  have hout : select.answer q (some crates) = .ok out := by decide +kernel
  have hfrom : sourceRows (some crates) select.sources = .ok crates := by decide +kernel
  have hinput : ∀ t ∈ some crates, t.WellFormed := by
    rintro t ⟨⟩
    exact wellFormed_crates
  have hitem : ∃ item ∈ select.items, ∀ tail, item ≠ .wildcard tail :=
    ⟨_, List.mem_cons_self, fun _ h => by cases h⟩
  obtain ⟨source, rows, hsource, hkeeps, hheight⟩ := plain_height hinput rfl rfl rfl hitem hout
  cases hfrom.symm.trans hsource
  exact ⟨hout, rows, hkeeps, hheight⟩

attribute [local instance] Sql.dialect

/-- No crate has more than nine, and one is not two. But a constant does not span the rows: the statement over
    the crates has one row though its WHERE keeps none of the five, and the one without FROM keeps the single
    row that it runs over. -/
theorem plain_height_forgotten :
    (readSelect "SELECT 'many' AS size FROM df WHERE n > 9").map
      (fun p => p.1.filter.map Expr.text) = .ok (some (largerThan "9").text) ∧
    (largerThan "9").eval crates =
      .ok ⟨"n", .bool, [.bool false, .bool false, .bool false, .bool false, .bool false]⟩ ∧
    query "SELECT 'many' AS size FROM df WHERE n > 9" (some crates) =
      .ok ⟨[⟨"size", .str, [.str "many"]⟩], 1⟩ ∧
    query "SELECT 1 AS one WHERE 1 = 2" none = .ok ⟨[⟨"one", .i64, [.int 1]⟩], 1⟩ := by
  refine ⟨?_, ?_, ?_, ?_⟩
  · decide +kernel
  · decide +kernel
  · decide +kernel
  · decide +kernel

end FramePlan.Sql
