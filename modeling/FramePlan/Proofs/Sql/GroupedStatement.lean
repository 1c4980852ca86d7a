import FramePlan.Eval.Plan
import FramePlan.Proofs.Eval.Partition
import FramePlan.Proofs.Sql.Fragments
import FramePlan.Sql.Parser.Statement

/-!
# Grouping by a statement

A plan can group its rows with an operation, whose aggregates are fragments of query text, or with a
statement that has a `GROUP BY`. The two go different ways.

1. The operation takes the key cells of the first row of each group. The statement treats a key like
   any other item: it evaluates the key on the first row of each group and puts the cells together,
   one after the other (`groupedItem_key`).
2. The operation evaluates a fragment, with its alias, on each group. The statement evaluates the
   aggregate, spreads its cell over one row, puts the cells together, and then gives the column its
   alias (`groupedItem_call`).

On a table without rows there is no group, and both look at what the item is on no rows.
`grouping_agrees` says that the two have the same table, or the same fault.
-/
namespace FramePlan.Eval

open Table Series

variable {t : Table} {groups : List (List Nat)} {item : Table → Outcome Series} {name : String}
  {d : Dtype}

/-! ## Columns of single cells -/

theorem appendGroup_cell {before : Series} {rows : List Nat} {c : Cell}
    (h : item (t.take rows) = .ok ⟨name, d, [c]⟩) (hd : before.dtype = .null ∨ before.dtype = d) :
    appendGroup t item before rows = .ok ⟨name, d, before.cells ++ [c]⟩ := by
  have hunify : unify before.dtype d = .ok d := by
    obtain hnull | hsame := hd
    · rw [hnull, unify_null]
    · rw [hsame, unify_self]
  have hlen : Series.length ⟨name, d, [c]⟩ = 1 := rfl
  simp only [appendGroup, h, ok_bind, hlen, hunify, ne_eq, not_true_eq_false, if_false, pure_eq_ok]

/-- An item that has one cell on each group, always of one name and type, makes the column of these
    cells. -/
theorem aggregateGroups_cells {cell : List Nat → Cell} {empty : Series}
    (h : ∀ g ∈ groups, item (t.take g) = .ok ⟨name, d, [cell g]⟩)
    (hempty : item (t.take []) = .ok empty) (hname : empty.name = name) (hd : empty.dtype = d) :
    aggregateGroups t groups item = .ok ⟨name, d, coerce d (groups.map cell)⟩ := by
  have hfold (gs : List (List Nat)) (cells : List Cell)
      (hgs : ∀ g ∈ gs, item (t.take g) = .ok ⟨name, d, [cell g]⟩) :
      gs.foldlM (appendGroup t item) ⟨name, d, cells⟩ = .ok ⟨name, d, cells ++ gs.map cell⟩ := by
    induction gs generalizing cells with
    | nil => simp
    | cons g gs ih =>
      obtain ⟨hg, hgs⟩ := List.forall_mem_cons.mp hgs
      rw [List.foldlM_cons, appendGroup_cell hg (.inr rfl), ok_bind, ih _ hgs]
      simp
  cases groups with
  | nil =>
    subst hname hd
    exact aggregateGroups_nil hempty
  | cons g gs =>
    -- The first group settles name and type, and the others keep them.
    obtain ⟨hg, hgs⟩ := List.forall_mem_cons.mp h
    have hfirst : appendGroup t item ⟨"", .null, []⟩ g = .ok ⟨name, d, [cell g]⟩ :=
      appendGroup_cell hg (.inl rfl)
    rw [aggregateGroups, List.isEmpty_cons, if_neg Bool.false_ne_true, List.foldlM_cons, hfirst,
      ok_bind, hfold gs _ hgs]
    rfl

/-- An item that has one cell on each group may be renamed before the cells are put together, or
    after. -/
theorem aggregateGroups_renamed (label : String)
    (single : ∀ rows, Yields (item (t.take rows)) fun s => s.length = 1)
    (quiet : ∃ s, item (t.take []) = .ok s) :
    aggregateGroups t groups (fun part => (item part).map (·.renamed label)) =
      (aggregateGroups t groups item).map (·.renamed label) := by
  -- A group renames the column that its cell goes behind, so it does not matter what that was called.
  have hstep (before : Series) (rows : List Nat) :
      appendGroup t (fun part => (item part).map (·.renamed label)) (before.renamed label) rows =
        (appendGroup t item before rows).map (·.renamed label) := by
    cases hi : item (t.take rows) with
    | error fault => simp only [appendGroup, hi, Except.map, error_bind]
    | ok s =>
      have h1 : s.length = 1 := single rows s hi
      have h1' : (s.renamed label).length = 1 := h1
      simp only [appendGroup, hi, Except.map, ok_bind, h1, h1', ne_eq, not_true_eq_false, if_false]
      show (unify before.dtype s.dtype >>= _) = _
      cases unify before.dtype s.dtype <;> rfl
  have hfold (gs : List (List Nat)) (before : Series) :
      gs.foldlM (appendGroup t fun part => (item part).map (·.renamed label))
          (before.renamed label) =
        (gs.foldlM (appendGroup t item) before).map (·.renamed label) := by
    induction gs generalizing before with
    | nil => rfl
    | cons g gs ih =>
      rw [List.foldlM_cons, List.foldlM_cons, hstep]
      cases appendGroup t item before g with
      | error fault => rfl
      | ok next => exact ih next
  cases groups with
  | nil =>
    obtain ⟨s, hs⟩ := quiet
    rw [aggregateGroups_nil hs, aggregateGroups_nil (s := s.renamed label) (by rw [hs]; rfl)]
    rfl
  | cons g gs =>
    have hstart : (g :: gs).foldlM (appendGroup t fun part => (item part).map (·.renamed label))
          ⟨"", .null, []⟩ =
        ((g :: gs).foldlM (appendGroup t item) ⟨"", .null, []⟩).map (·.renamed label) :=
      hfold (g :: gs) ⟨"", .null, []⟩
    rw [aggregateGroups, aggregateGroups, List.isEmpty_cons, if_neg Bool.false_ne_true, hstart]
    cases (g :: gs).foldlM (appendGroup t item) ⟨"", .null, []⟩ <;> rfl

end FramePlan.Eval

namespace FramePlan.Sql

open FramePlan.Eval Table Series

variable {t : Table} {groups : List (List Nat)} {e : Expr}

/-! ## Keys -/

theorem perGroup_ident {k : Ident} {c : Series} {row : Nat} {rest : List Nat}
    (hc : t.column k.value = .ok c) :
    perGroup (.ident k) (t.take (row :: rest)) = .ok ⟨c.name, c.dtype, [c.cellAt row]⟩ := by
  have hcell : (c.take (row :: rest)).cellAt 0 = c.cellAt row :=
    cellAt_take c (Nat.succ_pos rest.length)
  have hplain : (Expr.ident k).isAggregate = false := by rw [Expr.isAggregate]
  have hrows : (t.take (row :: rest)).height ≠ 0 := Nat.succ_ne_zero rest.length
  rw [perGroup, hplain, if_neg Bool.false_ne_true, if_neg hrows, Expr.eval, column_take,
    column_take, hc]
  simp only [Except.map, Series.take, List.map_cons, List.map_nil] at hcell ⊢
  rw [hcell]

theorem groupedItem_key {k : Ident} {c : Series} (hc : t.column k.value = .ok c)
    (hname : c.name = k.value) (typed : SeriesTyped c) (hne : ∀ g ∈ groups, g ≠ []) :
    groupedItem t groups (.unnamed (.ident k)) =
      .ok (c.take (groups.map fun g => g.head?.getD 0)) := by
  have hcells : ∀ g ∈ groups, perGroup (.ident k) (t.take g) =
      .ok ⟨c.name, c.dtype, [c.cellAt (g.head?.getD 0)]⟩ := by
    intro g hg
    obtain ⟨row, rest, rfl⟩ := List.exists_cons_of_ne_nil (hne g hg)
    exact perGroup_ident hc
  have hempty : perGroup (.ident k) (t.take []) = .ok ⟨c.name, c.dtype, [.null]⟩ := by
    have hplain : (Expr.ident k).isAggregate = false := by rw [Expr.isAggregate]
    have hrows : (t.take []).height = 0 := rfl
    rw [perGroup, hplain, if_neg Bool.false_ne_true, if_pos hrows, Expr.eval, column_take, hc]
    rfl
  have hcoerce : coerce c.dtype (groups.map fun g => c.cellAt (g.head?.getD 0)) =
      groups.map fun g => c.cellAt (g.head?.getD 0) := by
    apply coerce_of_has
    intro cell hm
    obtain ⟨g, -, rfl⟩ := List.mem_map.mp hm
    exact has_cellAt typed _
  have hdefault : (Expr.ident k).defaultName = c.name := by
    rw [Expr.defaultName, Expr.leftmost?, Option.getD_some, hname]
    intro _ _ _ _ _ h
    cases h
  rw [groupedItem, aggregateGroups_cells hcells hempty rfl rfl, hcoerce, ok_bind, hdefault,
    Series.take, List.map_map]
  rfl

/-! ## Aggregates -/

/-- A call of an aggregate function, on all rows or on one expression. -/
inductive AggregateCall : Expr → Prop
  | rows {name : List Ident} (before behind tail : String) (h : functionName name = "count") :
      AggregateCall (.call name (.list before [.wildcard] behind) false tail)
  | on {name : List Ident} {op : AggOp} (e : Expr) (before behind tail : String)
      (h : aggregateOf? (functionName name) = some op) :
      AggregateCall (.call name (.list before [.expr e] behind) false tail)

theorem contains_of_aggregateOf? {name : String} {op : AggOp} (h : aggregateOf? name = some op) :
    aggregateNames.contains name = true := by
  by_contra hnot
  have hnone : aggregateOf? name = none := by
    simp only [aggregateNames, List.contains_iff_mem, List.mem_cons, List.not_mem_nil, or_false,
      not_or] at hnot
    simp [aggregateOf?, hnot]
  rw [hnone] at h
  cases h

theorem AggregateCall.isAggregate (h : AggregateCall e) : e.isAggregate = true := by
  cases h with
  | rows before behind tail h =>
    have hname : aggregateNames.contains "count" = true := by decide
    rw [Expr.isAggregate, h, hname, Bool.true_or]
  | on e before behind tail h => rw [Expr.isAggregate, contains_of_aggregateOf? h, Bool.true_or]

theorem AggregateCall.single (h : AggregateCall e) (t : Table) :
    Yields (e.eval t) fun s => s.length = 1 := by
  cases h with
  | rows before behind tail h =>
    rw [Expr.eval]
    simp only [Args.eval, evalArgs, understood, pure_eq_ok, ok_bind, Bool.false_eq_true, if_false, h]
    exact .ok rfl
  | on e before behind tail h =>
    rw [Expr.eval]
    simp only [Args.eval, evalArgs, understood, pure_eq_ok, ok_bind, Bool.false_eq_true, if_false]
    rw [applyFunction_aggregate h]
    refine Yields.after ?_
    intro s _
    exact .ite (fun _ => .error _) fun _ => .ok rfl

theorem AggregateCall.perGroup_eq (h : AggregateCall e) (group : Table) :
    perGroup e group = e.eval group := by
  rw [perGroup, if_pos h.isAggregate]
  cases heval : e.eval group with
  | error fault => rfl
  | ok s =>
    have h1 : s.length = 1 := h.single group s heval
    rw [ok_bind, broadcast, if_pos h1]

/-- The text, as a fragment, is read as the one select item. -/
def ReadAsItem [Sql.Reader] (text : String) (item : Item) : Prop :=
  ∃ select q, readSelect ("SELECT " ++ text ++ " FROM " ++ inputTable) = .ok (select, q) ∧
    select.items = [item]

theorem evalFragment_of_readAsItem [Sql.Reader] {text : String} {item : Item} (h : ReadAsItem text item) :
    evalFragment text t = item.eval t := by
  obtain ⟨select, q, hread, hitems⟩ := h
  rw [evalFragment, hread]
  simp only [ok_bind, hitems]

/-- An aggregate under an alias, and a fragment that says it. -/
structure LabelledAggregate [Sql.Reader] where
  text : String
  call : Expr
  label : Ident
  isCall : AggregateCall call
  read : ReadAsItem text (.named call label)

/-- The column that the statement makes of an aggregate is the one that the operation makes of the
    fragment. -/
theorem groupedItem_call [Sql.Reader] (a : LabelledAggregate) (quiet : ∃ s, a.call.eval (t.take []) = .ok s) :
    groupedItem t groups (.named a.call a.label) =
      aggregateGroups t groups fun part => evalFragment a.text part := by
  have hfragment : (fun part => evalFragment a.text part) =
      fun part => (a.call.eval part).map (·.renamed a.label.value) := by
    funext part
    rw [evalFragment_of_readAsItem a.read, Item.eval]
    cases a.call.eval part <;> rfl
  have hgroup : perGroup a.call = fun part => a.call.eval part := by
    funext part
    exact a.isCall.perGroup_eq part
  rw [hfragment, aggregateGroups_renamed _ (fun rows => a.isCall.single _) quiet, groupedItem, hgroup]
  cases aggregateGroups t groups fun part => a.call.eval part <;> rfl

/-! ## Statements that group -/

/-- A SELECT of the items from the rows at hand, grouped by the keys, with no other clause. -/
structure Select.Groups (select : Select) (q : Query) (keys : List Expr) (items : List Item) :
    Prop where
  distinct : select.distinct = none
  items : select.items = items
  source : ∀ input, sourceRows (some input) select.sources = .ok input
  filter : select.filter = none
  keys : select.groupBy = .exprs keys
  having : select.having = none
  orderBy : q.orderBy = []
  limit : q.limit = none

/-- The text is read as such a SELECT. -/
def ReadAsGrouping [Sql.Reader] (text : String) (keys : List Expr) (items : List Item) : Prop :=
  ∃ select q, readSelect text = .ok (select, q) ∧ select.Groups q keys items

theorem query_of_readAsGrouping [Sql.Reader] {text : String} {keys : List Expr} {items : List Item}
    (h : ReadAsGrouping text keys items) (hne : keys ≠ []) :
    query text (some t) = (do
      let series ← keys.mapM fun e => do (← e.eval t).broadcast t.height
      let columns ← items.mapM (groupedItem t (partition series t.height))
      Table.ofColumns columns) := by
  obtain ⟨select, q, hread, hs⟩ := h
  have hkeys : keys.isEmpty = false := List.isEmpty_eq_false_iff.mpr hne
  have hrows : select.rows (some t) = grouped t select keys := by
    simp [Select.rows, hs.distinct, hs.source, hs.filter, hs.keys, GroupBy.keys, hne]
  have hgrouped : grouped t select keys = (do
      let series ← keys.mapM fun e => do (← e.eval t).broadcast t.height
      let columns ← items.mapM (groupedItem t (partition series t.height))
      Table.ofColumns columns) := by
    simp [grouped, hs.having, keepGroups, hs.items, hkeys]
  have hlast (output : Table) :
      (ordered output [] >>= fun sorted => limited sorted none) = .ok output := rfl
  rw [query, hread, ok_bind]
  simp only [hrows, hgrouped, hs.orderBy, hs.limit, hlast]
  exact bind_pure _

/-! ## The two groupings agree -/

/-- The items of the statement: the keys, and then the aggregates under their aliases. -/
def groupedItems [Sql.Reader] (keys : List Ident) (aggs : List LabelledAggregate) : List Item :=
  keys.map (fun k => .unnamed (.ident k)) ++ aggs.map fun a => .named a.call a.label

/-- The operation on the same keys and, as fragments, the same aggregates. -/
def groupedOperation [Sql.Reader] (keys : List Ident) (aggs : List LabelledAggregate) : Operation :=
  .groupBy (keys.map fun k => .name k.value) (aggs.map fun a => .raw a.text)

variable {keys : List Ident} {columns : List Series}

/-- The key columns are as high as the table, so nothing is spread. -/
theorem mapM_keyColumns {f : Ident → Outcome Series} (ht : t.WellFormed)
    (named : ∀ k ∈ keys, k.value ∈ t.names) (hf : ∀ k, f k = t.column k.value) :
    (keys.mapM fun k => do (← f k).broadcast t.height) = keys.mapM fun k => t.column k.value := by
  apply mapM_congr
  intro k hk
  obtain ⟨c, hc, hcol, -⟩ := exists_column (named k hk)
  rw [hf, hcol, ok_bind, broadcast, if_pos (ht.1 c hc).1]

theorem mapM_groupedItem_keys (ht : t.WellFormed) (named : ∀ k ∈ keys, k.value ∈ t.names)
    (hne : ∀ g ∈ groups, g ≠ []) (hcols : keys.mapM (fun k => t.column k.value) = .ok columns) :
    (keys.map fun k => Item.unnamed (.ident k)).mapM (groupedItem t groups) =
      .ok (columns.map (·.take (groups.map fun g => g.head?.getD 0))) := by
  have heach : List.Forall₂ (fun k c => t.column k.value = .ok c) keys columns := mapM_eq_ok.mp hcols
  apply mapM_eq_ok.mpr
  rw [List.forall₂_map_left_iff, List.forall₂_map_right_iff]
  refine ((List.forall₂_and_left _ _).mpr ⟨named, heach⟩).imp ?_
  rintro k c ⟨hk, hc⟩
  have hname : c.name = k.value := name_column hk c hc
  have typed : SeriesTyped c := (ht.1 c (mem_column c hc)).2
  exact groupedItem_key hc hname typed hne

/-- **A statement groups as the operation does.** The keys are columns of the table, by their exact
names, and the aggregates have no fault on no rows. Then the operation on the keys and the fragments
makes the table, or has the fault, that the statement with the keys and the aggregates has. -/
theorem grouping_agrees [Sql.Reader] (files : Files) (ht : t.WellFormed) (keys : List Ident)
    (aggs : List LabelledAggregate) (text : String) (hkeys : keys ≠ [])
    (named : ∀ k ∈ keys, k.value ∈ t.names)
    (quiet : ∀ a ∈ aggs, ∃ s, a.call.eval (t.take []) = .ok s)
    (read : ReadAsGrouping text (keys.map .ident) (groupedItems keys aggs)) :
    apply files t (groupedOperation keys aggs) = apply files t (.query text) := by
  -- Both look up the same key columns, and partition the rows by them.
  have hfound : ∃ columns, keys.mapM (fun k => t.column k.value) = .ok columns := by
    apply exists_mapM_eq_ok.mpr
    intro k hk
    obtain ⟨c, -, hc, -⟩ := exists_column (named k hk)
    exact ⟨c, hc⟩
  obtain ⟨columns, hcols⟩ := hfound
  have hnames : ((keys.map fun k => Selector.name k.value).mapM fun k => do
      (← k.eval t).broadcast t.height) = .ok columns := by
    rw [List.mapM_map, ← hcols]
    exact mapM_keyColumns ht named fun k => rfl
  have hidents : ((keys.map Expr.ident).mapM fun e => do (← e.eval t).broadcast t.height) =
      .ok columns := by
    rw [List.mapM_map, ← hcols]
    exact mapM_keyColumns ht named fun k => by rw [Expr.eval]
  have hrows : ∀ g ∈ partition columns t.height, g ≠ [] := fun g hg => ne_nil_of_mem_partition hg
  have haggs : (aggs.map fun a => Item.named a.call a.label).mapM
        (groupedItem t (partition columns t.height)) =
      (aggs.map fun a group => (Selector.raw a.text).eval group).mapM
        (aggregateGroups t (partition columns t.height)) := by
    rw [List.mapM_map, List.mapM_map]
    apply mapM_congr
    intro a ha
    exact groupedItem_call a (quiet a ha)
  have hitems : (groupedItems keys aggs).mapM (groupedItem t (partition columns t.height)) = (do
      let aggregates ← (aggs.map fun a group => (Selector.raw a.text).eval group).mapM
        (aggregateGroups t (partition columns t.height))
      pure (columns.map (·.take ((partition columns t.height).map fun g => g.head?.getD 0)) ++
        aggregates)) := by
    rw [groupedItems, List.mapM_append, mapM_groupedItem_keys ht named hrows hcols, ok_bind, haggs]
  have hstatement : apply files t (.query text) = (do
      let series ← (groupedItems keys aggs).mapM (groupedItem t (partition columns t.height))
      Table.ofColumns series) := by
    rw [apply, query_of_readAsGrouping read (by simpa using hkeys), hidents, ok_bind]
  rw [hstatement, hitems, groupedOperation, apply, groupBy, hnames, ok_bind, groupTable, bind_assoc,
    List.map_map]
  rfl

/-! ## Plain statements -/

def columnCall (function : String) (of : Option String) : Expr :=
  let arg : Arg := match of with
    | some name => .expr (.ident ⟨name, none⟩)
    | none => .wildcard
  .call [⟨function, none⟩] (.list "" [arg] "") false ""

/-- An item without quotes and modifiers: a column, or an aggregate of one under an alias. -/
inductive PlainItem
  | column (name : String)
  | aggregate (function : String) (of : Option String) (label : String)
  deriving DecidableEq

namespace PlainItem

def item : PlainItem → Item
  | .column name => .unnamed (.ident ⟨name, none⟩)
  | .aggregate function of label => .named (columnCall function of) ⟨label, none⟩

/-- The plain item that an item is, if it is one. -/
def ofItem? : Item → Option PlainItem
  | .unnamed (.ident ⟨name, none⟩) => some (.column name)
  | .named (.call [⟨function, none⟩] (.list "" [.expr (.ident ⟨name, none⟩)] "") false "")
      ⟨label, none⟩ => some (.aggregate function (some name) label)
  | .named (.call [⟨function, none⟩] (.list "" [.wildcard] "") false "") ⟨label, none⟩ =>
    some (.aggregate function none label)
  | _ => none

theorem eq_item_of_ofItem? {i : Item} {p : PlainItem} (h : ofItem? i = some p) : i = p.item := by
  unfold ofItem? at h
  split at h <;> cases h <;> rfl

theorem eq_map_item {items : List Item} {ps : List PlainItem}
    (h : items.map ofItem? = ps.map some) : items = ps.map item := by
  induction items generalizing ps with
  | nil =>
    cases ps with
    | nil => rfl
    | cons p ps => cases h
  | cons i items ih =>
    cases ps with
    | nil => cases h
    | cons p ps =>
      obtain ⟨hp, hps⟩ := List.cons.inj h
      rw [eq_item_of_ofItem? hp, ih hps, List.map_cons]

end PlainItem

/-- Whether the text, as a fragment, is read as the plain item. -/
def readsItem [Sql.Reader] (text : String) (p : PlainItem) : Bool :=
  match readSelect ("SELECT " ++ text ++ " FROM " ++ inputTable) with
  | .ok (select, _) => select.items.map PlainItem.ofItem? == [some p]
  | .error _ => false

theorem readAsItem_of_readsItem [Sql.Reader] {text : String} (p : PlainItem) (h : readsItem text p = true) :
    ReadAsItem text p.item := by
  unfold readsItem at h
  split at h
  · rename_i select q hread
    have hitem : select.items.map PlainItem.ofItem? = [p].map some := beq_iff_eq.mp h
    exact ⟨select, q, hread, PlainItem.eq_map_item hitem⟩
  · cases h

/-- Whether the text is read as the SELECT of the plain items, grouped by the columns. -/
def readsGrouping [Sql.Reader] (text : String) (names : List String) (items : List PlainItem) : Bool :=
  match readSelect text with
  | .ok (select, q) =>
    match select.distinct, select.sources, select.filter, select.groupBy, select.having, q.orderBy,
        q.limit with
    | none, [s], none, .exprs keys, none, [], none =>
      (s.joins.isEmpty && s.isNamed && Text.eqIgnoringAsciiCase s.name inputTable) &&
        (keys.map fun e => PlainItem.ofItem? (.unnamed e)) == names.map (some <| .column ·) &&
        select.items.map PlainItem.ofItem? == items.map some
    | _, _, _, _, _, _, _ => false
  | .error _ => false

theorem readAsGrouping_of_readsGrouping [Sql.Reader] {text : String} (names : List String)
    (items : List PlainItem) (h : readsGrouping text names items = true) :
    ReadAsGrouping text (names.map fun name => .ident ⟨name, none⟩) (items.map PlainItem.item) := by
  unfold readsGrouping at h
  split at h
  · rename_i select q hread
    split at h
    · rename_i s keys hdistinct hsources hfilter hgroup hhaving horder hlimit
      simp only [Bool.and_eq_true, beq_iff_eq] at h
      obtain ⟨⟨⟨⟨hjoins, hnamed⟩, hinput⟩, hkeys⟩, hitems⟩ := h
      have hsource (input : Table) : sourceRows (some input) select.sources = .ok input := by
        simp [hsources, sourceRows, hjoins, hnamed, hinput]
      have hidents : keys.map Item.unnamed =
          (names.map PlainItem.column).map PlainItem.item := by
        apply PlainItem.eq_map_item
        rw [List.map_map, List.map_map]
        exact hkeys
      have heq : keys = names.map fun name => .ident ⟨name, none⟩ := by
        have hinj : Function.Injective Item.unnamed := fun _ _ h => Item.unnamed.inj h
        apply List.map_injective_iff.mpr hinj
        rw [hidents, List.map_map, List.map_map]
        rfl
      exact ⟨select, q, hread, hdistinct, PlainItem.eq_map_item hitems, hsource, hfilter, heq ▸ hgroup,
        hhaving, horder, hlimit⟩
    · cases h
  · cases h

/-! ### Goods by kind -/

attribute [local instance] Sql.dialect

/-- Goods of a kind or of none, some of them not counted. -/
def goods : Table :=
  ⟨[⟨"kind", .str, [.str "nut", .null, .str "nut", .null]⟩,
    ⟨"n", .i64, [.int 3, .null, .int 4, .null]⟩], 4⟩

def totals : List LabelledAggregate :=
  [⟨"sum(n) AS total", columnCall "sum" (some "n"), ⟨"total", none⟩,
      .on _ "" "" "" (rfl : aggregateOf? _ = some .sum),
      readAsItem_of_readsItem (.aggregate "sum" (some "n") "total") (by decide +kernel)⟩,
    ⟨"COUNT(*) rows", columnCall "COUNT" none, ⟨"rows", none⟩, .rows "" "" "" rfl,
      readAsItem_of_readsItem (.aggregate "COUNT" none "rows") (by decide +kernel)⟩]

def goodsByKind : String := "SELECT kind, sum(n) AS total, COUNT(*) rows FROM df GROUP BY kind"

/-- The totals by kind, of the goods and of no goods. -/
theorem grouping_agrees_goods :
    (apply [] goods (groupedOperation [⟨"kind", none⟩] totals) = apply [] goods (.query goodsByKind) ∧
      apply [] goods (.query goodsByKind) =
        .ok ⟨[⟨"kind", .str, [.str "nut", .null]⟩, ⟨"total", .i64, [.int 7, .int 0]⟩,
          ⟨"rows", .u32, [.int 2, .int 2]⟩], 2⟩) ∧
    apply [] (goods.take []) (groupedOperation [⟨"kind", none⟩] totals) =
        apply [] (goods.take []) (.query goodsByKind) ∧
      apply [] (goods.take []) (.query goodsByKind) =
        .ok ⟨[⟨"kind", .str, []⟩, ⟨"total", .i64, []⟩, ⟨"rows", .u32, []⟩], 0⟩ := by
  have read : ReadAsGrouping goodsByKind ([⟨"kind", none⟩].map .ident)
      (groupedItems [⟨"kind", none⟩] totals) :=
    readAsGrouping_of_readsGrouping ["kind"]
      [.column "kind", .aggregate "sum" (some "n") "total", .aggregate "COUNT" none "rows"]
      (by decide +kernel)
  have hgoods : goods.WellFormed := by
    simp [WellFormed, goods, SeriesTyped, CellHas, Series.length, names]
  have quiet : ∀ a ∈ totals, ∃ s, a.call.eval (goods.take []) = .ok s := by
    simp only [totals, List.forall_mem_cons, List.not_mem_nil, false_imp_iff, implies_true, and_true]
    exact ⟨⟨⟨"n", .i64, [.int 0]⟩, by decide +kernel⟩, ⟨⟨"count", .u32, [.int 0]⟩, by decide +kernel⟩⟩
  refine ⟨⟨?_, ?_⟩, ?_, ?_⟩
  · exact grouping_agrees [] hgoods _ totals goodsByKind (by simp) (by decide) quiet read
  · rw [apply, query_of_readAsGrouping read (by simp)]
    decide +kernel
  · exact grouping_agrees [] (hgoods.take []) _ totals goodsByKind (by simp) (by decide) quiet read
  · rw [apply, query_of_readAsGrouping read (by simp)]
    decide +kernel

end FramePlan.Sql
