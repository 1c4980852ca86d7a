import FramePlan.Proofs.Eval.TableTyping
import FramePlan.Proofs.Sql.ColumnRules

/-!
# Types of queries

Expressions of queries give fitting series and statements give well-formed tables, whatever syntax
tree they are: nothing here looks at where a tree comes from. Expressions go by the recursion of the
tree with its operands, branches and arguments.
-/
namespace FramePlan.Sql

open FramePlan.Eval Table Series

variable {t : Table} {n : Nat}

/-! ## Functions -/

theorem has_absCell {d : Dtype} {c : Cell} (h : CellHas d c) : CellHas d (absCell c) := by
  cases c with
  | int i =>
    rw [absCell]
    generalize Integer.abs? i = o
    exact has_ofInt? o h
  | _ => exact h

theorem fits_coalesce {args : List Given} (h : ∀ a ∈ args, a.Meets (Series.Fits n)) :
    Yields (coalesce n args) (Series.Fits n) := by
  intro s hs
  have htyped : ∀ a ∈ args, a.Meets SeriesTyped := fun a ha => (h a ha).mono fun _ hs => hs.typed
  exact ⟨typing.coalesce htyped s hs, .inr (length_coalesce s hs)⟩

theorem fits_applyFunction (name : String) {args : List Given} (h : ∀ a ∈ args, a.Meets (Series.Fits n)) :
    Yields (applyFunction n name args) (Series.Fits n) := by
  unfold applyFunction
  split
  · exact .ok (.scalar (.inr rfl))
  · exact fits_coalesce h
  · refine Yields.bind (meets_single _ h) ?_
    intro s hs
    exact .ok (fits_map hs fun c hc => has_absCell hc)
  · split
    · refine Yields.bind (meets_single _ h) ?_
      intro s hs
      exact fits_aggregate _ hs.typed
    · refine Yields.bind (meets_single _ h) ?_
      intro s hs
      exact fits_string _ hs
    · exact .error _

/-! ## Cases and negations -/

theorem fits_negated (b : Bool) {s : Series} (h : s.Fits n) :
    Yields (negated b s) (Series.Fits n) :=
  Yields.ite (fun _ => fits_unary .not h) fun _ => .ok h

theorem fits_caseSeries {branches : List (Series × Series)} {fallback : Series}
    (hb : ∀ b ∈ branches, SeriesTyped b.2) (hf : SeriesTyped fallback) :
    Yields (caseSeries n branches fallback) (Series.Fits n) :=
  fun s hs => ⟨typing.caseSeries hb hf s hs, .inr (length_caseSeries s hs)⟩

theorem full_noCase (n : Nat) : Full n (noCase n) := by
  refine ⟨fun c hc => ?_, List.length_replicate⟩
  rw [List.eq_of_mem_replicate hc]
  trivial

theorem fits_sign (sign : Sign) {s : Series} (h : s.Fits n) :
    Yields (sign.apply s) (Series.Fits n) := by
  cases sign with
  | not => exact fits_unary .not h
  | minus => exact fits_unary .neg h
  | plus => exact .ok h

/-! ## Expressions -/

mutual

theorem fits_expr (ht : t.WellFormed) : ∀ (e : Expr), Yields (e.eval t) (Series.Fits t.height)
  | .ident name => ht.column name.value
  | .compound parts => ht.column _
  | .literal l => by
    intro s hs
    obtain ⟨v, -, rfl⟩ := map_eq_ok.mp hs
    exact fits_literal v
  | .nested e => fits_expr ht e
  | .binary op l r => by
    refine Yields.after ?_
    intro op _
    refine Yields.bind (fits_expr ht l) ?_
    intro a ha
    refine Yields.bind (fits_expr ht r) ?_
    intro b hb
    exact fits_binary op ha hb
  | .unary sign e => Yields.bind (fits_expr ht e) fun s hs => fits_sign sign hs
  | .isNull e => Yields.bind (fits_expr ht e) fun s hs => fits_unary .isNull hs
  | .isNotNull e => Yields.bind (fits_expr ht e) fun s hs => fits_unary .isNotNull hs
  | .between e b low high => by
    refine Yields.bind (fits_expr ht e) ?_
    intro x hx
    refine Yields.bind (fits_expr ht low) ?_
    intro l hl
    refine Yields.bind (fits_binary .gtEq hx hl) ?_
    intro above ha
    refine Yields.bind (fits_expr ht high) ?_
    intro h hh
    refine Yields.bind (fits_binary .ltEq hx hh) ?_
    intro below hb
    refine Yields.bind (fits_binary .and ha hb) ?_
    intro s hs
    exact fits_negated b hs
  | .inList e items b => by
    refine Yields.bind (fits_expr ht e) ?_
    intro x hx
    refine Yields.bind (fits_anyEqual ht hx items (.scalar rfl)) ?_
    intro s hs
    exact fits_negated b hs
  | .cast e _ type _ => by
    refine Yields.bind (fits_expr ht e) ?_
    intro s hs
    cases type.target with
    | none => exact .error _
    | some target => exact .ok (fits_cast hs target)
  | .case operand branches otherwise => by
    refine Yields.after ?_
    intro subject _
    refine Yields.bind (typed_branches ht subject branches) ?_
    intro pairs hp
    refine Yields.bind (fits_optional ht otherwise) ?_
    intro fallback hf
    -- Without an ELSE the fallback is a column of nulls.
    cases fallback with
    | none => exact Yields.bind (Yields.ok (full_noCase t.height)) fun f h => fits_caseSeries hp h.1
    | some s => exact Yields.bind (full_broadcast (hf s rfl).typed) fun f h => fits_caseSeries hp h.1
  | .call name args windowed _ => by
    refine Yields.ite (fun _ => .error _) fun _ => ?_
    refine Yields.bind (fits_args ht args) ?_
    intro given hg
    exact fits_applyFunction _ hg
  | .subquery _ => .error _
  | .foreign _ => .error _

theorem fits_optional (ht : t.WellFormed) : ∀ (e : Option Expr),
    Yields (evalOptional t e) fun o => ∀ s ∈ o, Series.Fits t.height s
  | none => .ok fun _ hs => nomatch hs
  | some e => Yields.bind (fits_expr ht e) fun s hs => .ok fun r hr => by
    cases hr
    exact hs

theorem fits_anyEqual (ht : t.WellFormed) {x : Series} (hx : x.Fits t.height) :
    ∀ (items : List Expr) {found : Series}, found.Fits t.height →
      Yields (anyEqual t x items found) (Series.Fits t.height)
  | [], _, hf => .ok hf
  | e :: es, _, hf => by
    refine Yields.bind (fits_expr ht e) ?_
    intro s hs
    refine Yields.bind (fits_binary .eq hx hs) ?_
    intro hit hh
    refine Yields.bind (fits_binary .or hf hh) ?_
    intro found hfound
    exact fits_anyEqual ht hx es hfound

theorem typed_branches (ht : t.WellFormed) (subject : Option Series) :
    ∀ (branches : List (Expr × Expr)),
      Yields (evalBranches t subject branches) fun pairs => ∀ p ∈ pairs, SeriesTyped p.2
  | [] => .ok fun _ hp => absurd hp List.not_mem_nil
  | (c, r) :: rest => by
    -- Of a test only its true cells matter, so its type does not.
    refine Yields.after ?_
    intro condition _
    refine Yields.after ?_
    intro test _
    refine Yields.after ?_
    intro full _
    refine Yields.bind (fits_expr ht r) ?_
    intro s hr
    refine Yields.bind (full_broadcast hr.typed) ?_
    intro result hresult
    refine Yields.bind (typed_branches ht subject rest) ?_
    intro more hm
    exact .ok (List.forall_mem_cons.mpr ⟨hresult.1, hm⟩)

theorem fits_args (ht : t.WellFormed) : ∀ (args : Args),
    Yields (args.eval t) fun given => ∀ a ∈ given, a.Meets (Series.Fits t.height)
  | .bare => .ok fun _ ha => absurd ha List.not_mem_nil
  | .query _ => .error _
  | .list _ args _ => meets_understood (fits_evalArgs ht args)

theorem fits_evalArgs (ht : t.WellFormed) : ∀ (args : List Arg),
    ∀ a ∈ evalArgs t args, a.Meets (Series.Fits t.height)
  | [] => fun _ ha => absurd ha List.not_mem_nil
  | .expr e :: rest => List.forall_mem_cons.mpr ⟨fits_expr ht e, fits_evalArgs ht rest⟩
  | .wildcard :: rest => List.forall_mem_cons.mpr ⟨trivial, fits_evalArgs ht rest⟩
  | .foreign _ :: rest => List.forall_mem_cons.mpr ⟨trivial, fits_evalArgs ht rest⟩

end

/-! ## Fragments -/

theorem fits_item (ht : t.WellFormed) (item : Item) : Yields (item.eval t) (Series.Fits t.height) := by
  cases item with
  | unnamed e => exact Yields.bind (fits_expr ht e) fun s hs => .ok (hs.renamed _)
  | named e name => exact Yields.bind (fits_expr ht e) fun s hs => .ok (hs.renamed _)
  | wildcard tail => exact .error _
  | foreign text => exact .error _

theorem fits_evalFragment [Sql.Reader] (ht : t.WellFormed) (text : String) :
    Yields (evalFragment text t) (Series.Fits t.height) := by
  refine Yields.after ?_
  intro p _
  dsimp only
  split
  · exact fits_item ht _
  · exact .error _

/-! ## Statements -/

theorem fitting_perGroup (e : Expr) : Fitting (perGroup e) := by
  intro t ht
  refine Yields.ite (fun _ => ?_) fun _ => Yields.ite (fun _ => ?_) fun _ => ?_
  · refine Yields.bind (fits_expr ht e) ?_
    intro s hs
    refine (full_broadcast hs.typed).mono fun r hr => ?_
    exact ⟨hr.1, .inl hr.2⟩
  · refine Yields.after ?_
    intro s _
    refine .ok ⟨fun c hc => ?_, .inl rfl⟩
    rw [List.mem_singleton.mp hc]
    trivial
  · -- On the first row alone, one cell for each row is one cell.
    refine (fits_expr (ht.take [0]) e).mono fun s hs => ⟨hs.typed, .inl ?_⟩
    exact hs.spread.elim id id

theorem typed_groupedItem (ht : t.WellFormed) (groups : List (List Nat)) (item : Item) :
    Yields (groupedItem t groups item) SeriesTyped := by
  have named : ∀ (e : Expr) (name : String), Yields (do
      let s ← aggregateGroups t groups (perGroup e)
      pure (s.renamed name)) SeriesTyped := fun e name =>
    Yields.bind (typed_aggregateGroups (fitting_perGroup e) ht groups) fun s hs => .ok hs
  cases item with
  | unnamed e => exact named e _
  | named e name => exact named e _
  | wildcard tail => exact .error _
  | foreign text => exact .error _

theorem wellFormed_grouped (ht : t.WellFormed) (select : Select) (keys : List Expr) :
    Yields (grouped t select keys) WellFormed := by
  refine Yields.after ?_
  intro series _
  refine Yields.after ?_
  intro groups _
  exact Yields.bind (Yields.mapM fun item _ => typed_groupedItem ht groups item) fun _ h =>
    wellFormed_ofColumns h

theorem wellFormed_rows {input : Option Table} (hi : ∀ t ∈ input, t.WellFormed)
    (select : Select) : Yields (select.rows input) WellFormed := by
  unfold Select.rows
  refine Yields.ite (fun _ => .stop _ _) fun _ => ?_
  refine Yields.bind (sourceRows_spec wellFormed_unit hi _) ?_
  intro source hs
  -- What follows the filter is the same with one and without.
  have rest : ∀ filtered : Table, filtered.WellFormed → Yields (do
      let keys ← select.groupBy.keys
      if !keys.isEmpty || select.items.any Item.isAggregate then grouped filtered select keys
      else projected filtered select.items) WellFormed := fun filtered hf =>
    Yields.after fun keys _ => Yields.ite (fun _ => wellFormed_grouped hf select keys) fun _ =>
      typing.projected hf fun item _ => (fits_item hf item).mono fun _ hs => hs.typed
  split
  · refine Yields.after ?_
    intro _ _
    exact Yields.bind (typing.mask hs _) rest
  · exact rest source hs

/-- The result of a statement, whatever syntax tree its text has. -/
theorem wellFormed_query [Sql.Reader] {input : Option Table} (hi : ∀ t ∈ input, t.WellFormed)
    (text : String) : Yields (query text input) WellFormed := by
  refine Yields.after ?_
  intro p _
  refine Yields.bind (wellFormed_rows hi p.1) ?_
  intro output ho
  refine Yields.bind (typing.ordered ho p.2.orderBy) ?_
  intro sorted hs
  exact typing.limited hs p.2.limit

end FramePlan.Sql
