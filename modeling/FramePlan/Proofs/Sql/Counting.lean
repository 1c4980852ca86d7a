import FramePlan.Proofs.Eval.Accounts
import FramePlan.Proofs.Sql.Grouping
import FramePlan.Proofs.Sql.Typing

/-!
# Counts in queries

The events of a query account for its expressions and for the rows that it makes.
-/
namespace FramePlan.Sql

open FramePlan.Eval Series

variable {t : Table} {n : Nat}

/-! ## Functions -/

theorem isCount_absCell {c : Cell} (h : c.IsCount) : (absCell c).IsCount := by
  cases c with
  | int i =>
    have hcount : 0 ≤ i.toInt ∧ i.toInt ≤ maxCount := h
    have habs : 0 ≤ (i.toInt.natAbs : Int) ∧ (i.toInt.natAbs : Int) ≤ maxCount := by omega
    rw [absCell, Integer.abs?]
    -- The number is hidden from the range check, which is not to be computed.
    generalize (i.toInt.natAbs : Int) = z at habs ⊢
    exact Cell.isCount_ofInt? habs
  | null => trivial
  | _ => cases h

theorem admits_absCell {d : Dtype} {c : Cell} (h : d.Admits c) : d.Admits (absCell c) := by
  cases d with
  | u32 => exact isCount_absCell h
  | null =>
    cases h
    rfl
  | _ => trivial

theorem columns_callReduction (name : String) (args : Outcome (List Given)) :
    ∀ event ∈ callReduction name args, event.columns = [] := by
  cases args with
  | error e => exact fun _ he => absurd he List.not_mem_nil
  | ok given =>
    simp only [callReduction, onSuccess]
    split
    · exact columns_reduction _ _
    · exact fun _ he => absurd he List.not_mem_nil

/-- A function on sound arguments. Of an aggregate it is listed what it makes of its argument. -/
theorem accounts_applyFunction (hn : n ≤ maxCount) (name : String) {args : List Given}
    (h : ∀ a ∈ args, a.Meets Series.Sound) :
    Accounts (callReduction name (.ok args)) (Yields (applyFunction n name args) Counted) := by
  have plain {x : Outcome Series} (hx : Yields x Counted) :
      Accounts (callReduction name (.ok args)) (Yields x Counted) :=
    Accounts.of_empty (columns_callReduction name _) fun _ => hx
  have hone := meets_single name h
  have hcounted : ∀ a ∈ args, a.Meets Counted := fun a ha => (h a ha).mono fun _ hs => hs.counted
  unfold applyFunction
  split
  · exact plain (.ok (counted_scalar (Cell.isCount_ofCount hn)))
  · exact plain (counting.coalesce hcounted)
  · exact plain (Yields.bind hone fun s hs => .ok (counted_map admits_absCell hs.counted))
  · split
    · rename_i hop
      simp only [callReduction, onSuccess, hop]
      exact Accounts.reduction hone
    · exact plain (Yields.bind hone fun s hs => counted_string _ hs.short)
    · exact plain (.error _)

/-! ## Cases and negations -/

theorem counted_negated (b : Bool) {s : Series} (h : s.Counted) : Yields (negated b s) Counted :=
  Yields.ite (fun _ => counted_unary .not h) fun _ => .ok h

theorem counted_sign (sign : Sign) {s : Series} (h : s.Counted) : Yields (sign.apply s) Counted := by
  cases sign with
  | not => exact counted_unary .not h
  | minus => exact counted_unary .neg h
  | plus => exact .ok h

theorem counted_truth {op : BinaryOp} {l r : Series} (hop : family op ≠ .arithmetic) :
    Yields (binary op l r) Counted := by
  intro s h
  obtain ⟨p, -, h⟩ := bind_eq_ok.mp h
  obtain ⟨d, hd, h⟩ := bind_eq_ok.mp h
  cases h
  have hbool : d = .bool := by
    unfold resultType at hd
    cases hf : family op with
    | arithmetic => exact absurd hf hop
    | comparison =>
      simp only [hf] at hd
      split_ifs at hd
      cases hd
      rfl
    | connective =>
      simp only [hf] at hd
      split_ifs at hd
      cases hd
      rfl
  subst hbool
  exact counted_of_ne (by decide) (by decide)

/-! ## Expressions -/

theorem counted_anyEqual {x : Series} : ∀ (items : List Expr) {found : Series}, found.Counted →
    Yields (anyEqual t x items found) Counted
  | [], _, hf => .ok hf
  | e :: es, _, _ => Yields.after fun _ _ => Yields.after fun _ _ =>
    Yields.bind (counted_truth (by decide)) fun _ h => counted_anyEqual es h

mutual

theorem accounts_expr (ht : t.Sound) : ∀ e : Expr, Accounts (e.trace t) (Yields (e.eval t) Series.Sound)
  | .ident name =>
    .leaf ht (fits_expr ht.wellFormed (.ident name)) (ht.counted.column name.value)
  | .compound parts =>
    .leaf ht (fits_expr ht.wellFormed (.compound parts)) (ht.counted.column _)
  | .literal l => by
    refine .leaf ht (fits_expr ht.wellFormed (.literal l)) ?_
    intro s hs
    obtain ⟨v, -, rfl⟩ := map_eq_ok.mp hs
    exact counted_literal v
  | .nested e => .node ht (fits_expr ht.wellFormed (.nested e)) ((accounts_expr ht e).mono
      fun h => h.mono fun _ hs => hs.counted)
  | .binary op l r => by
    refine .node ht (fits_expr ht.wellFormed (.binary op l r)) ?_
    refine .seq (accounts_expr ht l) fun hl => .seq (accounts_expr ht r) fun hr => ?_
    exact .after fun op _ => .combination hl hr
  | .unary sign e => .node ht (fits_expr ht.wellFormed (.unary sign e)) ((accounts_expr ht e).mono
      fun h => h.bind fun _ hs => counted_sign sign hs.counted)
  | .isNull e => .node ht (fits_expr ht.wellFormed (.isNull e)) ((accounts_expr ht e).mono
      fun h => h.bind fun _ hs => counted_unary .isNull hs.counted)
  | .isNotNull e => .node ht (fits_expr ht.wellFormed (.isNotNull e)) ((accounts_expr ht e).mono
      fun h => h.bind fun _ hs => counted_unary .isNotNull hs.counted)
  | .between e n low high => by
    refine .node ht (fits_expr ht.wellFormed (.between e n low high)) ?_
    refine .seq (accounts_expr ht e) fun _ => .seq (accounts_expr ht low) fun _ =>
      (accounts_expr ht high).mono fun _ => ?_
    refine Yields.after fun _ _ => Yields.after fun _ _ => Yields.after fun _ _ => ?_
    refine Yields.after fun _ _ => Yields.after fun _ _ => ?_
    exact Yields.bind (counted_truth (by decide)) fun _ h => counted_negated n h
  | .inList e items n => by
    refine .node ht (fits_expr ht.wellFormed (.inList e items n)) ?_
    refine .seq (accounts_expr ht e) fun _ => (accounts_all ht items).mono fun _ => ?_
    refine Yields.after fun x _ => Yields.bind (counted_anyEqual items ?_) fun _ h => counted_negated n h
    exact counted_scalar trivial
  | .cast e style type format => by
    refine .node ht (fits_expr ht.wellFormed (.cast e style type format)) ?_
    refine (accounts_expr ht e).mono fun _ => Yields.after fun s _ => ?_
    cases type.target with
    | none => exact .error _
    | some target => exact .ok (counted_cast s target)
  | .case operand branches otherwise => by
    refine .node ht (fits_expr ht.wellFormed (.case operand branches otherwise)) ?_
    refine .seq (accounts_optional ht operand) fun _ => .seq (accounts_branches ht branches) fun hb =>
      (accounts_optional ht otherwise).mono fun ho => ?_
    refine Yields.after fun subject _ => Yields.bind (hb subject) fun pairs hp => ?_
    refine Yields.bind ho fun fallback hf => ?_
    cases fallback with
    | none =>
      exact Yields.bind (Yields.ok (counting.holds_nulls "literal" .null t.height)) fun f h =>
        counting.caseSeries hp h
    | some s => exact Yields.bind ((hf s rfl).counted.broadcast _) fun f h => counting.caseSeries hp h
  | .call name args windowed tail => by
    refine .node ht (fits_expr ht.wellFormed (.call name args windowed tail)) ?_
    cases windowed with
    | true => exact .nil (.error _)
    | false =>
      refine .seq (accounts_args ht args) fun ha => ?_
      refine .after (x := args.eval t) fun given hg => ?_
      exact accounts_applyFunction ht.height _ (ha given hg)
  | .subquery _ => .nil (.error _)
  | .foreign _ => .nil (.error _)

theorem accounts_optional (ht : t.Sound) : ∀ e : Option Expr,
    Accounts (traceOptional t e) (Yields (evalOptional t e) fun o => ∀ s ∈ o, Series.Sound s)
  | none => .nil (.ok fun _ hs => nomatch hs)
  | some e => (accounts_expr ht e).mono fun h => Yields.bind h fun s hs => .ok fun r hr => by
    cases hr
    exact hs

theorem accounts_all (ht : t.Sound) : ∀ es : List Expr,
    Accounts (traceAll t es) (∀ e ∈ es, Yields (e.eval t) Series.Sound)
  | [] => .nil fun _ he => absurd he List.not_mem_nil
  | e :: es => .seq (accounts_expr ht e) fun h => (accounts_all ht es).mono fun hs =>
    List.forall_mem_cons.mpr ⟨h, hs⟩

/-- Of the tests of branches only the true cells matter. -/
theorem accounts_branches (ht : t.Sound) : ∀ branches : List (Expr × Expr),
    Accounts (traceBranches t branches) (∀ subject, Yields (evalBranches t subject branches) fun pairs =>
      ∀ p ∈ pairs, p.2.Counted)
  | [] => .nil fun _ => .ok fun _ hp => absurd hp List.not_mem_nil
  | (c, r) :: rest => by
    refine .seq (accounts_expr ht c) fun _ => .seq (accounts_expr ht r) fun hr =>
      (accounts_branches ht rest).mono fun hrest subject => ?_
    refine Yields.after fun condition _ => Yields.after fun test _ => Yields.after fun full _ => ?_
    refine Yields.bind hr fun s hs => Yields.bind (hs.counted.broadcast _) fun result hresult => ?_
    refine Yields.bind (hrest subject) fun more hm => .ok ?_
    exact List.forall_mem_cons.mpr ⟨hresult, hm⟩

theorem accounts_args (ht : t.Sound) : ∀ args : Args,
    Accounts (args.trace t) (Yields (args.eval t) fun given => ∀ a ∈ given, a.Meets Series.Sound)
  | .bare => .nil (.ok fun _ ha => absurd ha List.not_mem_nil)
  | .query _ => .nil (.error _)
  | .list _ args _ => (accounts_evalArgs ht args).mono meets_understood

theorem accounts_evalArgs (ht : t.Sound) : ∀ args : List Arg,
    Accounts (traceArgs t args) (∀ a ∈ evalArgs t args, a.Meets Series.Sound)
  | [] => .nil fun _ ha => absurd ha List.not_mem_nil
  | .expr e :: rest => .seq (accounts_expr ht e) fun h => (accounts_evalArgs ht rest).mono fun hs =>
    List.forall_mem_cons.mpr ⟨h, hs⟩
  | .wildcard :: rest => (accounts_evalArgs ht rest).mono fun hs => List.forall_mem_cons.mpr ⟨trivial, hs⟩
  | .foreign _ :: rest => (accounts_evalArgs ht rest).mono fun hs => List.forall_mem_cons.mpr ⟨trivial, hs⟩

end

/-! ## Fragments -/

theorem accounts_item (ht : t.Sound) (item : Item) :
    Accounts (item.trace t) (Yields (item.eval t) Series.Sound) := by
  cases item with
  | unnamed e => exact .node ht (fits_item ht.wellFormed (.unnamed e)) ((accounts_expr ht e).mono
      fun h => h.bind fun _ hs => .ok hs.counted)
  | named e name => exact .node ht (fits_item ht.wellFormed (.named e name)) ((accounts_expr ht e).mono
      fun h => h.bind fun _ hs => .ok hs.counted)
  | wildcard tail => exact .nil (.error _)
  | foreign text => exact .nil (.error _)

theorem accounted_evalFragment [Sql.Reader] (text : String) : Accounted (evalFragment text) (traceFragment text) := by
  intro t ht
  refine .after fun p _ => ?_
  dsimp only
  generalize p.1.items = items
  match items with
  | [] => exact .nil (.error _)
  | [item] => exact accounts_item ht item
  | _ :: _ :: _ => exact .nil (.error _)

/-! ## Grouping -/

theorem accounted_perGroup (e : Expr) : Accounted (perGroup e) (tracePerGroup e) := by
  intro group hg
  have hone : 1 ≤ maxCount := by decide
  unfold perGroup tracePerGroup
  by_cases haggregate : e.isAggregate
  · rw [if_pos (.inl haggregate), if_pos haggregate]
    exact (accounts_expr hg e).mono fun h => h.bind fun s hs => hs.broadcast hone
  · rw [if_neg haggregate]
    by_cases hrows : group.height = 0
    · rw [if_pos (.inr hrows), if_pos hrows]
      refine (accounts_expr hg e).mono fun h => h.bind fun s _ => .ok ⟨?_, ?_, hone⟩
      · exact counting.holds_nulls s.name s.dtype 1
      · exact fun c hc => List.mem_singleton.mp hc ▸ trivial
    · rw [if_neg (not_or.mpr ⟨haggregate, hrows⟩), if_neg hrows]
      have hfirst : ∀ p ∈ [group.take [0]], p.WellFormed ∧ p.Counted := by
        intro p hp
        rw [List.mem_singleton.mp hp]
        exact ⟨hg.wellFormed.take [0], hg.counted.take [0]⟩
      refine (accounts_onParts (fun t ht => accounts_expr ht e) hfirst).mono fun h => ?_
      exact h _ (List.mem_singleton_self _)

theorem accounts_grouped (ht : t.Sound) (groups : List (List Nat)) (e : Expr) :
    Accounts (traceGrouped t groups e) (Yields (aggregateGroups t groups (perGroup e)) Counted) :=
  (accounts_onGroups (accounted_perGroup e) ht groups).noted.mono fun h => h.mono fun _ hs => hs.1

theorem accounts_groupedItem (ht : t.Sound) (groups : List (List Nat)) (item : Item) :
    Accounts (traceGroupedItem t groups item) (Yields (groupedItem t groups item) Counted) := by
  cases item with
  | unnamed e => exact (accounts_grouped ht groups e).mono fun h => h.bind fun _ hs => .ok hs
  | named e name => exact (accounts_grouped ht groups e).mono fun h => h.bind fun _ hs => .ok hs
  | wildcard tail => exact .nil (.error _)
  | foreign text => exact .nil (.error _)

theorem accounts_grouping (ht : t.Sound) (select : Select) (keys : List Expr) :
    Accounts (traceGrouping t select keys) (Yields (grouped t select keys) Table.Counted) := by
  rw [grouped_eq]
  refine .seq (.each fun e _ => accounts_expr ht e) fun _ => .after fun all _ => ?_
  have hhaving : Accounts ((select.having.map (traceGrouped t all)).getD []) True := by
    cases select.having with
    | none => exact .nil trivial
    | some condition => exact (accounts_grouped ht all condition).mono fun _ => trivial
  refine .seq hhaving fun _ => .after fun groups _ => ?_
  refine (Accounts.each fun item _ => accounts_groupedItem ht groups item).mono fun h => ?_
  exact Yields.bind (Yields.mapM h) fun _ => Table.counted_ofColumns

/-! ## Statements -/

theorem accounts_projected (ht : t.Sound) (items : List Item) :
    Accounts (items.flatMap (Item.trace t)) (Yields (projected t items) Table.Counted) := by
  refine (Accounts.each fun item _ => accounts_item ht item).mono fun h => ?_
  exact counting.projected ht.counted fun item hm => (h item hm).mono fun _ hs => hs.counted

theorem accounts_rows {input : Option Table} (hwf : ∀ t ∈ input, t.WellFormed)
    (hi : ∀ t ∈ input, t.Counted) (select : Select) :
    Accounts (select.trace input) (Yields (select.rows input) Table.Counted) := by
  rw [rows_eq, Select.trace]
  split
  · exact .nil (.error _)
  refine .after fun source hsource => ?_
  have hs : source.WellFormed := sourceRows_spec Table.wellFormed_unit hwf _ source hsource
  have hc : source.Counted := sourceRows_spec Table.counted_unit hi _ source hsource
  refine .table hc fun hheight => ?_
  have hcondition : Accounts (traceOptional source select.filter) True :=
    (accounts_optional ⟨hs, hc, hheight⟩ select.filter).mono fun _ => trivial
  refine .seq hcondition fun _ => .after fun t ht => ?_
  have hkept : t.WellFormed ∧ t.Counted := by
    unfold Select.filtered at ht
    split at ht
    · obtain ⟨predicate, -, hm⟩ := bind_eq_ok.mp ht
      exact ⟨typing.mask hs predicate t hm, counting.mask hc predicate t hm⟩
    · cases ht
      exact ⟨hs, hc⟩
  refine .table hkept.2 fun hheight => .after fun keys _ => ?_
  rw [Select.isGrouping]
  split
  · exact accounts_grouping ⟨hkept.1, hkept.2, hheight⟩ select keys
  · exact accounts_projected ⟨hkept.1, hkept.2, hheight⟩ select.items

theorem accounts_sortKey (ht : t.Sound) (e : Expr) : Accounts (traceSortKey t e) True := by
  unfold traceSortKey
  split
  · exact .nil trivial
  · exact (accounts_expr ht e).mono fun _ => trivial

theorem accounts_query [Sql.Reader] {input : Option Table} (hwf : ∀ t ∈ input, t.WellFormed)
    (hi : ∀ t ∈ input, t.Counted) (text : String) :
    Accounts (traceQuery text input) (Yields (query text input) Table.Counted) := by
  refine .after fun p _ => .seq (accounts_rows hwf hi p.1) fun hrows => ?_
  refine .after fun output houtput => ?_
  have ho : output.WellFormed := wellFormed_rows hwf p.1 output houtput
  have hc : output.Counted := hrows output houtput
  refine .table hc fun hheight => ?_
  refine .seq (.each fun o _ => accounts_sortKey ⟨ho, hc, hheight⟩ o.expr) fun _ => ?_
  refine .after fun sorted hsorted => ?_
  have hs : sorted.Counted := counting.ordered hc _ sorted hsorted
  exact .table hs fun _ => .nil (counting.limited hs p.2.limit)

end FramePlan.Sql
