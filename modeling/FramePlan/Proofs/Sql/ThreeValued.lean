import FramePlan.Proofs.Eval.Operators
import FramePlan.Proofs.Sql.Typing

/-!
# Lists, ranges and cases in three-valued logic

What `IN`, `BETWEEN` and `CASE` are at a row, told from the cells that their operands have there: whether
a cell is among others (`isAmong`), whether it is between two (`isBetween`), and the result of the first
branch that applies (`firstResult`).

A list is a disjunction of comparisons that starts from false, one item after the other, so it is the
disjunction of all of them (`anyEqual_spec`). A range is a conjunction of two comparisons. A `CASE`
looks for a branch in the rows of its tests and results, spread over the table, and its type widens to
just those types to which all results widen (`widensTo_of_foldlM`).
-/
namespace FramePlan

open Table

/-! ## Common types -/

/-- A column of the one type goes into a column of the other. -/
def Dtype.WidensTo (a u : Dtype) : Prop := a.unify? u = some u

instance (a u : Dtype) : Decidable (a.WidensTo u) := inferInstanceAs (Decidable (a.unify? u = some u))

theorem Dtype.widensTo_of_unify? {a b d : Dtype} (h : a.unify? b = some d) (u : Dtype) :
    d.WidensTo u ↔ a.WidensTo u ∧ b.WidensTo u := by
  cases a <;> cases b <;> cases h <;> cases u <;> decide

namespace Sql

open FramePlan.Eval Series

variable {t : Table} {s x l r : Series} {n i : Nat}

theorem widensTo_of_foldlM : ∀ {branches : List (Series × Series)} {a d : Dtype},
    branches.foldlM (fun d b => unify d b.2.dtype) a = .ok d →
      ∀ u, d.WidensTo u ↔ a.WidensTo u ∧ ∀ b ∈ branches, b.2.dtype.WidensTo u
  | [], _, _, h, u => by
    cases h
    simp
  | b :: bs, a, d, h, u => by
    rw [List.foldlM_cons] at h
    obtain ⟨v, hv, h⟩ := bind_eq_ok.mp h
    rw [widensTo_of_foldlM h u, Dtype.widensTo_of_unify? (unify_eq_ok.mp hv) u, List.forall_mem_cons,
      and_assoc]

/-! ## Truth values -/

/-- The cell of a truth value, null if it is unknown. -/
def ofTruth (o : Option Bool) : Cell := (o.map .bool).getD .null

@[simp] theorem truth?_ofTruth (o : Option Bool) : truth? (ofTruth o) = o := by
  cases o <;> rfl

theorem notCell_ofTruth (o : Option Bool) : notCell (ofTruth o) = ofTruth (o.map (!·)) := by
  cases o <;> rfl

theorem disjunction_assoc (a b c : Option Bool) :
    disjunction (disjunction a b) c = disjunction a (disjunction b c) := by
  rcases a with _ | _ | _ <;> rcases b with _ | _ | _ <;> rcases c with _ | _ | _ <;> rfl

@[simp] theorem disjunction_false_left (o : Option Bool) : disjunction (some false) o = o := by
  rcases o with _ | _ | _ <;> rfl

theorem disjunction_false_right (o : Option Bool) : disjunction o (some false) = o := by
  rcases o with _ | _ | _ <;> rfl

/-- The truth value, or its opposite: what is unknown stays so. -/
def swapped (negated : Bool) (o : Option Bool) : Option Bool := if negated then o.map (!·) else o

theorem spreadAt_negated {b : Bool} {o : Option Bool} (h : negated b s = .ok r)
    (hs : s.length = 1 ∨ s.length = n) (hi : i < n) (ho : s.spreadAt i = ofTruth o) :
    r.spreadAt i = ofTruth (swapped b o) := by
  cases b with
  | false =>
    cases h
    exact ho
  | true =>
    have h : unary .not s = .ok r := h
    rw [spreadAt_unary h hs hi, ho]
    exact notCell_ofTruth o

theorem dtype_negated {b : Bool} (h : negated b s = .ok r) (hs : s.dtype = .bool) : r.dtype = .bool := by
  cases b with
  | false =>
    cases h
    exact hs
  | true =>
    have h : unary .not s = .ok r := h
    rw [unary_eq, hs] at h
    cases h
    rfl

theorem dtype_of_truth {op : BinaryOp} (hop : family op ≠ .arithmetic) (h : binary op l r = .ok s) :
    s.dtype = .bool := by
  have htype := resultType_of_binary h
  cases hf : family op with
  | arithmetic => exact absurd hf hop
  | _ =>
    simp only [resultType, hf] at htype
    split_ifs at htype
    exact (Except.ok.inj htype).symm

theorem spreadAt_truth {op : BinaryOp} (hop : family op ≠ .arithmetic) (h : binary op l r = .ok s)
    (hl : l.length = 1 ∨ l.length = n) (hr : r.length = 1 ∨ r.length = n) (hi : i < n) :
    s.spreadAt i = cellOp op (l.spreadAt i) (r.spreadAt i) := by
  rw [spreadAt_binary h hl hr hi, dtype_of_truth hop h]
  rfl

/-! ## Lists -/

/-- Whether a cell equals one of the items: unknown if it equals none, but it or an item is null. -/
def isAmong (c : Cell) (items : List Cell) : Option Bool :=
  if ∃ y ∈ items, comparison .eq c y = .bool true then some true
  else if items ≠ [] ∧ (c = .null ∨ .null ∈ items) then none
  else some false

theorem isNull_iff {c : Cell} : c.isNull = true ↔ c = .null := by
  cases c <;> simp [Cell.isNull]

theorem comparison_of_null {op : BinaryOp} {a b : Cell} (h : a = .null ∨ b = .null) :
    comparison op a b = .null := by
  have hnull : (a.isNull || b.isNull) = true := by simpa [isNull_iff] using h
  rw [comparison, if_pos hnull]

theorem comparison_of_present {op : BinaryOp} {a b : Cell} (ha : a ≠ .null) (hb : b ≠ .null) :
    comparison op a b = .bool (holds op (compareCells a b)) := by
  have hpresent : ¬(a.isNull || b.isNull) = true := by simp [isNull_iff, ha, hb]
  rw [comparison, if_neg hpresent]

theorem isAmong_cons (c y : Cell) (ys : List Cell) :
    isAmong c (y :: ys) = disjunction (truth? (comparison .eq c y)) (isAmong c ys) := by
  by_cases hnull : c = .null ∨ y = .null
  · -- An unknown comparison leaves it to a true one.
    have hunknown : y :: ys ≠ [] ∧ (c = .null ∨ .null ∈ y :: ys) := by
      rw [List.mem_cons]
      exact ⟨List.cons_ne_nil y ys, hnull.imp id fun hy => .inl hy.symm⟩
    rw [comparison_of_null hnull, isAmong, isAmong, if_pos hunknown]
    simp only [List.exists_mem_cons_iff, comparison_of_null hnull, reduceCtorEq, false_or]
    split_ifs <;> rfl
  · obtain ⟨hc, hy⟩ := not_or.mp hnull
    have hrest : (y :: ys ≠ [] ∧ (c = .null ∨ .null ∈ y :: ys)) ↔
        (ys ≠ [] ∧ (c = .null ∨ .null ∈ ys)) := by
      simp only [hc, List.mem_cons, Ne.symm hy, false_or, ne_eq, reduceCtorEq, not_false_eq_true,
        true_and]
      exact (and_iff_right_of_imp List.ne_nil_of_mem).symm
    rw [isAmong, isAmong]
    simp only [hrest, List.exists_mem_cons_iff, comparison_of_present hc hy, Cell.bool.injEq]
    cases holds .eq (compareCells c y) with
    | true => simp [truth?, disjunction]
    | false => simp [truth?]

theorem anyEqual_spec (ht : t.WellFormed) (hx : x.Fits t.height) :
    ∀ {items : List Expr} {found : Series}, found.Fits t.height → found.dtype = .bool →
      anyEqual t x items found = .ok s →
        s.dtype = .bool ∧ ∃ ys, List.Forall₂ (fun item y => item.eval t = .ok y) items ys ∧
          ∀ i < t.height, ∀ f, found.spreadAt i = ofTruth f →
            s.spreadAt i = ofTruth (disjunction f (isAmong (x.spreadAt i) (ys.map (·.spreadAt i))))
  | [], found, hfound, hbool, h => by
    cases h
    refine ⟨hbool, [], .nil, ?_⟩
    intro i hi f hf
    have hnone : isAmong (x.spreadAt i) [] = some false := by simp [isAmong]
    rw [hf, List.map_nil, hnone, disjunction_false_right]
  | e :: es, found, hfound, hbool, h => by
    rw [anyEqual] at h
    obtain ⟨y, hy, h⟩ := bind_eq_ok.mp h
    obtain ⟨hit, hhit, h⟩ := bind_eq_ok.mp h
    obtain ⟨next, hnext, h⟩ := bind_eq_ok.mp h
    have hyfits : y.Fits t.height := fits_expr ht e y hy
    have hhitfits : hit.Fits t.height := fits_binary .eq hx hyfits hit hhit
    obtain ⟨hdtype, ys, hys, hrows⟩ := anyEqual_spec ht hx
      (fits_binary .or hfound hhitfits next hnext) (dtype_of_truth (by decide) hnext) h
    refine ⟨hdtype, y :: ys, .cons hy hys, ?_⟩
    intro i hi f hf
    -- What is found so far holds, or the item equals: one more disjunct.
    have hequal : hit.spreadAt i = comparison .eq (x.spreadAt i) (y.spreadAt i) :=
      spreadAt_truth (by decide) hhit hx.spread hyfits.spread hi
    have hor : next.spreadAt i =
        ofTruth (disjunction f (truth? (comparison .eq (x.spreadAt i) (y.spreadAt i)))) := by
      rw [spreadAt_truth (by decide) hnext hfound.spread hhitfits.spread hi, hf, hequal]
      show ofTruth (disjunction (truth? (ofTruth f)) _) = _
      rw [truth?_ofTruth]
    rw [hrows i hi _ hor, List.map_cons, isAmong_cons, disjunction_assoc]

/-- The series goes with the rows of the table, and tells in each whether the expression is among the items
    there, or the opposite. -/
def IsListTest (t : Table) (e : Expr) (items : List Expr) (negated : Bool) (s : Series) : Prop :=
  ∃ x ys, e.eval t = .ok x ∧ List.Forall₂ (fun item y => item.eval t = .ok y) items ys ∧
    s.Fits t.height ∧ s.dtype = .bool ∧ ∀ i < t.height,
      s.spreadAt i = ofTruth (swapped negated (isAmong (x.spreadAt i) (ys.map (·.spreadAt i))))

theorem isListTest_inList {e : Expr} {items : List Expr} {b : Bool} (ht : t.WellFormed)
    (h : (Expr.inList e items b).eval t = .ok s) : IsListTest t e items b s := by
  have hfits : s.Fits t.height := fits_expr ht _ s h
  rw [Expr.eval] at h
  obtain ⟨x, hx, h⟩ := bind_eq_ok.mp h
  obtain ⟨found, hfound, h⟩ := bind_eq_ok.mp h
  have hxfits : x.Fits t.height := fits_expr ht e x hx
  have hstart : (Series.scalar x.name .bool (.bool false)).Fits t.height := .scalar rfl
  obtain ⟨hbool, ys, hys, hrows⟩ := anyEqual_spec ht hxfits hstart rfl hfound
  have hspread := (fits_anyEqual ht hxfits items hstart found hfound).spread
  refine ⟨x, ys, hx, hys, hfits, dtype_negated h hbool, ?_⟩
  intro i hi
  have hall := hrows i hi (some false) rfl
  rw [disjunction_false_left] at hall
  exact spreadAt_negated h hspread hi hall

/-! ## Ranges -/

/-- Whether a cell is between two others: not so if it is outside of one end, and so if it is inside of
    both. -/
def isBetween (c low high : Cell) : Option Bool :=
  if comparison .lt c low = .bool true ∨ comparison .gt c high = .bool true then some false
  else if comparison .gtEq c low = .bool true ∧ comparison .ltEq c high = .bool true then some true
  else none

/-- A cell is outside of an end if it is not inside, and unless one of the two is null. -/
theorem truth?_comparison (inside outside : BinaryOp) {a b : Cell}
    (opposite : ∀ o, holds outside o = !holds inside o) : truth? (comparison inside a b) =
      if comparison outside a b = .bool true then some false
      else if comparison inside a b = .bool true then some true
      else none := by
  by_cases hnull : a = .null ∨ b = .null
  · simp [comparison_of_null hnull, truth?]
  · obtain ⟨ha, hb⟩ := not_or.mp hnull
    simp only [comparison_of_present ha hb, opposite, Cell.bool.injEq]
    cases holds inside (compareCells a b) <;> rfl

theorem conjunction_eq_isBetween (c low high : Cell) :
    conjunction (truth? (comparison .gtEq c low)) (truth? (comparison .ltEq c high)) =
      isBetween c low high := by
  rw [truth?_comparison .gtEq .lt (by decide), truth?_comparison .ltEq .gt (by decide), isBetween]
  split_ifs <;> simp_all [conjunction]

/-- The series goes with the rows of the table, and tells in each whether the expression is between the bounds
    there, or the opposite. -/
def IsRangeTest (t : Table) (e low high : Expr) (negated : Bool) (s : Series) : Prop :=
  ∃ x l u, e.eval t = .ok x ∧ low.eval t = .ok l ∧ high.eval t = .ok u ∧
    s.Fits t.height ∧ s.dtype = .bool ∧ ∀ i < t.height,
      s.spreadAt i = ofTruth (swapped negated (isBetween (x.spreadAt i) (l.spreadAt i) (u.spreadAt i)))

theorem isRangeTest_between {e low high : Expr} {b : Bool} (ht : t.WellFormed)
    (h : (Expr.between e b low high).eval t = .ok s) : IsRangeTest t e low high b s := by
  have hfits : s.Fits t.height := fits_expr ht _ s h
  rw [Expr.eval] at h
  obtain ⟨x, hx, h⟩ := bind_eq_ok.mp h
  obtain ⟨l, hl, h⟩ := bind_eq_ok.mp h
  obtain ⟨above, habove, h⟩ := bind_eq_ok.mp h
  obtain ⟨u, hu, h⟩ := bind_eq_ok.mp h
  obtain ⟨below, hbelow, h⟩ := bind_eq_ok.mp h
  obtain ⟨both, hboth, h⟩ := bind_eq_ok.mp h
  have hxfits : x.Fits t.height := fits_expr ht e x hx
  have hlfits : l.Fits t.height := fits_expr ht low l hl
  have hufits : u.Fits t.height := fits_expr ht high u hu
  have hafits : above.Fits t.height := fits_binary .gtEq hxfits hlfits above habove
  have hbfits : below.Fits t.height := fits_binary .ltEq hxfits hufits below hbelow
  have hspread := (fits_binary .and hafits hbfits both hboth).spread
  refine ⟨x, l, u, hx, hl, hu, hfits, dtype_negated h (dtype_of_truth (by decide) hboth), ?_⟩
  intro i hi
  refine spreadAt_negated h hspread hi ?_
  rw [spreadAt_truth (by decide) hboth hafits.spread hbfits.spread hi,
    spreadAt_truth (by decide) habove hxfits.spread hlfits.spread hi,
    spreadAt_truth (by decide) hbelow hxfits.spread hufits.spread hi, ← conjunction_eq_isBetween]
  rfl

/-! ## Cases -/

/-- A branch applies where its condition is true or, if there is a subject, equals it. -/
def applies (subject : Option Cell) (condition : Cell) : Bool :=
  match subject with
  | some c => comparison .eq c condition == .bool true
  | none => condition == .bool true

/-- The result of the first branch that applies, or what there is without one. -/
def firstResult (otherwise : Cell) : List (Bool × Cell) → Cell
  | [] => otherwise
  | (true, result) :: _ => result
  | (false, _) :: rest => firstResult otherwise rest

/-- A branch in a row: whether it applies there, and its result. -/
def branchAt (subject : Option Series) (i : Nat) (p : Series × Series) : Bool × Cell :=
  (applies (subject.map (·.spreadAt i)) (p.1.spreadAt i), p.2.spreadAt i)

theorem caseCell_eq (branches : List (Series × Series)) (fallback : Series) (row : Nat) :
    caseCell branches fallback row = firstResult (fallback.cellAt row)
      (branches.map fun b => (b.1.cellAt row == .bool true, b.2.cellAt row)) := by
  induction branches with
  | nil => rfl
  | cons b bs ih =>
    rw [caseCell] at ih ⊢
    rw [List.map_cons, List.find?_cons]
    cases b.1.cellAt row == .bool true with
    | true => rfl
    | false => exact ih

theorem branchTest_spec {subject : Option Series} {condition test : Series}
    (hsubject : ∀ u ∈ subject, u.Fits n) (hcondition : condition.Fits n)
    (h : branchTest subject condition = .ok test) (hi : i < n) :
    (test.spreadAt i == .bool true) =
      applies (subject.map (·.spreadAt i)) (condition.spreadAt i) := by
  cases subject with
  | none =>
    cases h
    rfl
  | some u =>
    have h : binary .eq u condition = .ok test := h
    rw [spreadAt_truth (by decide) h (hsubject u rfl).spread hcondition.spread hi]
    rfl

/-- Every branch is evaluated, and spread over the table it is in each row what it is there. -/
theorem evalBranches_spec {subject : Option Series} (ht : t.WellFormed)
    (hsubject : ∀ u ∈ subject, u.Fits t.height) :
    ∀ {branches : List (Expr × Expr)} {full : List (Series × Series)},
      evalBranches t subject branches = .ok full →
        ∃ pairs, List.Forall₂ (fun (b : Expr × Expr) (p : Series × Series) =>
            b.1.eval t = .ok p.1 ∧ b.2.eval t = .ok p.2) branches pairs ∧
          full.map (·.2.dtype) = pairs.map (·.2.dtype) ∧
          ∀ i < t.height, full.map (fun b => (b.1.cellAt i == .bool true, b.2.cellAt i)) =
            pairs.map (branchAt subject i)
  | [], _, h => by
    cases h
    exact ⟨[], .nil, rfl, fun _ _ => rfl⟩
  | (c, e) :: rest, full, h => by
    rw [evalBranches] at h
    obtain ⟨condition, hc, h⟩ := bind_eq_ok.mp h
    obtain ⟨test, htest, h⟩ := bind_eq_ok.mp h
    obtain ⟨tests, htests, h⟩ := bind_eq_ok.mp h
    obtain ⟨value, he, h⟩ := bind_eq_ok.mp h
    obtain ⟨values, hvalues, h⟩ := bind_eq_ok.mp h
    obtain ⟨more, hmore, h⟩ := bind_eq_ok.mp h
    cases h
    obtain ⟨pairs, hpairs, hdtypes, hrows⟩ := evalBranches_spec ht hsubject hmore
    rw [broadcast_eq (length_of_broadcast htests)] at htests
    rw [broadcast_eq (length_of_broadcast hvalues)] at hvalues
    cases htests
    cases hvalues
    refine ⟨(condition, value) :: pairs, .cons ⟨hc, he⟩ hpairs, ?_, ?_⟩
    · rw [List.map_cons, List.map_cons, hdtypes, spread_dtype]
    · intro i hi
      rw [List.map_cons, List.map_cons, hrows i hi, cellAt_spread test hi, cellAt_spread value hi,
        branchTest_spec hsubject (fits_expr ht c condition hc) htest hi]
      rfl

theorem evalOptional_eq_ok {o : Option Expr} {value : Option Series} (h : evalOptional t o = .ok value) :
    Option.Rel (fun e s => e.eval t = .ok s) o value := by
  cases o with
  | none =>
    cases h
    exact .none
  | some e =>
    obtain ⟨s, hs, h⟩ := bind_eq_ok.mp h
    cases h
    exact .some hs

/-- The series has the cells of an `ELSE` over `n` rows, and nulls without one. -/
structure Fallback (n : Nat) (value : Option Series) (fallback : Series) : Prop where
  widens : ∀ u, fallback.dtype.WidensTo u ↔ ∀ s ∈ value, s.dtype.WidensTo u
  cells : ∀ i < n, fallback.cellAt i = (value.map (·.spreadAt i)).getD .null

theorem fallback_noCase (n : Nat) : Fallback n none (noCase n) where
  widens u := by simp [noCase, Dtype.WidensTo, unify_eq_ok.mp (unify_null u)]
  cells i hi := by simp [noCase, cellAt, hi]

theorem fallback_broadcast {full : Series} (h : s.broadcast n = .ok full) : Fallback n (some s) full := by
  rw [broadcast_eq (length_of_broadcast h)] at h
  cases h
  exact ⟨fun u => by simp, fun i hi => cellAt_spread s hi⟩

/-- The series has in each row the result of the first branch that applies there, or of the `ELSE`, or null
    without one, as a cell of the common type of all results. -/
def IsCase (t : Table) (operand : Option Expr) (branches : List (Expr × Expr)) (otherwise : Option Expr)
    (s : Series) : Prop :=
  ∃ subject pairs value, Option.Rel (fun e v => e.eval t = .ok v) operand subject ∧
    List.Forall₂ (fun (b : Expr × Expr) (p : Series × Series) =>
      b.1.eval t = .ok p.1 ∧ b.2.eval t = .ok p.2) branches pairs ∧
    Option.Rel (fun e v => e.eval t = .ok v) otherwise value ∧ s.Fits t.height ∧
    (∀ u, s.dtype.WidensTo u ↔
      (∀ p ∈ pairs, p.2.dtype.WidensTo u) ∧ ∀ v ∈ value, v.dtype.WidensTo u) ∧
    ∀ i < t.height, s.spreadAt i = coerceCell s.dtype
      (firstResult ((value.map (·.spreadAt i)).getD .null) (pairs.map (branchAt subject i)))

theorem caseSeries_spec {branches : List (Series × Series)} {fallback : Series}
    (h : caseSeries n branches fallback = .ok s) :
    (∀ u, s.dtype.WidensTo u ↔ fallback.dtype.WidensTo u ∧ ∀ b ∈ branches, b.2.dtype.WidensTo u) ∧
      ∀ i < n, s.spreadAt i = coerceCell s.dtype (caseCell branches fallback i) := by
  obtain ⟨d, hd, h⟩ := bind_eq_ok.mp h
  cases h
  refine ⟨widensTo_of_foldlM hd, ?_⟩
  intro i hi
  have hlt : i < (coerce d ((List.range n).map (caseCell branches fallback))).length := by
    simpa [coerce] using hi
  rw [spreadAt_of_lt hlt]
  simp [cellAt, coerce, List.getElem?_range hi]

theorem isCase_case {operand : Option Expr} {branches : List (Expr × Expr)} {otherwise : Option Expr}
    (ht : t.WellFormed) (h : (Expr.case operand branches otherwise).eval t = .ok s) :
    IsCase t operand branches otherwise s := by
  have hfits : s.Fits t.height := fits_expr ht _ s h
  rw [Expr.eval] at h
  obtain ⟨subject, hsubject, h⟩ := bind_eq_ok.mp h
  obtain ⟨full, hfull, h⟩ := bind_eq_ok.mp h
  obtain ⟨value, hvalue, h⟩ := bind_eq_ok.mp h
  have hfallback : ∃ fallback, caseSeries t.height full fallback = .ok s ∧
      Fallback t.height value fallback := by
    cases value with
    | none => exact ⟨noCase t.height, h, fallback_noCase t.height⟩
    | some v =>
      obtain ⟨fallback, hspread, h⟩ := bind_eq_ok.mp h
      exact ⟨fallback, h, fallback_broadcast hspread⟩
  obtain ⟨fallback, h, hwide, hfallback⟩ := hfallback
  obtain ⟨htypes, hcells⟩ := caseSeries_spec h
  obtain ⟨pairs, hpairs, hdtypes, hbranches⟩ :=
    evalBranches_spec ht (fits_optional ht operand subject hsubject) hfull
  refine ⟨subject, pairs, value, evalOptional_eq_ok hsubject, hpairs, evalOptional_eq_ok hvalue, hfits,
    ?_, ?_⟩
  · intro u
    have hresults : (∀ b ∈ full, b.2.dtype.WidensTo u) ↔ ∀ p ∈ pairs, p.2.dtype.WidensTo u := by
      rw [← List.forall_mem_map (f := fun b : Series × Series => b.2.dtype) (P := (·.WidensTo u)), hdtypes,
        List.forall_mem_map]
    rw [htypes u, hwide u, hresults, and_comm]
  · intro i hi
    rw [hcells i hi, caseCell_eq, hbranches i hi, hfallback i hi]

/-! ## The three of them -/

/-- **Lists, ranges and cases are three-valued.** Over any table, and whatever the operands are, as long as
they have values:

* a list test is true where an item equals the expression, unknown where none does but the list is not empty
  and one of the two sides of a comparison is null, and else false,
* a range test is false where the expression is below the one bound or above the other one, true where it is
  on the right side of both, and else unknown,
* negations swap true and false, and what is unknown stays so,
* a `CASE` has the result of the first branch whose condition is true, or equals the operand, and else that
  of its `ELSE` or null, in the narrowest type that all its results widen to. -/
theorem tests_three_valued (ht : t.WellFormed) :
    (∀ e items b s, (Expr.inList e items b).eval t = .ok s → IsListTest t e items b s) ∧
    (∀ e b low high s, (Expr.between e b low high).eval t = .ok s → IsRangeTest t e low high b s) ∧
    ∀ operand branches otherwise s,
      (Expr.case operand branches otherwise).eval t = .ok s → IsCase t operand branches otherwise s :=
  ⟨fun _ _ _ _ h => isListTest_inList ht h, fun _ _ _ _ _ h => isRangeTest_between ht h,
    fun _ _ _ _ h => isCase_case ht h⟩

def shelves : Table :=
  ⟨[⟨"n", .i64, [.int 1, .int 5, .null]⟩, ⟨"least", .i64, [.null, .int 2, .int 3]⟩], 3⟩

theorem wellFormed_shelves : shelves.WellFormed := by
  refine ⟨?_, by decide⟩
  simp [shelves, Series.length, SeriesTyped, CellHas]

def held : Expr := .ident ⟨"n", none⟩

def leastHeld : Expr := .ident ⟨"least", none⟩

def numberExpr (digits : String) : Expr := .literal (.number digits false)

/-- `n IN (1, least)`, `n NOT BETWEEN least AND 4` and `CASE n WHEN least THEN 8 WHEN 5 THEN 0.5 ELSE 7 END`:
    comparisons with null are unknown in both rows that have one, and the result `7` is a number. -/
theorem tests_three_valued_shelves :
    let items := [numberExpr "1", leastHeld]
    let branches := [(leastHeld, numberExpr "8"), (numberExpr "5", numberExpr "0.5")]
    let listed : Series := ⟨"n", .bool, [.bool true, .bool false, .null]⟩
    let outside : Series := ⟨"n", .bool, [.null, .bool true, .null]⟩
    let orders : Series := ⟨"literal", .f64,
      [.float (.ofInt 7), .float ((Binary64.ofText? "0.5").getD .zero), .float (.ofInt 7)]⟩
    ((Expr.inList held items false).eval shelves = .ok listed ∧
      IsListTest shelves held items false listed) ∧
    ((Expr.between held true leastHeld (numberExpr "4")).eval shelves = .ok outside ∧
      IsRangeTest shelves held leastHeld (numberExpr "4") true outside) ∧
    ((Expr.case (some held) branches (some (numberExpr "7"))).eval shelves = .ok orders ∧
      IsCase shelves (some held) branches (some (numberExpr "7")) orders) := by
  intro items branches listed outside orders
  obtain ⟨hlist, hrange, hcase⟩ := tests_three_valued wellFormed_shelves
  have hlisted : (Expr.inList held items false).eval shelves = .ok listed := by decide +kernel
  have houtside : (Expr.between held true leastHeld (numberExpr "4")).eval shelves = .ok outside := by
    decide +kernel
  have horders : (Expr.case (some held) branches (some (numberExpr "7"))).eval shelves = .ok orders := by
    decide +kernel
  exact ⟨⟨hlisted, hlist _ _ _ _ hlisted⟩, ⟨houtside, hrange _ _ _ _ _ houtside⟩,
    ⟨horders, hcase _ _ _ _ horders⟩⟩

end Sql
end FramePlan
