import FramePlan.Eval.Order
import FramePlan.Proofs.Table.Typing

/-!
# The order of typed cells and of rows

Over all cells `compareCells` is no order: an integer is level with a text, and texts are not level
with each other. Over the cells of one type it is one, since they are then the values of one ordered
type (`CellScale`), and cells are level only if they are equal. Nulls go last whatever the direction of
a column, so each sort column orders its cells (`compareIn_swap`, `compareIn_trans`,
`compareIn_eq_eq`), and a list of typed columns orders the rows (`transCmp_compareRows`).

What the comparison of rows says is stated without it: `StandsBefore` is the order of the cells of one
column, with its direction, and rows are ordered by the lexicographic order of their keys
(`compareRows_eq_lt`, `compareRows_eq_eq`).
-/
namespace FramePlan

open Table Std

/-! ## The total order of numbers -/

namespace Binary64

theorem bits_lt (x : Binary64) : x.bits.toNat < 0x10000000000000000 := x.bits.toNat_lt

theorem orderKey_inj {x y : Binary64} (h : x.orderKey = y.orderKey) : x = y := by
  have hx := x.bits_lt
  have hy := y.bits_lt
  have hbits : x.bits.toNat = y.bits.toNat := by
    simp only [orderKey, negative, magnitude, decide_eq_true_eq] at h
    split_ifs at h <;> omega
  exact congrArg mk (UInt64.toNat_inj.mp hbits)

instance : TransCmp totalCompare := inferInstanceAs (TransCmp (compareOn orderKey))

instance : LawfulEqCmp totalCompare where
  compare_self := ReflOrd.compare_self
  eq_of_compare h := orderKey_inj (LawfulEqOrd.eq_of_compare h)

end Binary64

namespace Eval

variable {d : Dtype} {a b c : Cell} {descending : Bool} {s : Series} {i j : Nat}
  {keys more : List (Series × Bool)}

/-! ## Cells of one type -/

/-- An ordered type whose values are the cells of the column type other than null, compared as these
    cells are. -/
structure CellScale (d : Dtype) where
  Value : Type
  order : Value → Value → Ordering
  cell : Value → Cell
  trans : TransCmp order
  lawful : LawfulEqCmp order
  compare_cell : ∀ x y, compareCells (cell x) (cell y) = order x y
  covers : ∀ c, CellHas d c → c ≠ .null → ∃ x, cell x = c

theorem int_of_has (hd : d = .i64 ∨ d = .u32) (hc : CellHas d c) (hn : c ≠ .null) :
    ∃ x : Int64, .int x = c := by
  cases c with
  | int x => exact ⟨x, rfl⟩
  | null => exact absurd rfl hn
  | _ => obtain rfl | rfl := hd <;> cases hc

def intScale (hd : d = .i64 ∨ d = .u32) : CellScale d where
  Value := Int64
  order x y := compare x.toInt y.toInt
  cell := .int
  trans := inferInstanceAs (TransCmp (compareOn Int64.toInt))
  lawful :=
    { compare_self := ReflOrd.compare_self
      eq_of_compare := fun h => Int64.toInt_inj.mp (LawfulEqOrd.eq_of_compare h) }
  compare_cell _ _ := rfl
  covers _ := int_of_has hd

def cellScale : (d : Dtype) → CellScale d
  | .i64 => intScale (.inl rfl)
  | .u32 => intScale (.inr rfl)
  | .f64 => ⟨Binary64, Binary64.totalCompare, .float, inferInstance, inferInstance, fun _ _ => rfl,
      fun c hc hn => by cases c <;> simp_all [CellHas]⟩
  | .str => ⟨String, compare, .str, inferInstance, inferInstance, fun _ _ => rfl,
      fun c hc hn => by cases c <;> simp_all [CellHas]⟩
  | .bool => ⟨Bool, compare, .bool, inferInstance, inferInstance, fun _ _ => rfl,
      fun c hc hn => by cases c <;> simp_all [CellHas]⟩
  | .listStr => ⟨List String, compare, .list, inferInstance, inferInstance, fun _ _ => rfl,
      fun c hc hn => by cases c <;> simp_all [CellHas]⟩
  -- A column of the type null has no other cells.
  | .null => ⟨Empty, fun x => x.elim, fun x => x.elim,
      { eq_swap := fun {x} => x.elim, isLE_trans := fun {x} => x.elim },
      { compare_self := fun {x} => x.elim, eq_of_compare := fun {x} => x.elim }, fun x => x.elim,
      fun c hc hn => by cases c <;> simp_all [CellHas]⟩

section

variable (ha : CellHas d a) (hb : CellHas d b) (na : a ≠ .null) (nb : b ≠ .null)

include ha hb na nb

theorem compareCells_swap : compareCells a b = (compareCells b a).swap := by
  have := (cellScale d).trans
  obtain ⟨x, rfl⟩ := (cellScale d).covers a ha na
  obtain ⟨y, rfl⟩ := (cellScale d).covers b hb nb
  rw [(cellScale d).compare_cell, (cellScale d).compare_cell]
  exact OrientedCmp.eq_swap

/-- Cells of one type are level only with themselves. -/
theorem compareCells_eq_eq : compareCells a b = .eq ↔ a = b := by
  have := (cellScale d).lawful
  obtain ⟨x, rfl⟩ := (cellScale d).covers a ha na
  obtain ⟨y, rfl⟩ := (cellScale d).covers b hb nb
  rw [(cellScale d).compare_cell]
  refine ⟨fun h => congrArg _ (LawfulEqCmp.eq_of_compare h), fun h => ?_⟩
  rw [← (cellScale d).compare_cell, h, (cellScale d).compare_cell]
  exact ReflCmp.compare_self

theorem compareCells_trans (hc : CellHas d c) (nc : c ≠ .null) (hab : (compareCells a b).isLE = true)
    (hbc : (compareCells b c).isLE = true) : (compareCells a c).isLE = true := by
  have := (cellScale d).trans
  obtain ⟨x, rfl⟩ := (cellScale d).covers a ha na
  obtain ⟨y, rfl⟩ := (cellScale d).covers b hb nb
  obtain ⟨z, rfl⟩ := (cellScale d).covers c hc nc
  rw [(cellScale d).compare_cell] at hab hbc ⊢
  exact TransCmp.isLE_trans hab hbc

end

/-! ## Cells of a sort column -/

theorem isNull_eq_false (h : c ≠ .null) : c.isNull = false := by
  cases c with
  | null => exact absurd rfl h
  | _ => rfl

theorem compareIn_null_left (hb : b ≠ .null) : compareIn descending .null b = .gt := by
  rw [compareIn, isNull_eq_false hb]
  rfl

theorem compareIn_null_right (ha : a ≠ .null) : compareIn descending a .null = .lt := by
  rw [compareIn, isNull_eq_false ha]
  rfl

theorem compareIn_of_ne (ha : a ≠ .null) (hb : b ≠ .null) :
    compareIn descending a b = if descending then compareCells b a else compareCells a b := by
  simp [compareIn, isNull_eq_false ha, isNull_eq_false hb]

theorem compareIn_swap (ha : CellHas d a) (hb : CellHas d b) :
    compareIn descending a b = (compareIn descending b a).swap := by
  by_cases na : a = .null
  · by_cases nb : b = .null
    · rw [na, nb]
      rfl
    · rw [na, compareIn_null_left nb, compareIn_null_right nb]
      rfl
  · by_cases nb : b = .null
    · rw [nb, compareIn_null_left na, compareIn_null_right na]
      rfl
    · rw [compareIn_of_ne na nb, compareIn_of_ne nb na]
      split
      · exact compareCells_swap hb ha nb na
      · exact compareCells_swap ha hb na nb

theorem compareIn_eq_eq (ha : CellHas d a) (hb : CellHas d b) :
    compareIn descending a b = .eq ↔ a = b := by
  by_cases na : a = .null
  · by_cases nb : b = .null
    · rw [na, nb]
      exact iff_of_true rfl rfl
    · rw [na, compareIn_null_left nb]
      exact iff_of_false (by decide) (Ne.symm nb)
  · by_cases nb : b = .null
    · rw [nb, compareIn_null_right na]
      exact iff_of_false (by decide) na
    · rw [compareIn_of_ne na nb]
      split
      · rw [compareCells_eq_eq hb ha nb na, eq_comm]
      · exact compareCells_eq_eq ha hb na nb

theorem compareIn_trans (ha : CellHas d a) (hb : CellHas d b) (hc : CellHas d c)
    (hab : (compareIn descending a b).isLE = true) (hbc : (compareIn descending b c).isLE = true) :
    (compareIn descending a c).isLE = true := by
  -- What follows a null is null, so the nulls are a tail of the three.
  have tail {x y : Cell} (h : (compareIn descending x y).isLE = true) (hx : x = .null) :
      y = .null := by
    by_contra hy
    rw [hx, compareIn_null_left hy] at h
    cases h
  by_cases na : a = .null
  · have nb := tail hab na
    rw [na, tail hbc nb]
    rfl
  · by_cases nc : c = .null
    · rw [nc, compareIn_null_right na]
      rfl
    · have nb : b ≠ .null := fun nb => nc (tail hbc nb)
      rw [compareIn_of_ne na nb] at hab
      rw [compareIn_of_ne nb nc] at hbc
      rw [compareIn_of_ne na nc]
      cases descending with
      | true => exact compareCells_trans hc hb nc nb ha na hbc hab
      | false => exact compareCells_trans ha hb na nb hc nc hab hbc

/-- A cell of a sort column, with the direction of the column, stands before another one: it is not
    null, and the other one is null or greater, or smaller in a descending column. -/
def StandsBefore (x y : Bool × Cell) : Prop :=
  x.2 ≠ .null ∧
    (y.2 = .null ∨ (if x.1 then compareCells y.2 x.2 = .lt else compareCells x.2 y.2 = .lt))

theorem compareIn_eq_lt :
    compareIn descending a b = .lt ↔ StandsBefore (descending, a) (descending, b) := by
  by_cases na : a = .null
  · have hnot : compareIn descending a b ≠ .lt := by
      by_cases nb : b = .null
      · rw [na, nb]
        show Ordering.eq ≠ .lt
        decide
      · rw [na, compareIn_null_left nb]
        decide
    exact iff_of_false hnot fun h => h.1 na
  · by_cases nb : b = .null
    · rw [nb, compareIn_null_right na]
      exact iff_of_true rfl ⟨na, .inl rfl⟩
    · rw [compareIn_of_ne na nb]
      simp only [StandsBefore, na, nb, ne_eq, not_false_eq_true, true_and, false_or]
      split <;> exact Iff.rfl

/-! ## Rows -/

/-- The key of a row: its cell in each sort column, with the direction of the column. -/
def sortKey (keys : List (Series × Bool)) (row : Nat) : List (Bool × Cell) :=
  keys.map fun k => (k.2, k.1.cellAt row)

/-- The row has its place before the other one by the first sort column in which they differ. -/
def RowBefore (keys : List (Series × Bool)) (i j : Nat) : Prop :=
  List.Lex StandsBefore (sortKey keys i) (sortKey keys j)

def TypedKeys (keys : List (Series × Bool)) : Prop := ∀ k ∈ keys, SeriesTyped k.1

theorem transCmp_compareIn (hs : SeriesTyped s) (descending : Bool) :
    TransCmp fun i j => compareIn descending (s.cellAt i) (s.cellAt j) where
  eq_swap := compareIn_swap (Series.has_cellAt hs _) (Series.has_cellAt hs _)
  isLE_trans := compareIn_trans (Series.has_cellAt hs _) (Series.has_cellAt hs _)
    (Series.has_cellAt hs _)

theorem transCmp_compareRows (h : TypedKeys keys) : TransCmp (compareRows keys) := by
  induction keys with
  | nil => exact { eq_swap := rfl, isLE_trans := fun _ _ => rfl }
  | cons k rest ih =>
    obtain ⟨hk, hrest⟩ := List.forall_mem_cons.mp h
    have := transCmp_compareIn hk k.2
    have := ih hrest
    exact inferInstanceAs (TransCmp
      (compareLex (fun i j => compareIn k.2 (k.1.cellAt i) (k.1.cellAt j)) (compareRows rest)))

theorem compareRows_eq_eq (h : TypedKeys keys) :
    compareRows keys i j = .eq ↔ sortKey keys i = sortKey keys j := by
  induction keys with
  | nil => exact iff_of_true rfl rfl
  | cons k rest ih =>
    obtain ⟨hk, hrest⟩ := List.forall_mem_cons.mp h
    have hcell : compareIn k.2 (k.1.cellAt i) (k.1.cellAt j) = .eq ↔ k.1.cellAt i = k.1.cellAt j :=
      compareIn_eq_eq (Series.has_cellAt hk i) (Series.has_cellAt hk j)
    rw [compareRows, Ordering.then_eq_eq, hcell, ih hrest]
    simp [sortKey]

/-- One row comes before another one exactly if its key is the smaller one, in lexicographic order. -/
theorem compareRows_eq_lt (h : TypedKeys keys) : compareRows keys i j = .lt ↔ RowBefore keys i j := by
  induction keys with
  | nil => exact iff_of_false (by simp [compareRows]) (by simp [RowBefore, sortKey])
  | cons k rest ih =>
    obtain ⟨hk, hrest⟩ := List.forall_mem_cons.mp h
    have hcell : compareIn k.2 (k.1.cellAt i) (k.1.cellAt j) = .eq ↔ k.1.cellAt i = k.1.cellAt j :=
      compareIn_eq_eq (Series.has_cellAt hk i) (Series.has_cellAt hk j)
    rw [compareRows, Ordering.then_eq_lt, compareIn_eq_lt, hcell, ih hrest]
    simp [RowBefore, sortKey, List.cons_lex_cons_iff]

/-- Further sort columns count for rows that are level in the first ones. -/
theorem compareRows_append (keys more : List (Series × Bool)) (i j : Nat) :
    compareRows (keys ++ more) i j = (compareRows keys i j).then (compareRows more i j) := by
  induction keys with
  | nil => rfl
  | cons k rest ih => rw [List.cons_append, compareRows, compareRows, ih, Ordering.then_assoc]

end Eval
end FramePlan
