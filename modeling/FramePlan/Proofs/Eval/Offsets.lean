import FramePlan.Eval.Aggregate
import FramePlan.Proofs.Integer.Sum
import Mathlib.Tactic.SplitIfs

/-!
# Offsets of any size

An offset gives each row the cell of the row that is so many rows before or behind it, and null where there
is no such row. Row numbers are words. `offsetSteps` looks at every step, and has no result where the opposite
of the shift or the row that a cell would come from is no word (`offsetSteps_eq`): the least word has no
opposite, and a row far enough behind the last one has no number.

Where nobody looks at the range, row numbers wrap around (`offset`). That does no harm to the result: a row
number that wraps around comes out negative, and there is no row at the exact place either (`toInt_source`).
-/
namespace FramePlan

open Integer

namespace OffsetFunc

/-- The row that a row takes its cell from, counted in integers. -/
def source (row : Nat) : OffsetFunc → Int
  | .lag n => row - n.toInt
  | .lead n => row + n.toInt

/-- The least word is to be turned round, or the row that the last of so many rows takes its cell from is
    no word. -/
def Overflows (rows : Nat) (func : OffsetFunc) : Prop :=
  func = .lead Int64.minValue ∨ 0 < rows ∧ 0x8000000000000000 ≤ func.source (rows - 1)

instance (rows : Nat) (func : OffsetFunc) : Decidable (func.Overflows rows) :=
  inferInstanceAs (Decidable (_ ∨ _))

end OffsetFunc

namespace Eval

variable {func : OffsetFunc} {s r : Series} {row : Nat}

/-! ## Wrapping around -/

/-- How many rows further up a shifted row finds its cell, the opposite of the least word being that word. -/
def shift : OffsetFunc → Int64
  | .lag n => n
  | .lead n => -n

/-- The shifted series by row numbers that wrap around. -/
def offset (func : OffsetFunc) (s : Series) : Series :=
  let cellFor (row : Nat) : Cell :=
    let source := Int64.ofNat row - shift func
    if 0 ≤ source ∧ source < Int64.ofNat s.length then s.cellAt source.toNatClampNeg else .null
  { s with cells := (List.range s.length).map cellFor }

/-! ## Rows in words -/

/-- A shift by less than a word's range goes no further to the front than words reach, and it moves all rows
    alike. -/
theorem source_bounds (func : OffsetFunc) (row : Nat) :
    -0x8000000000000000 ≤ func.source row ∧ func.source row ≤ 0x8000000000000000 + row ∧
      func.source row = func.source 0 + row := by
  cases func with
  | lag n =>
    have hn := inRange_toInt n
    unfold InRange at hn
    simp only [OffsetFunc.source]
    omega
  | lead n =>
    have hn := inRange_toInt n
    unfold InRange at hn
    simp only [OffsetFunc.source]
    omega

/-- The more rows, the further back the last one reaches. -/
theorem overflows_mono {rows n : Nat} (h : func.Overflows rows) (hle : rows ≤ n) : func.Overflows n := by
  obtain hmin | ⟨hpos, hlast⟩ := h
  · exact .inl hmin
  · obtain ⟨-, -, hrows⟩ := source_bounds func (rows - 1)
    obtain ⟨-, -, hn⟩ := source_bounds func (n - 1)
    exact .inr ⟨by omega, by omega⟩

theorem toInt_sub_shift (hrow : row < 2 ^ 63) :
    (Int64.ofNat row - shift func).toInt = (func.source row).bmod (2 ^ 64) := by
  rw [Int64.toInt_sub, Int64.toInt_ofNat_of_lt hrow]
  cases func with
  | lag n => rfl
  | lead n => rw [shift, Int64.toInt_neg, Int.sub_bmod_bmod, Int.sub_neg, OffsetFunc.source]

/-- A row number in words is the exact one, unless this is beyond the range, and then it is negative. -/
theorem toInt_source (func : OffsetFunc) (hrow : row < 2 ^ 63) :
    (Int64.ofNat row - shift func).toInt = func.source row ∨
      (Int64.ofNat row - shift func).toInt < 0 ∧ 0x8000000000000000 ≤ func.source row := by
  obtain ⟨hfront, hback, -⟩ := source_bounds func row
  rw [toInt_sub_shift hrow, Int.bmod_def]
  split <;> omega

theorem cellAt_offset (hlen : s.length < 2 ^ 63) (hrow : row < s.length) :
    (offset func s).cellAt row =
      if 0 ≤ func.source row ∧ func.source row < s.length then s.cellAt (func.source row).toNat
      else .null := by
  have hin : (0 ≤ Int64.ofNat row - shift func ∧ Int64.ofNat row - shift func < Int64.ofNat s.length) ↔
      0 ≤ (Int64.ofNat row - shift func).toInt ∧ (Int64.ofNat row - shift func).toInt < s.length := by
    rw [Int64.le_iff_toInt_le, Int64.lt_iff_toInt_lt, Int64.toInt_ofNat_of_lt hlen, Int64.toInt_zero]
  have hcell : (offset func s).cellAt row =
      if 0 ≤ Int64.ofNat row - shift func ∧ Int64.ofNat row - shift func < Int64.ofNat s.length then
        s.cellAt (Int64.ofNat row - shift func).toNatClampNeg
      else .null := by
    simp only [offset, Series.cellAt, List.getElem?_map, List.getElem?_range hrow, Option.map_some,
      Option.getD_some]
  rw [hcell, if_congr hin rfl rfl, Int64.toNatClampNeg]
  obtain heq | ⟨hneg, hfar⟩ := toInt_source func (Nat.lt_trans hrow hlen)
  · rw [heq]
  · rw [if_neg (by omega), if_neg (by omega)]

/-! ## Step by step -/

theorem mapM_eq_some {α β : Type} {f : α → Option β} {xs : List α} {ys : List β} :
    xs.mapM f = some ys ↔ xs.map f = ys.map some := by
  induction xs generalizing ys with
  | nil => cases ys <;> simp
  | cons x xs ih =>
    simp only [List.mapM_cons, Option.bind_eq_bind, Option.bind_eq_some_iff, Option.pure_def,
      Option.some.injEq, ih, List.map_cons]
    cases ys with
    | nil => simp
    | cons y ys => simp [eq_comm]

theorem offsetSteps_spec (h : offsetSteps func s = some r) :
    r.name = s.name ∧ r.dtype = s.dtype ∧ r.length = s.length ∧
      ∀ c ∈ r.cells, c = .null ∨ ∃ i, c = s.cellAt i := by
  obtain ⟨shift, -, h⟩ := Option.bind_eq_some_iff.mp h
  obtain ⟨cells, hcells, h⟩ := Option.bind_eq_some_iff.mp h
  cases h
  have heach := mapM_eq_some.mp hcells
  have hlen := congrArg List.length heach
  simp only [List.length_map, List.length_range] at hlen
  refine ⟨rfl, rfl, hlen.symm, ?_⟩
  intro c hc
  obtain ⟨row, -, hrow⟩ := List.mem_map.mp (heach ▸ List.mem_map_of_mem hc)
  obtain ⟨source, -, hcell⟩ := Option.bind_eq_some_iff.mp hrow
  cases hcell
  split_ifs
  · exact .inr ⟨_, rfl⟩
  · exact .inl rfl

theorem shifted_eq_ok {r : Series} : shifted func s = .ok r ↔ offsetSteps func s = some r := by
  unfold shifted
  cases offsetSteps func s <;> simp

theorem shift?_eq (func : OffsetFunc) :
    shift? func = if func = .lead Int64.minValue then none else some (shift func) := by
  cases func with
  | lag n => rfl
  | lead n =>
    simp only [shift?, shift, OffsetFunc.lead.injEq]
    split_ifs with h
    · rw [h]
      decide
    · rw [neg?, ofInt?_eq_some, toInt_neg_of_ne h]

theorem sub?_shift (hrow : row < 2 ^ 63) (hshift : func ≠ .lead Int64.minValue) :
    sub? (Int64.ofNat row) (shift func) =
      if func.source row < 0x8000000000000000 then some (Int64.ofNat row - shift func) else none := by
  obtain ⟨hfront, hback, -⟩ := source_bounds func row
  have hexact : (Int64.ofNat row).toInt - (shift func).toInt = func.source row := by
    have hs := shift?_eq func
    rw [if_neg hshift] at hs
    rw [Int64.toInt_ofNat_of_lt hrow]
    cases func with
    | lag n => rfl
    | lead n => rw [toInt_of_ofInt? hs, Int.sub_neg, OffsetFunc.source]
  rw [sub?, hexact]
  split_ifs with hin
  · rw [ofInt?_eq_some, toInt_sub_shift hrow, Int.bmod_eq_of_le] <;> omega
  · rw [ofInt?_eq_none, InRange]
    omega

/-- An offset of some cells that has a result has one for a single cell. -/
theorem not_overflows_one (h : offsetSteps func s = some r) (hpos : 0 < s.length) : ¬func.Overflows 1 := by
  obtain ⟨shift, hshift, h⟩ := Option.bind_eq_some_iff.mp h
  obtain ⟨cells, hcells, -⟩ := Option.bind_eq_some_iff.mp h
  rw [shift?_eq] at hshift
  split_ifs at hshift with hmin
  cases hshift
  have hall : ∀ o ∈ cells.map some, o ≠ none := List.forall_mem_map.mpr fun c _ => Option.some_ne_none c
  rw [← mapM_eq_some.mp hcells] at hall
  -- The first row has a number to take its cell from.
  have hfirst := List.forall_mem_map.mp hall 0 (List.mem_range.mpr hpos)
  obtain ⟨c, hc⟩ := Option.ne_none_iff_exists'.mp hfirst
  obtain ⟨source, hsource, -⟩ := Option.bind_eq_some_iff.mp hc
  rw [sub?_shift (by decide) hmin] at hsource
  split_ifs at hsource with hlt
  rintro (hmin' | ⟨-, hover⟩)
  · exact hmin hmin'
  · exact absurd hlt (Int.not_lt.mpr hover)

/-- Steps that have a result where a condition holds have all their results where it holds throughout. -/
theorem mapM_eq_ite {α β : Type} {f : α → Option β} {g : α → β} {p : α → Prop} [DecidablePred p] :
    ∀ {xs : List α}, (∀ x ∈ xs, f x = if p x then some (g x) else none) →
      xs.mapM f = if ∀ x ∈ xs, p x then some (xs.map g) else none
  | [], _ => by simp
  | x :: xs, h => by
    obtain ⟨hx, hxs⟩ := List.forall_mem_cons.mp h
    rw [List.mapM_cons, hx, mapM_eq_ite hxs]
    by_cases hp : p x
    · by_cases hps : ∀ y ∈ xs, p y
      · rw [if_pos hp, if_pos hps, if_pos (List.forall_mem_cons.mpr ⟨hp, hps⟩)]
        rfl
      · rw [if_pos hp, if_neg hps, if_neg fun hall => hps (List.forall_mem_cons.mp hall).2]
        rfl
    · rw [if_neg hp, if_neg fun hall => hp (List.forall_mem_cons.mp hall).1]
      rfl

/-- All rows come from rows that are words exactly if the last one does. -/
theorem source_lt_iff (func : OffsetFunc) (rows : Nat) :
    (∀ row ∈ List.range rows, func.source row < 0x8000000000000000) ↔
      ¬(0 < rows ∧ 0x8000000000000000 ≤ func.source (rows - 1)) := by
  refine ⟨?_, ?_⟩
  · rintro hall ⟨hpos, hlast⟩
    have h := hall (rows - 1) (List.mem_range.mpr (by omega))
    omega
  · intro hlast row hrow
    have hlt := List.mem_range.mp hrow
    obtain ⟨-, -, hat⟩ := source_bounds func row
    obtain ⟨-, -, hend⟩ := source_bounds func (rows - 1)
    omega

theorem offsetSteps_eq (hlen : s.length < 2 ^ 63) :
    offsetSteps func s = if func.Overflows s.length then none else some (offset func s) := by
  unfold offsetSteps
  rw [shift?_eq]
  by_cases hshift : func = .lead Int64.minValue
  · rw [if_pos hshift, if_pos (.inl hshift)]
    rfl
  · have hover : func.Overflows s.length ↔
        ¬∀ row ∈ List.range s.length, func.source row < 0x8000000000000000 := by
      rw [source_lt_iff, not_not, OffsetFunc.Overflows, or_iff_right hshift]
    simp only [if_neg hshift, Option.bind_eq_bind, Option.bind_some, hover]
    rw [mapM_eq_ite (p := fun row => func.source row < 0x8000000000000000) fun row hrow => ?_]
    · split_ifs
      · rfl
      · rfl
    · rw [sub?_shift (Nat.lt_trans (List.mem_range.mp hrow) hlen) hshift]
      split_ifs
      · rfl
      · rfl

/-- **Offsets of any size give the right cells, but not always by computations that stay in range.** For any
shift, row `i` of a shifted series has the cell of row `i - n`, or `i + n` for a lead, in exact integers, and
is null where there is no such row; name, type and length are kept. Computed with every step looked at, the
shifted series is missing exactly in two cases: a lead by the least word, whose opposite is no word, and a
shift by which the last row takes its cell from beyond the largest word. -/
theorem offset_rows (func : OffsetFunc) (s : Series) (hlen : s.length < 2 ^ 63) :
    (offset func s).name = s.name ∧ (offset func s).dtype = s.dtype ∧
    (offset func s).length = s.length ∧
    (∀ row, row < s.length → (offset func s).cellAt row =
      if 0 ≤ func.source row ∧ func.source row < s.length then s.cellAt (func.source row).toNat
      else .null) ∧
    offsetSteps func s = if func.Overflows s.length then none else some (offset func s) := by
  refine ⟨rfl, rfl, ?_, fun row => cellAt_offset hlen, offsetSteps_eq hlen⟩
  simp [offset, Series.length]

/-- Two readings, of which the second moves up by one. -/
theorem offset_rows_readings :
    (Series.length ⟨"n", .i64, [.int 4, .int 7]⟩ < 2 ^ 63) ∧
    (offset (.lead 1) ⟨"n", .i64, [.int 4, .int 7]⟩).cellAt 0 = .int 7 ∧
    offsetSteps (.lead 1) ⟨"n", .i64, [.int 4, .int 7]⟩ = some ⟨"n", .i64, [.int 7, .null]⟩ := by
  have hlen : Series.length ⟨"n", .i64, [.int 4, .int 7]⟩ < 2 ^ 63 := by decide
  obtain ⟨-, -, -, hcells, hsteps⟩ := offset_rows (.lead 1) ⟨"n", .i64, [.int 4, .int 7]⟩ hlen
  refine ⟨hlen, ?_, ?_⟩
  · rw [hcells 0 (by decide)]
    decide
  · rw [hsteps]
    decide

/-- The opposite of the least word wraps around to the least word, and the difference of a row and it wraps
    around as well. The cell is null, as it should be. -/
theorem least_lead_overflows :
    offsetSteps (.lead Int64.minValue) ⟨"n", .i64, [.int 1]⟩ = none ∧
    offset (.lead Int64.minValue) ⟨"n", .i64, [.int 1]⟩ = ⟨"n", .i64, [.null]⟩ := by
  decide

end Eval
end FramePlan
