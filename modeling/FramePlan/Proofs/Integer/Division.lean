import FramePlan.Proofs.Integer.Sum
import Mathlib.Tactic.SplitIfs

/-!
# Floored division of words

Words are divided by rounding to zero, and the floored quotient and remainder are made of that: where there
is a remainder and the signs of the operands differ, the quotient is one less and the remainder is one
divisor more. What comes out is the pair that `Floors` describes (`exists_floored`), and there is only one
(`floors_iff`), so words divide exactly where the divisor is not zero and the floored quotient is a word
(`divides_iff_fdiv`).

The corrections are made on words without looking at the range. `floorDivSteps` and `floorModSteps` are the
same computations with every step looked at: a remainder must be defined, and a difference and a sum must
be words. They never stop short of a result (`floorDivSteps_eq`, `floorModSteps_eq`).
-/
namespace FramePlan.Integer

variable {a b q r : Int} {x y : Int64}

/-! ## Floored quotients -/

/-- `q` and `r` are quotient and remainder of a division that rounds down: the remainder is less than the
    divisor, and is zero or has its sign. -/
structure Floors (a b q r : Int) : Prop where
  eq : a = b * q + r
  sign : r = 0 ∨ (r < 0 ↔ b < 0)
  lt : r.natAbs < b.natAbs

theorem floors_iff (hb : b ≠ 0) : Floors a b q r ↔ a.fdiv b = q ∧ a.fmod b = r := by
  obtain hneg | hpos := Int.lt_or_gt_of_ne hb
  · rw [Int.fdiv_fmod_unique' hneg]
    refine ⟨?_, ?_⟩
    · rintro ⟨heq, hs, hlt⟩
      omega
    · rintro ⟨heq, hlt, hle⟩
      exact ⟨by omega, by omega, by omega⟩
  · rw [Int.fdiv_fmod_unique hpos]
    refine ⟨?_, ?_⟩
    · rintro ⟨heq, hs, hlt⟩
      omega
    · rintro ⟨heq, hle, hlt⟩
      exact ⟨by omega, by omega, by omega⟩

/-- A quotient rounded to zero leaves a remainder with the sign of the dividend. -/
theorem tmod_bounds (hb : b ≠ 0) : (a.tmod b).natAbs < b.natAbs ∧
    (0 ≤ a → 0 ≤ a.tmod b) ∧ (a ≤ 0 → a.tmod b ≤ 0) := by
  refine ⟨?_, Int.tmod_nonneg b, ?_⟩
  · rw [Int.natAbs_tmod]
    exact Nat.mod_lt _ (by omega)
  · intro ha
    have h := Int.tmod_nonneg b (Int.neg_nonneg_of_nonpos ha)
    rw [Int.neg_tmod] at h
    omega

/-- To round to zero is to round up: there is a remainder, and the signs differ. -/
def RoundsUp (a b : Int) : Prop := a.tmod b ≠ 0 ∧ ¬(a < 0 ↔ b < 0)

/-- The sign of the remainder is as good as that of the dividend. -/
theorem roundsUp_iff_tmod (hb : b ≠ 0) :
    RoundsUp a b ↔ a.tmod b ≠ 0 ∧ ¬(a.tmod b < 0 ↔ b < 0) := by
  obtain ⟨-, hnonneg, hnonpos⟩ := tmod_bounds (a := a) hb
  unfold RoundsUp
  omega

/-- The quotient rounded to zero and its remainder, corrected where that is rounding up. -/
theorem floors_corrected (hb : b ≠ 0) (h : RoundsUp a b) :
    Floors a b (a.tdiv b - 1) (a.tmod b + b) := by
  obtain ⟨hlt, hnonneg, hnonpos⟩ := tmod_bounds (a := a) hb
  have heq : b * a.tdiv b + a.tmod b = a := Int.mul_tdiv_add_tmod a b
  obtain ⟨hrest, hsigns⟩ := h
  refine ⟨?_, by omega, by omega⟩
  rw [Int.mul_sub, Int.mul_one]
  omega

theorem floors_tdiv (hb : b ≠ 0) (h : ¬RoundsUp a b) : Floors a b (a.tdiv b) (a.tmod b) := by
  obtain ⟨hlt, hnonneg, hnonpos⟩ := tmod_bounds (a := a) hb
  have heq : b * a.tdiv b + a.tmod b = a := Int.mul_tdiv_add_tmod a b
  unfold RoundsUp at h
  exact ⟨heq.symm, by omega, hlt⟩

/-! ## Division of words -/

/-- A quotient of words is a word but for one: the least word divided by minus one. -/
theorem inRange_tdiv_iff (hb : b ≠ 0) (ha : InRange a) :
    InRange (a.tdiv b) ↔ ¬(a = -0x8000000000000000 ∧ b = -1) := by
  have hle : (a.tdiv b).natAbs ≤ a.natAbs := Int.natAbs_tdiv_le_natAbs a b
  have heq : b * a.tdiv b + a.tmod b = a := Int.mul_tdiv_add_tmod a b
  obtain ⟨hlt, -, -⟩ := tmod_bounds (a := a) hb
  unfold InRange at *
  refine ⟨?_, ?_⟩
  · rintro hq ⟨rfl, rfl⟩
    omega
  · intro hne
    -- A quotient beyond the largest word is as large as the least word, and the divisor minus one.
    by_contra hout
    have hq : a.tdiv b = 0x8000000000000000 := by omega
    rw [hq] at heq
    omega

theorem divides_iff : divides x y = true ↔ y.toInt ≠ 0 ∧ InRange (x.toInt.tdiv y.toInt) := by
  have hminus : y = -1 ↔ y.toInt = -1 := by
    rw [← Int64.toInt_inj]
    rfl
  by_cases hy : y.toInt = 0
  · simp [divides, eq_zero_iff, hy]
  · rw [inRange_tdiv_iff hy (inRange_toInt x)]
    simp only [divides, Bool.and_eq_true, Bool.not_eq_true', beq_eq_false_iff_ne, ne_eq, eq_zero_iff,
      hy, not_false_eq_true, true_and, Bool.and_eq_false_iff, eq_minValue_iff, hminus]
    exact not_and_or.symm

theorem toInt_div (h : divides x y = true) : (x / y).toInt = x.toInt.tdiv y.toInt := by
  rw [Int64.toInt_div, bmod_of_inRange (divides_iff.mp h).2]

/-- What is asked of words before a correction, `z` being the one whose sign is looked at. -/
theorem correction_iff (x y z : Int64) :
    (x % y != 0 && decide (z < 0) != decide (y < 0)) = true ↔
      x.toInt.tmod y.toInt ≠ 0 ∧ ¬(z.toInt < 0 ↔ y.toInt < 0) := by
  have hzero : x % y = 0 ↔ x.toInt.tmod y.toInt = 0 := by
    rw [eq_zero_iff, Int64.toInt_mod]
  have hneg (z : Int64) : z < 0 ↔ z.toInt < 0 := by rw [Int64.lt_iff_toInt_lt, Int64.toInt_zero]
  simp only [Bool.and_eq_true, bne_iff_ne, ne_eq, hzero, hneg, decide_eq_decide]

theorem quotient_corrected_iff (x y : Int64) :
    (x % y != 0 && decide (x < 0) != decide (y < 0)) = true ↔ RoundsUp x.toInt y.toInt :=
  correction_iff x y x

theorem remainder_corrected_iff (h : divides x y = true) :
    (x % y != 0 && decide (x % y < 0) != decide (y < 0)) = true ↔ RoundsUp x.toInt y.toInt := by
  rw [correction_iff x y (x % y), Int64.toInt_mod, roundsUp_iff_tmod (divides_iff.mp h).1]

theorem inRange_corrected (ha : InRange a) (hb : b ≠ 0) (hrange : InRange b) (h : RoundsUp a b) :
    InRange (a.tdiv b - 1) ∧ InRange (a.tmod b + b) := by
  obtain ⟨hlt, hnonneg, hnonpos⟩ := tmod_bounds (a := a) hb
  have hle : (a.tdiv b).natAbs ≤ a.natAbs := Int.natAbs_tdiv_le_natAbs a b
  have heq : b * a.tdiv b + a.tmod b = a := Int.mul_tdiv_add_tmod a b
  obtain ⟨hrest, hsigns⟩ := h
  unfold InRange at *
  refine ⟨?_, by omega⟩
  -- Only the least word is as large as the least quotient, and then it is divided by one, with no rest.
  by_contra hout
  have hq : a.tdiv b = -0x8000000000000000 ∨ a.tdiv b = 0x8000000000000000 := by omega
  obtain hq | hq := hq <;> rw [hq] at heq <;> omega

theorem sub?_quotient (hd : divides x y = true) (hup : RoundsUp x.toInt y.toInt) :
    sub? (x / y) 1 = some (x / y - 1) := by
  have hq := (inRange_corrected (inRange_toInt x) (divides_iff.mp hd).1 (inRange_toInt y) hup).1
  rw [sub?, ofInt?_eq_some, Int64.toInt_sub, toInt_div hd, Int64.toInt_one, bmod_of_inRange hq]

theorem add?_remainder (hd : divides x y = true) (hup : RoundsUp x.toInt y.toInt) :
    add? (x % y) y = some (x % y + y) := by
  have hr := (inRange_corrected (inRange_toInt x) (divides_iff.mp hd).1 (inRange_toInt y) hup).2
  rw [add?, ofInt?_eq_some, Int64.toInt_add, Int64.toInt_mod, bmod_of_inRange hr]

theorem exists_floored (hd : divides x y = true) : ∃ q r : Int64,
    floorDiv? x y = some q ∧ floorMod? x y = some r ∧ Floors x.toInt y.toInt q.toInt r.toInt := by
  have hy : y.toInt ≠ 0 := (divides_iff.mp hd).1
  have hdiv := quotient_corrected_iff x y
  have hmod := remainder_corrected_iff hd
  simp only [floorDiv?, floorMod?, if_pos hd]
  by_cases hup : RoundsUp x.toInt y.toInt
  · rw [if_pos (hdiv.mpr hup), if_pos (hmod.mpr hup)]
    refine ⟨_, _, rfl, rfl, ?_⟩
    have hq : (x / y - 1).toInt = (x / y).toInt - 1 := toInt_of_ofInt? (sub?_quotient hd hup)
    have hr : (x % y + y).toInt = (x % y).toInt + y.toInt := toInt_of_ofInt? (add?_remainder hd hup)
    rw [hq, hr, toInt_div hd, Int64.toInt_mod]
    exact floors_corrected hy hup
  · rw [if_neg (mt hdiv.mp hup), if_neg (mt hmod.mp hup)]
    refine ⟨_, _, rfl, rfl, ?_⟩
    rw [toInt_div hd, Int64.toInt_mod]
    exact floors_tdiv hy hup

theorem floorDiv?_eq (x y : Int64) : floorDiv? x y =
    if y.toInt = 0 then none else ofInt? (x.toInt.fdiv y.toInt) := by
  by_cases hd : divides x y = true
  · have hy : y.toInt ≠ 0 := (divides_iff.mp hd).1
    obtain ⟨q, r, hq, -, hfloors⟩ := exists_floored hd
    rw [hq, if_neg hy, ((floors_iff hy).mp hfloors).1, ofInt?_toInt]
  · rw [floorDiv?, if_neg hd]
    split_ifs with hy
    · rfl
    · -- The one quotient that is no word is exact, so it is the floored one.
      have hout : ¬InRange (x.toInt.tdiv y.toInt) := fun h => hd (divides_iff.mpr ⟨hy, h⟩)
      obtain ⟨hx, hy⟩ := not_not.mp (mt (inRange_tdiv_iff hy (inRange_toInt x)).mpr hout)
      rw [hx, hy]
      decide

theorem divides_iff_fdiv :
    divides x y = true ↔ y.toInt ≠ 0 ∧ InRange (x.toInt.fdiv y.toInt) := by
  have heq := floorDiv?_eq x y
  by_cases hd : divides x y = true
  · have hy : y.toInt ≠ 0 := (divides_iff.mp hd).1
    obtain ⟨q, r, hq, -, -⟩ := exists_floored hd
    rw [hq, if_neg hy, eq_comm, ofInt?_eq_some] at heq
    exact iff_of_true hd ⟨hy, heq ▸ inRange_toInt q⟩
  · refine iff_of_false hd ?_
    rintro ⟨hy, hin⟩
    rw [floorDiv?, if_neg hd, if_neg hy, eq_comm, ofInt?_eq_none] at heq
    exact heq hin

/-! ## Division step by step -/

/-- The quotient rounded to zero, if the divisor is not zero and the quotient is a word. -/
def tdiv? (x y : Int64) : Option Int64 :=
  if y.toInt = 0 then none else ofInt? (x.toInt.tdiv y.toInt)

/-- The remainder of a quotient rounded to zero, where that is defined. -/
def tmod? (x y : Int64) : Option Int64 := (tdiv? x y).bind fun _ => ofInt? (x.toInt.tmod y.toInt)

/-- The floored quotient, or that there is none, with no result at all if a step on the way is not
    defined or leaves the range. -/
def floorDivSteps (x y : Int64) : Option (Option Int64) :=
  match tdiv? x y with
  | none => some none
  | some q => do
    let r ← tmod? x y
    if r != 0 && decide (x < 0) != decide (y < 0) then
      let q ← sub? q 1
      pure (some q)
    else pure (some q)

/-- The remainder of the floored quotient, or that there is none, with no result at all if a step on the
    way leaves the range. -/
def floorModSteps (x y : Int64) : Option (Option Int64) :=
  match tmod? x y with
  | none => some none
  | some r =>
    if r != 0 && decide (r < 0) != decide (y < 0) then do
      let r ← add? r y
      pure (some r)
    else pure (some r)

theorem tdiv?_of_divides (h : divides x y = true) : tdiv? x y = some (x / y) := by
  rw [tdiv?, if_neg (divides_iff.mp h).1, ofInt?_eq_some, toInt_div h]

theorem tdiv?_eq_none (h : ¬divides x y = true) : tdiv? x y = none := by
  unfold tdiv?
  split_ifs with hy
  · rfl
  · rw [ofInt?_eq_none]
    exact fun hq => h (divides_iff.mpr ⟨hy, hq⟩)

theorem tmod?_of_divides (h : divides x y = true) : tmod? x y = some (x % y) := by
  rw [tmod?, tdiv?_of_divides h, Option.bind_some, ofInt?_eq_some, Int64.toInt_mod]

theorem floorDivSteps_eq (x y : Int64) : floorDivSteps x y = some (floorDiv? x y) := by
  unfold floorDivSteps floorDiv?
  by_cases hd : divides x y = true
  · rw [tdiv?_of_divides hd, tmod?_of_divides hd, if_pos hd]
    dsimp only [Option.bind_eq_bind, Option.bind_some]
    split
    · rename_i h
      rw [sub?_quotient hd ((quotient_corrected_iff x y).mp h)]
      rfl
    · rfl
  · rw [tdiv?_eq_none hd, if_neg hd]

theorem floorModSteps_eq (x y : Int64) : floorModSteps x y = some (floorMod? x y) := by
  unfold floorModSteps floorMod?
  by_cases hd : divides x y = true
  · rw [tmod?_of_divides hd, if_pos hd]
    dsimp only
    split
    · rename_i h
      rw [add?_remainder hd ((remainder_corrected_iff hd).mp h)]
      rfl
    · rfl
  · rw [tmod?, tdiv?_eq_none hd, if_neg hd]
    rfl

end FramePlan.Integer
