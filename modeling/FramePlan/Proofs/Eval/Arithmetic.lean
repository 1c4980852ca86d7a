import FramePlan.Eval.Scalar
import FramePlan.Proofs.Integer.Division

/-!
# Arithmetic on integer cells

Sums, differences and products of integer cells are exact where they are words, and null elsewhere. A
quotient and its remainder are those of the floored division, and both are null where the divisor is zero
or the quotient is no word.
-/
namespace FramePlan.Eval

open Integer

variable {z : Int}

/-- The cell holds the integer if this is a word, and is null if it is not. -/
def IsExact (z : Int) (c : Cell) : Prop :=
  (InRange z → ∃ w : Int64, c = .int w ∧ w.toInt = z) ∧ (¬InRange z → c = .null)

theorem isExact_ofInt? (z : Int) : IsExact z (Cell.ofInt? (ofInt? z)) := by
  refine ⟨?_, ?_⟩
  · intro hin
    cases h : ofInt? z with
    | none => exact absurd hin (ofInt?_eq_none.mp h)
    | some w => exact ⟨w, rfl, toInt_of_ofInt? h⟩
  · intro hout
    rw [ofInt?_eq_none.mpr hout]
    rfl

/-- **Integer arithmetic is exact, floored and never wraps around.** On two integer cells, a sum, a difference
and a product are the exact ones where these are words, and null elsewhere. A quotient and a remainder
are null exactly where the divisor is zero or the floored quotient is no word. Elsewhere both are
integers: the dividend is the divisor times the quotient and the remainder, and the remainder is less
than the divisor and is zero or has its sign. On the way to them, the remainder of the word division is
defined whenever it is taken, and no correction leaves the range. -/
theorem integer_arithmetic (x y : Int64) :
    IsExact (x.toInt + y.toInt) (arith .add (.int x) (.int y)) ∧
    IsExact (x.toInt - y.toInt) (arith .sub (.int x) (.int y)) ∧
    IsExact (x.toInt * y.toInt) (arith .mul (.int x) (.int y)) ∧
    (y = 0 ∨ ¬InRange (x.toInt.fdiv y.toInt) →
      arith .div (.int x) (.int y) = .null ∧ arith .mod (.int x) (.int y) = .null) ∧
    (¬(y = 0 ∨ ¬InRange (x.toInt.fdiv y.toInt)) → ∃ q r : Int64,
      arith .div (.int x) (.int y) = .int q ∧ arith .mod (.int x) (.int y) = .int r ∧
        Floors x.toInt y.toInt q.toInt r.toInt) ∧
    floorDivSteps x y = some (floorDiv? x y) ∧ floorModSteps x y = some (floorMod? x y) := by
  have hdefined : divides x y = true ↔ ¬(y = 0 ∨ ¬InRange (x.toInt.fdiv y.toInt)) := by
    rw [divides_iff_fdiv, ← Int64.toInt_inj, Int64.toInt_zero, not_or, not_not]
  refine ⟨isExact_ofInt? _, isExact_ofInt? _, isExact_ofInt? _, ?_, ?_, floorDivSteps_eq x y,
    floorModSteps_eq x y⟩
  · intro hnone
    have hd : ¬divides x y = true := fun h => hdefined.mp h hnone
    refine ⟨?_, ?_⟩
    · simp only [arith, intArith, floorDiv?, if_neg hd]
      rfl
    · simp only [arith, intArith, floorMod?, if_neg hd]
      rfl
  · intro hsome
    obtain ⟨q, r, hq, hr, hfloors⟩ := exists_floored (hdefined.mpr hsome)
    refine ⟨q, r, ?_, ?_, hfloors⟩
    · simp only [arith, intArith, hq]
      rfl
    · simp only [arith, intArith, hr]
      rfl

end FramePlan.Eval
