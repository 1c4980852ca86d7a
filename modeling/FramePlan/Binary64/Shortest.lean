import FramePlan.Binary64.Basic

/-!
# The shortest decimal of a number

Among all decimals that round to a number, `shortest` takes one on the coarsest decimal grid that
has any, and on that grid the one nearest to the number; where a tie between the number's two neighbours
goes is a parameter. No float operation is involved: a number's value, the ends of the interval that
rounds to it and the grid points are compared as naturals over a common unit.

A grid point lies in the interval only if one of the two grid neighbours of the number does, so
trying these two is enough, and seventeen digits always suffice.
-/
namespace FramePlan

/-- A nonnegative decimal: `coefficient · 10 ^ exponent`. -/
structure Decimal where
  coefficient : Nat
  exponent : Int
  deriving DecidableEq, Repr

namespace Decimal

/-- How many decimal digits a natural has, none for zero. -/
def digitCount (n : Nat) : Nat := if n = 0 then 0 else (Nat.toDigits 10 n).length

/-- The same decimal with no zero at the end of its coefficient. -/
def stripZeros (c : Nat) (e : Int) : Decimal :=
  if h : c ≠ 0 ∧ c % 10 = 0 then stripZeros (c / 10) (e + 1) else ⟨c, e⟩
  termination_by c
  decreasing_by omega

end Decimal

/-- Which of two neighbours takes a tie: the larger one, or the one with an even last digit. -/
inductive Tie
  | up
  | even
  deriving DecidableEq, Repr

/-- A tie above the grid point `c` goes down to it. -/
def Tie.goesDown (t : Tie) (c : Nat) : Bool := t == .even && c % 2 == 0

namespace Binary64

/-- The numbers that round to `x`, in quarters of the step `2 ^ exponent`: the low end, `x` itself
    and the high end. Below a power of two the step is half as wide. -/
def roundingInterval (x : Binary64) : Nat × Nat × Nat :=
  let m := x.significand
  let low := if m = 0x10000000000000 ∧ x.exponent > -1074 then 4 * m - 1 else 4 * m - 2
  (low, 4 * m, 4 * m + 2)

/-- The power of ten just above `num / den`, which is positive. -/
def decimalMagnitude (num den : Nat) : Int :=
  if den ≤ num then Decimal.digitCount (num / den)
  else 1 - (Decimal.digitCount ((den + num - 1) / num - 1) : Int)

/-- The better of the two neighbours of `x` on the grid of multiples of `10 ^ g`, of those that
    round to `x`. The ends of the interval belong to it when the significand is even. -/
def onGrid (x : Binary64) (tie : Tie) (g : Int) : Option Decimal :=
  let (low, mid, high) := x.roundingInterval
  let unit := Nat.pow 10 g.toNat * Nat.pow 2 (2 - x.exponent).toNat
  let scale := Nat.pow 10 (-g).toNat * Nat.pow 2 (x.exponent - 2).toNat
  let inside (c : Nat) : Bool :=
    if x.significand % 2 = 0 then
      decide (low * scale ≤ c * unit) && decide (c * unit ≤ high * scale)
    else
      decide (low * scale < c * unit) && decide (c * unit < high * scale)
  let down := mid * scale / unit
  let twice := 2 * (mid * scale)
  let middle := (2 * down + 1) * unit
  let nearer := if twice < middle ∨ (twice = middle ∧ tie.goesDown down) then down else down + 1
  if inside down then
    some ⟨if inside (down + 1) then nearer else down, g⟩
  else if inside (down + 1) then some ⟨down + 1, g⟩
  else none

/-- The first hit among the grids from `g` downwards, `fuel` of them at most. -/
def coarsest (x : Binary64) (tie : Tie) (g : Int) : Nat → Decimal
  | 0 => ⟨x.wholePart, 0⟩
  | fuel + 1 => (x.onGrid tie g).getD (x.coarsest tie (g - 1) fuel)

/-- The shortest decimal that rounds to the absolute value of a finite number. -/
def shortest (x : Binary64) (tie : Tie) : Decimal :=
  if x.isZero then ⟨0, 0⟩
  else
    let d := x.coarsest tie (decimalMagnitude x.ratio.1 x.ratio.2 - 1) 17
    Decimal.stripZeros d.coefficient d.exponent

end Binary64
end FramePlan
