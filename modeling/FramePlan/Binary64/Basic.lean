/-!
# Binary64 numbers

A binary64 number is its sixty-four bits: a sign, eleven bits of exponent and fifty-two of
fraction. Keeping the bits keeps what the operators of `Float` drop, the sign of a NaN, and that
sign is seen by the total order (`orderKey`): negative NaNs, then the numbers from `-∞` to `+∞`
with `-0` before `+0`, then positive NaNs.

A finite number is `± significand · 2 ^ exponent`, both of them exact, and `nearest` is the one
rounding of the library: the binary64 number nearest to a ratio of naturals, a half going to the
even neighbour. Everything that makes a number from digits or from an integer goes through it.
-/
namespace FramePlan

/-- A number in the binary64 format, by its bits. -/
structure Binary64 where
  bits : UInt64
  deriving DecidableEq, Inhabited

namespace Binary64

/-! ## The fields -/

/-- The sign bit. -/
def negative (x : Binary64) : Bool := decide (0x8000000000000000 ≤ x.bits.toNat)

/-- The bits below the sign, as a natural: the order of absolute values. -/
def magnitude (x : Binary64) : Nat := x.bits.toNat % 0x8000000000000000

/-- The eleven bits of the exponent, biased. -/
def exponentField (x : Binary64) : Nat := x.magnitude / 0x10000000000000

/-- The fifty-two bits of the fraction. -/
def fraction (x : Binary64) : Nat := x.magnitude % 0x10000000000000

def isNaN (x : Binary64) : Bool := decide (x.exponentField = 2047) && decide (x.fraction ≠ 0)
def isInfinite (x : Binary64) : Bool := decide (x.exponentField = 2047) && decide (x.fraction = 0)
def isFinite (x : Binary64) : Bool := decide (x.exponentField ≠ 2047)
def isZero (x : Binary64) : Bool := decide (x.magnitude = 0)

/-- The integer multiple of `2 ^ exponent` that a finite number's absolute value is. -/
def significand (x : Binary64) : Nat :=
  if x.exponentField = 0 then x.fraction else 0x10000000000000 + x.fraction

/-- The power of two that the significand counts. -/
def exponent (x : Binary64) : Int :=
  if x.exponentField = 0 then -1074 else (x.exponentField : Int) - 1075

/-- The absolute value of a finite number, as a numerator over a denominator. -/
def ratio (x : Binary64) : Nat × Nat :=
  (x.significand * Nat.pow 2 x.exponent.toNat, Nat.pow 2 (-x.exponent).toNat)

/-! ## Some numbers -/

def zero : Binary64 := ⟨0⟩
def negZero : Binary64 := ⟨0x8000000000000000⟩
def infinity : Binary64 := ⟨0x7FF0000000000000⟩
def nan : Binary64 := ⟨0x7FF8000000000000⟩

/-- The NaN that an invalid operation on numbers gives. Its sign bit is set. -/
def invalid : Binary64 := ⟨0xFFF8000000000000⟩

/-- The number with the sign bit set (`true`) or cleared, and the other bits as they are. -/
def withSign (negative : Bool) (x : Binary64) : Binary64 :=
  ⟨if negative then x.bits ||| 0x8000000000000000 else x.bits &&& 0x7FFFFFFFFFFFFFFF⟩

/-- The opposite number: only the sign bit changes, also of a NaN. -/
def neg (x : Binary64) : Binary64 := ⟨x.bits ^^^ 0x8000000000000000⟩

/-- The absolute value: the sign bit is cleared. -/
def abs (x : Binary64) : Binary64 := withSign false x

/-! ## Order -/

/-- Where a number stands in the total order of bit patterns. -/
def orderKey (x : Binary64) : Int :=
  if x.negative then -(x.magnitude : Int) - 1 else x.magnitude

/-- The total order of bit patterns. It tells `-0` from `+0` and puts every NaN at an end. -/
def totalCompare (x y : Binary64) : Ordering := compare x.orderKey y.orderKey

/-- Equality of numbers: a NaN equals nothing, and `-0` equals `+0`. -/
def numEq (x y : Binary64) : Bool :=
  !x.isNaN && !y.isNaN && (decide (x = y) || (x.isZero && y.isZero))

/-! ## Rounding -/

/-- The quotient rounded to the nearest integer, a half to the even one. -/
def roundDiv (num den : Nat) : Nat :=
  let q := num / den
  let r := num % den
  if 2 * r < den then q else if den < 2 * r then q + 1 else q + q % 2

/-- The exponent at which `num / den` has a significand below `2 ^ 53`, and at least `2 ^ 52`
    unless the number is below the normal ones. -/
def roundingExponent (num den : Nat) : Int :=
  let e : Int := max (-1074) ((num.log2 : Int) - den.log2 - 53)
  if 0x20000000000000 * (den * Nat.pow 2 e.toNat) ≤ num * Nat.pow 2 (-e).toNat then e + 1 else e

/-- The number nearest to `num / den` with the given sign; a half goes to the even neighbour, and
    what is beyond the largest number by half a step or more is an infinity. -/
def nearest (negative : Bool) (num den : Nat) : Binary64 :=
  if num = 0 then withSign negative zero
  else
    let e := roundingExponent num den
    let m := roundDiv (num * Nat.pow 2 (-e).toNat) (den * Nat.pow 2 e.toNat)
    let bits := if m < 0x10000000000000 then m else (e + 1075).toNat * 0x10000000000000 + (m - 0x10000000000000)
    withSign negative ⟨UInt64.ofNat (min bits (2047 * 0x10000000000000))⟩

/-- The number nearest to an integer. -/
def ofInt (i : Int) : Binary64 := nearest (decide (i < 0)) i.natAbs 1

/-! ## Integers in a number -/

/-- The absolute value of a finite number without its fractional part. -/
def wholePart (x : Binary64) : Nat := x.ratio.1 / x.ratio.2

/-- A finite number with no fractional part. -/
def isWhole (x : Binary64) : Bool := x.isFinite && decide (x.ratio.1 % x.ratio.2 = 0)

/-- The integer nearest to zero from a finite number. -/
def truncate (x : Binary64) : Int := if x.negative then -(x.wholePart : Int) else x.wholePart

/-- The greatest whole number that is not above `x`; infinities and NaNs are their own. -/
def floor (x : Binary64) : Binary64 :=
  if !x.isFinite || x.isWhole then x
  else if x.negative then nearest true (x.wholePart + 1) 1
  else nearest false x.wholePart 1

/-! ## Arithmetic -/

/-- The same number as a machine float, which keeps all of it but a NaN's sign and payload. -/
def toFloat (x : Binary64) : Float := Float.ofBits x.bits

/-- A NaN operand is the result, the left one first; an operation on two numbers that has no
    result gives `invalid`; otherwise the result is the correctly rounded one. -/
def arithmetic (f : Float → Float → Float) (x y : Binary64) : Binary64 :=
  if x.isNaN then x
  else if y.isNaN then y
  else
    let z : Binary64 := ⟨(f x.toFloat y.toFloat).toBits⟩
    if z.isNaN then invalid else z

def add : Binary64 → Binary64 → Binary64 := arithmetic (· + ·)
def sub : Binary64 → Binary64 → Binary64 := arithmetic (· - ·)
def mul : Binary64 → Binary64 → Binary64 := arithmetic (· * ·)
def div : Binary64 → Binary64 → Binary64 := arithmetic (· / ·)

/-- The remainder that has the sign of the divisor: what `y` times the floor of the quotient
    leaves of `x`, each step rounded. -/
def mod (x y : Binary64) : Binary64 := sub x (mul y (floor (div x y)))

/-- The sum in list order. It starts at `-0`, the identity of addition, which is then the sum of
    no numbers. -/
def sum (xs : List Binary64) : Binary64 := xs.foldl add negZero

end Binary64
end FramePlan
