/-!
# Sixty-four bit integers

Arithmetic that gives a result only where the exact one fits: `ofInt?` is the range check, and sums,
differences and products are exact integers put through it. Division is floored; it works in words,
and `floorDiv?` and `floorMod?` have no result exactly where the divisor is zero or the quotient is
one more than the largest word.

Texts are read as an optional sign and at least one ASCII digit, and nothing else.

Correspondence (program ↔ Lean):
  `checked_add`, `checked_sub`, `checked_mul` ↔ `add?`, `sub?`, `mul?`
  `floor_div`, `floor_mod`                    ↔ `floorDiv?`, `floorMod?`
  `try_fold(checked_add)`                     ↔ `sum?`
  `parse` of an integer                       ↔ `ofText?`
-/
namespace FramePlan.Integer

/-- The word with the given value, if there is one. -/
def ofInt? (z : Int) : Option Int64 :=
  if -0x8000000000000000 ≤ z ∧ z < 0x8000000000000000 then some (Int64.ofInt z) else none

/-- The word nearest to an integer. -/
def clamp (z : Int) : Int64 :=
  if z < -0x8000000000000000 then Int64.minValue else if 0x8000000000000000 ≤ z then Int64.maxValue else Int64.ofInt z

def add? (x y : Int64) : Option Int64 := ofInt? (x.toInt + y.toInt)
def sub? (x y : Int64) : Option Int64 := ofInt? (x.toInt - y.toInt)
def mul? (x y : Int64) : Option Int64 := ofInt? (x.toInt * y.toInt)
def neg? (x : Int64) : Option Int64 := ofInt? (-x.toInt)
def abs? (x : Int64) : Option Int64 := ofInt? x.toInt.natAbs

/-- The division of words that rounds to zero is defined: the divisor is not zero, and the quotient
    is not that of the least word by minus one. -/
def divides (x y : Int64) : Bool := !(y == 0) && !(x == Int64.minValue && y == -1)

/-- The quotient rounded down. The word quotient is rounded to zero, so it is one too large where
    the signs differ and there is a remainder. -/
def floorDiv? (x y : Int64) : Option Int64 :=
  if divides x y then
    let q := x / y
    if x % y != 0 && decide (x < 0) != decide (y < 0) then some (q - 1) else some q
  else none

/-- The remainder with the sign of the divisor. -/
def floorMod? (x y : Int64) : Option Int64 :=
  if divides x y then
    let r := x % y
    if r != 0 && decide (r < 0) != decide (y < 0) then some (r + y) else some r
  else none

/-- The exact sum of the words, in list order, if it never leaves the range. -/
def sum? (xs : List Int64) : Option Int64 := xs.foldlM add? 0

/-! ## Text -/

/-- The integer that an optional sign and digits denote. -/
def readInt? (cs : List Char) : Option Int :=
  let (negative, ds) := match cs with
    | '-' :: r => (true, r)
    | '+' :: r => (false, r)
    | r => (false, r)
  if ds ≠ [] ∧ ds.all Char.isDigit then
    let n : Int := Nat.ofDigitChars 10 ds 0
    some (if negative then -n else n)
  else none

/-- The word that a text denotes. -/
def ofChars? (cs : List Char) : Option Int64 := (readInt? cs).bind ofInt?

def ofText? (s : String) : Option Int64 := ofChars? s.toList

/-- The decimal text of a word. -/
def toText (x : Int64) : String := toString x.toInt

/-- The count that a text denotes: an optional plus sign, digits, and a value below `2 ^ 64`. -/
def countOfText? (s : String) : Option Nat :=
  let ds := match s.toList with
    | '+' :: r => r
    | r => r
  if ds ≠ [] ∧ ds.all Char.isDigit ∧ Nat.ofDigitChars 10 ds 0 < 0x10000000000000000 then
    some (Nat.ofDigitChars 10 ds 0)
  else none

/-! ## Small facts -/

theorem toInt_of_ofInt? {z : Int} {x : Int64} (h : ofInt? z = some x) : x.toInt = z := by
  unfold ofInt? at h
  split at h
  · cases h
    rw [Int64.toInt_ofInt]
    exact Int.bmod_eq_of_le (by simp [Int64.size]; omega) (by simp [Int64.size]; omega)
  · cases h

theorem ofInt?_toInt (x : Int64) : ofInt? x.toInt = some x := by
  have h₁ := Int64.le_toInt x
  have h₂ := Int64.toInt_lt x
  simp only [ofInt?]
  rw [if_pos ⟨by simpa using h₁, by simpa using h₂⟩, Int64.ofInt_toInt]

end FramePlan.Integer
