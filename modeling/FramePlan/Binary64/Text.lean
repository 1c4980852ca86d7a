import FramePlan.Binary64.Shortest

/-!
# Numbers as text

A finite number is written from its shortest decimal in one of two layouts. `plain` is positional
at every size and marks no whole number (`1`, `0.1`, `-0`); `marked` ends whole numbers in `.0` and
leaves the positional form outside `10 ^ -5` to `10 ^ 16` (`1.0`, `1e+16`). `fixed` writes a given
number of decimal places of the exact value, a half going to the even digit.

`ofChars?` reads a number: a sign, then digits with at most one point and an exponent, or one of the
words `inf`, `infinity` and `nan` in any case. What it reads is the number nearest to the decimal.
-/
namespace FramePlan.Binary64

/-! ## Writing -/

/-- How a finite number is laid out. -/
structure Layout where
  /-- Whole numbers end in `.0`. -/
  wholeMark : Bool
  /-- The places of the decimal point, counted from the first digit, that are written
      positionally: above the first bound and up to the second. All of them when absent. -/
  positional : Option (Int × Int)
  /-- Where a tie between two shortest decimals goes. -/
  tie : Tie

/-- Positional at every size, whole numbers without a point, ties up. -/
def Layout.plain : Layout := ⟨false, none, .up⟩

/-- Whole numbers with `.0`, an exponent for the very large and the very small, ties to even. -/
def Layout.marked : Layout := ⟨true, some (-5, 16), .even⟩

/-- Digits with the decimal point `place` digits after the first one's left. -/
def placePoint (wholeMark : Bool) (digits : List Char) (place : Int) : List Char :=
  if (digits.length : Int) ≤ place then
    digits ++ List.replicate (place.toNat - digits.length) '0' ++ (if wholeMark then ['.', '0'] else [])
  else if 0 < place then digits.take place.toNat ++ '.' :: digits.drop place.toNat
  else '0' :: '.' :: List.replicate (-place).toNat '0' ++ digits

/-- Digits as one digit, a point and the others, with the signed power of ten behind them. -/
def placeExponent (digits : List Char) (place : Int) : List Char :=
  let head := match digits with
    | d :: rest@(_ :: _) => d :: '.' :: rest
    | ds => ds
  let sign := if 0 < place then ['+'] else []
  head ++ 'e' :: sign ++ (toString (place - 1)).toList

/-- A decimal in a layout. -/
def Layout.write (l : Layout) (d : Decimal) : List Char :=
  if d.coefficient = 0 then if l.wholeMark then ['0', '.', '0'] else ['0']
  else
    let digits := Nat.toDigits 10 d.coefficient
    let place := digits.length + d.exponent
    match l.positional with
    | none => placePoint l.wholeMark digits place
    | some (low, high) =>
      if low < place ∧ place ≤ high then placePoint l.wholeMark digits place
      else placeExponent digits place

/-- A number in a layout: `NaN` without a sign, `inf` and finite numbers with theirs. -/
def format (l : Layout) (x : Binary64) : String :=
  if x.isNaN then "NaN"
  else
    let body := if x.isInfinite then "inf".toList else l.write (x.shortest l.tie)
    String.ofList (if x.negative then '-' :: body else body)

/-- A finite number with `places` digits behind the point. -/
def fixed (places : Nat) (x : Binary64) : String :=
  let n := roundDiv (x.ratio.1 * Nat.pow 10 places) x.ratio.2
  let whole := Nat.toDigits 10 (n / Nat.pow 10 places)
  let tail := Nat.toDigits 10 (n % Nat.pow 10 places)
  let body := whole ++ '.' :: List.replicate (places - tail.length) '0' ++ tail
  String.ofList (if x.negative then '-' :: body else body)

/-! ## Reading -/

/-- The number nearest to `coefficient · 10 ^ exponent`. Far outside the range of the format the
    powers of ten are not formed. -/
def ofDecimal (negative : Bool) (coefficient : Nat) (exponent : Int) : Binary64 :=
  let size := exponent + Decimal.digitCount coefficient
  if coefficient = 0 ∨ size < -400 then withSign negative zero
  else if size > 400 then withSign negative infinity
  else nearest negative (coefficient * Nat.pow 10 exponent.toNat) (Nat.pow 10 (-exponent).toNat)

/-- The sign that a text may start with, and what follows it. -/
def splitSign : List Char → Bool × List Char
  | '-' :: cs => (true, cs)
  | '+' :: cs => (false, cs)
  | cs => (false, cs)

/-- An exponent behind a number: none, or `e` and an integer of at least one digit. -/
def readExponent? : List Char → Option Int
  | [] => some 0
  | c :: cs =>
    if c = 'e' ∨ c = 'E' then
      let (negative, ds) := splitSign cs
      if ds ≠ [] ∧ ds.all Char.isDigit then
        some (if negative then -(Nat.ofDigitChars 10 ds 0 : Int) else Nat.ofDigitChars 10 ds 0)
      else none
    else none

/-- An unsigned number written in digits. -/
def readDigits? (negative : Bool) (cs : List Char) : Option Binary64 :=
  let whole := cs.takeWhile Char.isDigit
  let (part, rest) := match cs.dropWhile Char.isDigit with
    | '.' :: r => (r.takeWhile Char.isDigit, r.dropWhile Char.isDigit)
    | r => ([], r)
  if whole = [] ∧ part = [] then none
  else (readExponent? rest).map fun e =>
    ofDecimal negative (Nat.ofDigitChars 10 (whole ++ part) 0) (e - part.length)

/-- The number that a text denotes. -/
def ofChars? (cs : List Char) : Option Binary64 :=
  let (negative, body) := splitSign cs
  let word := String.ofList (body.map Char.toLower)
  if word = "inf" ∨ word = "infinity" then some (withSign negative infinity)
  else if word = "nan" then some (withSign negative nan)
  else readDigits? negative body

def ofText? (s : String) : Option Binary64 := ofChars? s.toList

end FramePlan.Binary64
