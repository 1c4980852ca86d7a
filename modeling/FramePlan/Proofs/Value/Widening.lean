import FramePlan.Value.Host
import FramePlan.Proofs.Binary64.Exact
import FramePlan.Proofs.Integer.Sum

/-!
# What host data widen to

`Widens` says of a host datum and a value that the value is what the datum means, in integers, rational
numbers and texts: an integer of any width goes with the word of the same value, or with null if there is
none, a number in the binary32 format with the equal number (`Binary32.Equals`), and a text or a character
with its text. `ofHost` gives each scalar what it widens to (`widens_ofHost`), and a conversion by the type
found on arrival agrees with it (`conversions_agree`), but for two forms of text inside an optional: a
reference and a box are not looked for there, and such a text is lost.
-/
namespace FramePlan

open Integer

/-! ## Numbers in the binary32 format -/

namespace Binary32

def negative (bits : UInt32) : Bool := decide (0x80000000 ≤ bits.toNat)

def exponentField (bits : UInt32) : ℕ := bits.toNat / 0x800000 % 256

def fraction (bits : UInt32) : ℕ := bits.toNat % 0x800000

def isNaN (bits : UInt32) : Bool := decide (exponentField bits = 255) && decide (fraction bits ≠ 0)
def isInfinite (bits : UInt32) : Bool := decide (exponentField bits = 255) && decide (fraction bits = 0)
def isFinite (bits : UInt32) : Bool := decide (exponentField bits ≠ 255)

/-- The integer multiple of `2 ^ exponent` that a finite number's absolute value is. -/
def significand (bits : UInt32) : ℕ :=
  if exponentField bits = 0 then fraction bits else 0x800000 + fraction bits

def exponent (bits : UInt32) : ℤ :=
  if exponentField bits = 0 then -149 else (exponentField bits : ℤ) - 150

def toRat (bits : UInt32) : ℚ :=
  (if negative bits then -1 else 1) * (significand bits * 2 ^ exponent bits)

/-- The same number in the two formats: of one sign, both a NaN, both an infinity, or both finite and equal.
The sign tells the zeros apart. -/
structure Equals (bits : UInt32) (x : Binary64) : Prop where
  sign : x.negative = negative bits
  nan : x.isNaN = isNaN bits
  infinite : x.isInfinite = isInfinite bits
  value : isFinite bits = true → x.isFinite = true ∧ x.toRat = toRat bits

theorem significand_lt (bits : UInt32) : significand bits < 0x1000000 := by
  have hfraction : fraction bits < 0x800000 := Nat.mod_lt _ (by decide)
  unfold significand
  split <;> omega

theorem exponent_bounds (bits : UInt32) : -149 ≤ exponent bits ∧ exponent bits ≤ 105 := by
  have hfield : exponentField bits < 256 := Nat.mod_lt _ (by decide)
  unfold exponent
  split <;> omega

theorem not_special_of_isFinite {bits : UInt32} (h : isFinite bits = true) :
    isNaN bits = false ∧ isInfinite bits = false := by
  have hfield : exponentField bits ≠ 255 := of_decide_eq_true h
  simp [isNaN, isInfinite, hfield]

theorem equals_nearest {bits : UInt32} {num den : ℕ} (hfinite : isFinite bits = true) (hden : den ≠ 0)
    (hratio : (num : ℚ) / den = significand bits * 2 ^ exponent bits) :
    Equals bits (Binary64.nearest (negative bits) num den) := by
  have hs := significand_lt bits
  obtain ⟨hleast, hgreatest⟩ := exponent_bounds bits
  obtain ⟨hfin, hsign, hrat⟩ := Binary64.toRat_nearest (negative bits) hden (by omega)
    (by omega) (by omega) hratio
  obtain ⟨hnan, hinf⟩ := not_special_of_isFinite hfinite
  obtain ⟨hnan', hinf'⟩ := Binary64.not_special_of_isFinite hfin
  refine ⟨hsign, by rw [hnan', hnan], by rw [hinf', hinf], fun _ => ⟨hfin, ?_⟩⟩
  rw [hrat, hratio, toRat]

theorem isNaN_or {p : ℕ} (hp : p < 2 ^ 52) :
    Binary64.isNaN ⟨Binary64.nan.bits ||| UInt64.ofNat p⟩ = true := by
  have hbits : (Binary64.nan.bits ||| UInt64.ofNat p).toNat = 0x7FF8000000000000 ||| p := by
    rw [UInt64.toNat_or, UInt64.toNat_ofNat', Nat.mod_eq_of_lt (hp.trans (by decide))]
    rfl
  have hmag : Binary64.magnitude ⟨Binary64.nan.bits ||| UInt64.ofNat p⟩ = 0x7FF8000000000000 ||| p := by
    rw [Binary64.magnitude, hbits]
    exact Nat.mod_eq_of_lt (Nat.or_lt_two_pow (n := 63) (by decide) (hp.trans (by decide)))
  have hfield : (0x7FF8000000000000 ||| p) / 2 ^ 52 = 2047 := by
    rw [Nat.or_div_two_pow, Nat.div_eq_of_lt hp, Nat.or_zero]
  have hfraction : 0x8000000000000 ≤ (0x7FF8000000000000 ||| p) % 2 ^ 52 := by
    rw [Nat.or_mod_two_pow]
    exact Nat.left_le_or
  rw [Binary64.isNaN, Binary64.exponentField, Binary64.fraction, hmag, Bool.and_eq_true, decide_eq_true_iff,
    decide_eq_true_iff]
  exact ⟨hfield, by omega⟩

theorem equals_infinity {bits : UInt32} (hspecial : exponentField bits = 255) (hzero : fraction bits = 0) :
    Equals bits (Binary64.withSign (negative bits) Binary64.infinity) := by
  refine ⟨Binary64.negative_withSign _ _, ?_, ?_, by simp [isFinite, hspecial]⟩
  · rw [Binary64.isNaN_withSign, isNaN, hspecial, hzero]
    decide
  · rw [Binary64.isInfinite_withSign, isInfinite, hspecial, hzero]
    decide

theorem equals_nan {bits : UInt32} {x : Binary64} (hspecial : exponentField bits = 255)
    (hfraction : fraction bits ≠ 0) (hx : x.isNaN = true) :
    Equals bits (Binary64.withSign (negative bits) x) := by
  refine ⟨Binary64.negative_withSign _ _, ?_, ?_, by simp [isFinite, hspecial]⟩
  · rw [Binary64.isNaN_withSign, hx, isNaN]
    simp [hspecial, hfraction]
  · rw [Binary64.isInfinite_withSign, Binary64.isInfinite_of_isNaN hx, isInfinite]
    simp [hfraction]

theorem ofBinary32_eq (bits : UInt32) : Binary64.ofBinary32 bits =
    if exponentField bits = 255 then
      if fraction bits = 0 then Binary64.withSign (negative bits) Binary64.infinity
      else Binary64.withSign (negative bits)
        ⟨Binary64.nan.bits ||| UInt64.ofNat (fraction bits * 0x20000000)⟩
    else if exponentField bits = 0 then Binary64.nearest (negative bits) (fraction bits) (Nat.pow 2 149)
    else Binary64.nearest (negative bits) ((0x800000 + fraction bits) * Nat.pow 2 (exponentField bits))
      (Nat.pow 2 150) := rfl

/-- **The number that a binary32 number is made is the same number.** -/
theorem equals_ofBinary32 (bits : UInt32) : Equals bits (Binary64.ofBinary32 bits) := by
  have hfraction : fraction bits < 0x800000 := Nat.mod_lt _ (by decide)
  rw [ofBinary32_eq]
  split_ifs with hspecial hzero hleast
  · exact equals_infinity hspecial hzero
  · exact equals_nan hspecial hzero (isNaN_or (by omega))
  · -- A number below the normal ones, or a zero.
    refine equals_nearest (decide_eq_true hspecial) (by decide) ?_
    rw [significand, exponent, if_pos hleast, if_pos hleast, Nat.pow_eq, zpow_neg, ← div_eq_mul_inv]
    norm_cast
  · refine equals_nearest (decide_eq_true hspecial) (by decide) ?_
    rw [significand, exponent, if_neg hleast, if_neg hleast, zpow_sub₀ two_ne_zero, Nat.pow_eq, Nat.pow_eq]
    push_cast
    rw [mul_div_assoc]
    norm_cast

/-- The least binary32 number that is not zero, negated. -/
example : Binary64.ofBinary32 0x80000001 = ⟨0xB6A0000000000000⟩ := by decide +kernel

end Binary32

/-! ## Host data -/

namespace HostType

/-- The types of scalars: integers, numbers, truth values, characters, and texts in every form. -/
def isScalar : HostType → Bool
  | .json => false
  | .value => false
  | .foreign => false
  | _ => true

end HostType

namespace Host

def integer? : Host → Option ℤ
  | .int8 i => some i.toInt
  | .int16 i => some i.toInt
  | .int32 i => some i.toInt
  | .int64 i => some i.toInt
  | .word i => some i.toInt
  | .uint8 n => some n.toNat
  | .uint16 n => some n.toNat
  | .uint32 n => some n.toNat
  | .uint64 n => some n.toNat
  | .uword n => some n.toNat
  | _ => none

/-- The text that a datum is, if it is one; a character is a text of one character. -/
def text? : Host → Option String
  | .character c => some (String.singleton c)
  | .text _ s => some s
  | _ => none

/-- The value is what a scalar means. -/
inductive Widens : Host → Value → Prop
  | integer {h : Host} {z : ℤ} {i : Int64} (hz : h.integer? = some z) (hi : i.toInt = z) : Widens h (.int i)
  | beyond {h : Host} {z : ℤ} (hz : h.integer? = some z) (hfar : ¬InRange z) : Widens h .null
  | float64 (x : Binary64) : Widens (.float64 x) (.float x)
  | float32 {bits : UInt32} {x : Binary64} (hx : Binary32.Equals bits x) : Widens (.float32 bits) (.float x)
  | boolean (b : Bool) : Widens (.boolean b) (.bool b)
  | text {h : Host} {s : String} (hs : h.text? = some s) : Widens h (.str s)

end Host

namespace Value

/-- An integer is never wrapped: it is the word of its value, or null. -/
theorem widens_ofInteger {h : Host} {z : ℤ} (hz : h.integer? = some z) : h.Widens (ofInteger z) := by
  unfold ofInteger
  split
  · next i hi => exact .integer hz (toInt_of_ofInt? hi)
  · next hnone => exact .beyond hz (ofInt?_eq_none.mp hnone)

theorem widens_ofHost {h : Host} (hscalar : h.type.isScalar = true) : h.Widens (ofHost h) := by
  cases h with
  | int8 i => exact .integer rfl (Int8.toInt_toInt64 i)
  | int16 i => exact .integer rfl (Int16.toInt_toInt64 i)
  | int32 i => exact .integer rfl (Int32.toInt_toInt64 i)
  | int64 i => exact .integer rfl rfl
  | word i => exact widens_ofInteger (z := i.toInt) rfl
  | uint8 n => exact widens_ofInteger (z := n.toNat) rfl
  | uint16 n => exact widens_ofInteger (z := n.toNat) rfl
  | uint32 n => exact widens_ofInteger (z := n.toNat) rfl
  | uint64 n => exact widens_ofInteger (z := n.toNat) rfl
  | uword n => exact widens_ofInteger (z := n.toNat) rfl
  | float64 x => exact .float64 x
  | float32 bits => exact .float32 (Binary32.equals_ofBinary32 bits)
  | boolean b => exact .boolean b
  | character c => exact .text rfl
  | text form s => exact .text rfl
  | json j => cases hscalar
  | value v => cases hscalar
  | foreign => cases hscalar

end Value

namespace HostType

variable {t : HostType}

theorem mem_recognisedPlain (ht : t.isScalar = true) : t ∈ recognisedPlain := by
  cases t with
  | text form => cases form <;> decide
  | json => cases ht
  | value => cases ht
  | foreign => cases ht
  | _ => decide

/-- Of the scalars, the texts by reference and in a box are the ones not recognised inside an optional. -/
theorem mem_recognisedOptional_iff (ht : t.isScalar = true) :
    t ∈ recognisedOptional ↔ ¬(t = .text .reference ∨ t = .text .boxed) := by
  cases t with
  | text form => cases form <;> decide
  | json => cases ht
  | value => cases ht
  | foreign => cases ht
  | _ => decide

end HostType

namespace Value

/-- **Data converted by the type found on arrival widen as data of a known type do**, alone and inside an
optional, and an absent scalar is null; but a text held by reference or in a box is lost inside an
optional. -/
theorem conversions_agree {t : HostType} (ht : t.isScalar = true) :
    ofDynamic (.absent t) = .null ∧
    ∀ h : Host, h.type = t →
      h.Widens (ofHost h) ∧ ofOptional (some h) = ofHost h ∧ ofDynamic (.plain h) = ofHost h ∧
      ofDynamic (.present h) = if t = .text .reference ∨ t = .text .boxed then .null else ofHost h := by
  refine ⟨?_, ?_⟩
  · simp only [ofDynamic, ofOptional, Option.map_none, Option.getD_none, ite_self]
  · rintro h rfl
    refine ⟨widens_ofHost ht, rfl, ?_, ?_⟩
    · rw [ofDynamic, if_pos (HostType.mem_recognisedPlain ht)]
    · simp only [ofDynamic, HostType.mem_recognisedOptional_iff ht, ite_not]
      rfl

/-- The least natural number that is no word becomes null, and one less the largest word. -/
theorem conversions_agree_limits :
    HostType.isScalar .uint64 = true ∧
    ofDynamic (.present (.uint64 0x8000000000000000)) = .null ∧
    ofDynamic (.present (.uint64 0x7FFFFFFFFFFFFFFF)) = .int 0x7FFFFFFFFFFFFFFF ∧
    ofDynamic (.absent .uint64) = .null := by
  obtain ⟨habsent, hpresent⟩ := conversions_agree (t := .uint64) rfl
  obtain ⟨-, -, -, hfar⟩ := hpresent (.uint64 0x8000000000000000) rfl
  obtain ⟨-, -, -, hlast⟩ := hpresent (.uint64 0x7FFFFFFFFFFFFFFF) rfl
  refine ⟨rfl, ?_, ?_, habsent⟩
  · rw [hfar]
    decide
  · rw [hlast]
    decide

/-- A text held by reference is a text, but inside an optional it becomes null, and so does a text in a
box. -/
theorem optional_text_lost :
    ofDynamic (.present (.text .reference "moor")) = .null ∧
    ofDynamic (.present (.text .boxed "moor")) = .null ∧
    ofDynamic (.present (.text .owned "moor")) = .str "moor" ∧
    ¬Host.Widens (.text .reference "moor") .null ∧ ¬Host.Widens (.text .boxed "moor") .null := by
  refine ⟨by decide, by decide, by decide, ?_, ?_⟩
  · intro h
    cases h with
    | beyond hz hfar => cases hz
  · intro h
    cases h with
    | beyond hz hfar => cases hz

end Value
end FramePlan
