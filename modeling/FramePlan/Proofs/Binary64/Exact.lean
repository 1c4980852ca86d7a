import FramePlan.Binary64.Basic
import Mathlib.Algebra.Order.Field.Power
import Mathlib.Data.Rat.Cast.Order
import Mathlib.Tactic.NormNum
import Mathlib.Tactic.Positivity

/-!
# Ratios that need no rounding

A finite binary64 number is a rational number, `toRat`. `nearest` finds such a number for any ratio of
naturals; for a ratio `s * 2 ^ e` with a significand below `2 ^ 53` and an exponent of the format, it is
the ratio itself (`toRat_nearest`).

Of the search for the exponent only its specification is used (`roundingExponent_spec`): at the exponent
found, the ratio has a significand below `2 ^ 53`, and at least `2 ^ 52` unless the exponent is the least
one. So the exponent found is not above `e`, the significand there is a natural number, and rounding it
does nothing. What is then put into the fields is read off them again (`fields_packed`).
-/
namespace FramePlan.Binary64

variable {num den m s : ℕ} {e : ℤ} {negative : Bool} {x : Binary64}

def toRat (x : Binary64) : ℚ := (if x.negative then -1 else 1) * (x.significand * 2 ^ x.exponent)

/-! ## Signs -/

@[simp] theorem negative_withSign (negative : Bool) (x : Binary64) :
    (withSign negative x).negative = negative := by
  cases negative with
  | true =>
    have h : 0x8000000000000000 ≤ x.bits.toNat ||| 0x8000000000000000 := Nat.right_le_or
    simpa [withSign, Binary64.negative] using h
  | false =>
    have h : x.bits.toNat &&& (2 ^ 63 - 1) < 2 ^ 63 := by
      rw [Nat.and_two_pow_sub_one_eq_mod]
      exact Nat.mod_lt _ (by decide)
    simpa [withSign, Binary64.negative] using h

@[simp] theorem magnitude_withSign (negative : Bool) (x : Binary64) :
    (withSign negative x).magnitude = x.magnitude := by
  cases negative with
  | true =>
    have h := Nat.or_mod_two_pow (a := x.bits.toNat) (b := 2 ^ 63) (n := 63)
    simpa [withSign, magnitude] using h
  | false =>
    have h : (x.bits.toNat &&& (2 ^ 63 - 1)) % 2 ^ 63 = x.bits.toNat % 2 ^ 63 := by
      rw [Nat.and_two_pow_sub_one_eq_mod, Nat.mod_mod]
    simpa [withSign, magnitude] using h

@[simp] theorem exponentField_withSign : (withSign negative x).exponentField = x.exponentField := by
  rw [exponentField, magnitude_withSign, exponentField]

@[simp] theorem fraction_withSign : (withSign negative x).fraction = x.fraction := by
  rw [fraction, magnitude_withSign, fraction]

@[simp] theorem isFinite_withSign : (withSign negative x).isFinite = x.isFinite := by
  rw [isFinite, exponentField_withSign, isFinite]

@[simp] theorem isNaN_withSign : (withSign negative x).isNaN = x.isNaN := by
  rw [isNaN, exponentField_withSign, fraction_withSign, isNaN]

@[simp] theorem isInfinite_withSign : (withSign negative x).isInfinite = x.isInfinite := by
  rw [isInfinite, exponentField_withSign, fraction_withSign, isInfinite]

theorem isInfinite_of_isNaN (h : x.isNaN = true) : x.isInfinite = false := by
  have hfraction : x.fraction ≠ 0 := by
    rw [isNaN, Bool.and_eq_true] at h
    exact of_decide_eq_true h.2
  simp [isInfinite, hfraction]

theorem not_special_of_isFinite (h : x.isFinite = true) : x.isNaN = false ∧ x.isInfinite = false := by
  have hfield : x.exponentField ≠ 2047 := of_decide_eq_true h
  simp [isNaN, isInfinite, hfield]

theorem toRat_withSign : (withSign negative x).toRat =
    (if negative then -1 else 1) * (x.significand * 2 ^ x.exponent) := by
  simp only [toRat, significand, exponent, negative_withSign, exponentField_withSign, fraction_withSign]

/-! ## Fields -/

/-- The bits below the sign of the number `m * 2 ^ e`. -/
def pack (m : ℕ) (e : ℤ) : ℕ :=
  if m < 0x10000000000000 then m else (e + 1075).toNat * 0x10000000000000 + (m - 0x10000000000000)

/-- The significand and the exponent of a finite number, as its fields hold them: both in range, and the
significand as large as the exponent lets it be. -/
structure Canonical (m : ℕ) (e : ℤ) : Prop where
  lt : m < 0x20000000000000
  least_le : -1074 ≤ e
  le_greatest : e ≤ 971
  full : e = -1074 ∨ 0x10000000000000 ≤ m

theorem pack_lt (h : Canonical m e) : pack m e < 2047 * 0x10000000000000 := by
  obtain ⟨hlt, hleast, hgreatest, hfull⟩ := h
  unfold pack
  split
  · omega
  · omega

def packed (m : ℕ) (e : ℤ) : Binary64 := ⟨UInt64.ofNat (pack m e)⟩

theorem magnitude_packed (h : Canonical m e) : (packed m e).magnitude = pack m e := by
  have hlt := pack_lt h
  rw [packed, magnitude, UInt64.toNat_ofNat']
  omega

theorem exponentField_packed (h : Canonical m e) :
    (packed m e).exponentField = if m < 0x10000000000000 then 0 else (e + 1075).toNat := by
  have hlt := h.lt
  rw [exponentField, magnitude_packed h, pack]
  split <;> omega

theorem fraction_packed (h : Canonical m e) :
    (packed m e).fraction = if m < 0x10000000000000 then m else m - 0x10000000000000 := by
  have hlt := h.lt
  rw [fraction, magnitude_packed h, pack]
  split <;> omega

theorem fields_packed (h : Canonical m e) :
    (packed m e).isFinite = true ∧ (packed m e).significand = m ∧ (packed m e).exponent = e := by
  have hfield := exponentField_packed h
  have hfraction := fraction_packed h
  obtain ⟨hlt, hleast, hgreatest, hfull⟩ := h
  by_cases hsmall : m < 0x10000000000000
  · rw [if_pos hsmall] at hfield hfraction
    refine ⟨by simp [isFinite, hfield], ?_, ?_⟩
    · rw [significand, if_pos hfield, hfraction]
    · rw [exponent, if_pos hfield]
      omega
  · rw [if_neg hsmall] at hfield hfraction
    have hpos : (packed m e).exponentField ≠ 0 := by omega
    refine ⟨?_, ?_, ?_⟩
    · rw [isFinite, hfield, decide_eq_true_iff]
      omega
    · rw [significand, if_neg hpos, hfraction]
      omega
    · rw [exponent, if_neg hpos, hfield]
      omega

/-! ## The exponent of a ratio -/

theorem two_zpow_eq (e : ℤ) : (2 : ℚ) ^ e = 2 ^ e.toNat / 2 ^ (-e).toNat := by
  have h : (e.toNat : ℤ) - (-e).toNat = e := Int.toNat_sub_toNat_neg e
  calc (2 : ℚ) ^ e = 2 ^ ((e.toNat : ℤ) - (-e).toNat) := by rw [h]
    _ = 2 ^ e.toNat / 2 ^ (-e).toNat := by rw [zpow_sub₀ two_ne_zero, zpow_natCast, zpow_natCast]

/-- Scaling by a power of two without fractions: the power is put on the side where its exponent is
positive. -/
theorem scaled_ratio (num den : ℕ) (e : ℤ) :
    ((num * Nat.pow 2 (-e).toNat : ℕ) : ℚ) / (den * Nat.pow 2 e.toNat : ℕ) = num / den / 2 ^ e := by
  simp only [Nat.pow_eq]
  push_cast
  rw [two_zpow_eq, div_div_div_eq, mul_comm (den : ℚ)]

theorem scaled_ne_zero (hden : den ≠ 0) (e : ℤ) : den * Nat.pow 2 e.toNat ≠ 0 :=
  Nat.mul_ne_zero hden (Nat.pow_eq ▸ (Nat.two_pow_pos _).ne')

theorem mul_scaled_le_iff (num : ℕ) (hden : den ≠ 0) (k : ℕ) (e : ℤ) :
    k * (den * Nat.pow 2 e.toNat) ≤ num * Nat.pow 2 (-e).toNat ↔ (k : ℚ) * 2 ^ e ≤ num / den := by
  have hd : (0 : ℚ) < (den * Nat.pow 2 e.toNat : ℕ) := by
    exact_mod_cast Nat.pos_of_ne_zero (scaled_ne_zero hden e)
  rw [← le_div_iff₀ (by positivity), ← scaled_ratio, le_div_iff₀ hd]
  norm_cast

theorem scaled_eq_mul_iff (hden : den ≠ 0) (k : ℕ) (e : ℤ) :
    num * Nat.pow 2 (-e).toNat = k * (den * Nat.pow 2 e.toNat) ↔ (num : ℚ) / den = k * 2 ^ e := by
  have hd : ((den * Nat.pow 2 e.toNat : ℕ) : ℚ) ≠ 0 := by exact_mod_cast scaled_ne_zero hden e
  rw [← div_eq_iff (by positivity), ← scaled_ratio, div_eq_iff hd]
  norm_cast

/-- The lengths of numerator and denominator tell a ratio up to a factor of two in each direction. -/
theorem ratio_log2_bounds (hnum : num ≠ 0) (hden : den ≠ 0) :
    (2 : ℚ) ^ ((num.log2 : ℤ) - den.log2 - 1) ≤ num / den ∧
      (num : ℚ) / den < 2 ^ ((num.log2 : ℤ) - den.log2 + 1) := by
  have hd : (0 : ℚ) < den := by exact_mod_cast Nat.pos_of_ne_zero hden
  have hnlow : (2 : ℚ) ^ (num.log2 : ℤ) ≤ num := by
    rw [zpow_natCast]
    exact_mod_cast Nat.log2_self_le hnum
  have hnhigh : (num : ℚ) < 2 ^ ((num.log2 : ℤ) + 1) := by
    exact_mod_cast Nat.lt_log2_self (n := num)
  have hdlow : (2 : ℚ) ^ (den.log2 : ℤ) ≤ den := by
    rw [zpow_natCast]
    exact_mod_cast Nat.log2_self_le hden
  have hdhigh : (den : ℚ) ≤ 2 ^ ((den.log2 : ℤ) + 1) := by
    exact_mod_cast (Nat.lt_log2_self (n := den)).le
  refine ⟨?_, ?_⟩
  · rw [le_div_iff₀ hd]
    calc (2 : ℚ) ^ ((num.log2 : ℤ) - den.log2 - 1) * den
        ≤ 2 ^ ((num.log2 : ℤ) - den.log2 - 1) * 2 ^ ((den.log2 : ℤ) + 1) := by gcongr
      _ = 2 ^ (num.log2 : ℤ) := by
          rw [← zpow_add₀ two_ne_zero]
          congr 1
          omega
      _ ≤ num := hnlow
  · rw [div_lt_iff₀ hd]
    calc (num : ℚ) < 2 ^ ((num.log2 : ℤ) + 1) := hnhigh
      _ = 2 ^ ((num.log2 : ℤ) - den.log2 + 1) * 2 ^ (den.log2 : ℤ) := by
          rw [← zpow_add₀ two_ne_zero]
          congr 1
          omega
      _ ≤ 2 ^ ((num.log2 : ℤ) - den.log2 + 1) * den := by gcongr

/-- At the exponent found, a ratio has a significand below `2 ^ 53`, and at least `2 ^ 52` unless the
exponent is the least one. -/
theorem roundingExponent_spec (hnum : num ≠ 0) (hden : den ≠ 0) :
    -1074 ≤ roundingExponent num den ∧
    (num : ℚ) / den < 2 ^ (53 + roundingExponent num den) ∧
    (roundingExponent num den = -1074 ∨ (2 : ℚ) ^ (52 + roundingExponent num den) ≤ num / den) := by
  obtain ⟨hlow, hhigh⟩ := ratio_log2_bounds hnum hden
  have power (i : ℤ) : ((0x20000000000000 : ℕ) : ℚ) * 2 ^ i = 2 ^ (53 + i) := by
    rw [zpow_add₀ two_ne_zero]
    norm_num
  have hiff := mul_scaled_le_iff num hden 0x20000000000000
    (max (-1074) ((num.log2 : ℤ) - den.log2 - 53))
  rw [power] at hiff
  unfold roundingExponent
  dsimp only
  split_ifs with h
  · -- The significand has one bit more than it should have, at most.
    refine ⟨by omega, hhigh.trans_le ?_, .inr ?_⟩
    · exact zpow_le_zpow_right₀ one_le_two (by omega)
    · rw [← add_assoc, add_right_comm]
      exact hiff.mp h
  · refine ⟨by omega, not_le.mp (mt hiff.mpr h), ?_⟩
    obtain hleast | hover := max_choice (-1074) ((num.log2 : ℤ) - den.log2 - 53)
    · exact .inl hleast
    · right
      rw [hover]
      exact (zpow_le_zpow_right₀ one_le_two (by omega)).trans hlow

/-! ## Rounding what is exact -/

theorem roundDiv_mul (m : ℕ) {d : ℕ} (hd : d ≠ 0) : roundDiv (m * d) d = m := by
  have hpos := Nat.pos_of_ne_zero hd
  simp only [roundDiv, Nat.mul_mod_left, Nat.mul_div_cancel m hpos]
  rw [if_pos (by omega)]

/-- The exponent found for a ratio that is held exactly, and the significand there. -/
theorem exists_canonical (hnum : num ≠ 0) (hden : den ≠ 0) (hs : s < 0x20000000000000)
    (hleast : -1074 ≤ e) (hgreatest : e ≤ 971) (hratio : (num : ℚ) / den = s * 2 ^ e) :
    ∃ m, Canonical m (roundingExponent num den) ∧
      (num : ℚ) / den = m * 2 ^ roundingExponent num den := by
  obtain ⟨hlow, hlt, hfull⟩ := roundingExponent_spec hnum hden
  generalize roundingExponent num den = i at *
  have hle : i ≤ e := by
    by_contra hgt
    have hbig := hfull.resolve_left (by omega)
    have hsmall : (s : ℚ) * 2 ^ e < 2 ^ (52 + i) :=
      calc (s : ℚ) * 2 ^ e < 2 ^ (53 : ℤ) * 2 ^ e := by
            gcongr
            exact_mod_cast hs
        _ = 2 ^ (53 + e) := (zpow_add₀ two_ne_zero _ _).symm
        _ ≤ 2 ^ (52 + i) := zpow_le_zpow_right₀ one_le_two (by omega)
    exact absurd (hratio ▸ hbig) (not_le.mpr hsmall)
  have hm : (num : ℚ) / den = (s * 2 ^ (e - i).toNat : ℕ) * 2 ^ i := by
    push_cast
    rw [hratio, mul_assoc, ← zpow_natCast, Int.toNat_of_nonneg (by omega), ← zpow_add₀ two_ne_zero,
      sub_add_cancel]
  refine ⟨s * 2 ^ (e - i).toNat, ⟨?_, hlow, hle.trans hgreatest, ?_⟩, hm⟩
  · have h : ((s * 2 ^ (e - i).toNat : ℕ) : ℚ) * 2 ^ i < 2 ^ (53 : ℤ) * 2 ^ i := by
      rw [← hm, ← zpow_add₀ two_ne_zero]
      exact hlt
    exact_mod_cast lt_of_mul_lt_mul_right h (by positivity)
  · refine hfull.imp_right fun hbig => ?_
    have h : (2 : ℚ) ^ (52 : ℤ) * 2 ^ i ≤ ((s * 2 ^ (e - i).toNat : ℕ) : ℚ) * 2 ^ i := by
      rw [← hm, ← zpow_add₀ two_ne_zero]
      exact hbig
    exact_mod_cast le_of_mul_le_mul_right h (by positivity)

/-- **A ratio that the format holds is its own rounding.** -/
theorem toRat_nearest (negative : Bool) (hden : den ≠ 0) (hs : s < 0x20000000000000) (hleast : -1074 ≤ e)
    (hgreatest : e ≤ 971) (hratio : (num : ℚ) / den = s * 2 ^ e) :
    (nearest negative num den).isFinite = true ∧ (nearest negative num den).negative = negative ∧
    (nearest negative num den).toRat = (if negative then -1 else 1) * (num / den) := by
  by_cases hnum : num = 0
  · rw [nearest, if_pos hnum, isFinite_withSign, negative_withSign, toRat_withSign]
    refine ⟨by decide, rfl, ?_⟩
    have hzero : zero.significand = 0 := by decide
    rw [hzero, hnum]
    simp
  · obtain ⟨m, hcanonical, hm⟩ := exists_canonical hnum hden hs hleast hgreatest hratio
    have hround : roundDiv (num * Nat.pow 2 (-roundingExponent num den).toNat)
        (den * Nat.pow 2 (roundingExponent num den).toNat) = m := by
      rw [(scaled_eq_mul_iff hden m _).mpr hm]
      exact roundDiv_mul m (scaled_ne_zero hden _)
    have hnearest : nearest negative num den =
        withSign negative (packed m (roundingExponent num den)) := by
      rw [nearest, if_neg hnum]
      dsimp only
      rw [hround]
      change withSign negative ⟨UInt64.ofNat (min (pack m (roundingExponent num den)) _)⟩ = _
      rw [Nat.min_eq_left (pack_lt hcanonical).le, packed]
    obtain ⟨hfinite, hsignificand, hexponent⟩ := fields_packed hcanonical
    rw [hnearest, isFinite_withSign, negative_withSign, toRat_withSign, hsignificand, hexponent, hm]
    exact ⟨hfinite, rfl, rfl⟩

end FramePlan.Binary64
