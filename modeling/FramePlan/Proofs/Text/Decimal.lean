import FramePlan.Integer
import FramePlan.Text.Blank
import Mathlib.Data.Nat.Digits.Defs

/-!
# Decimal texts of words

The decimal text of a word is read as that word (`ofText?_toText`). The digits of a text denote what
they were made of (`Nat.ofDigitChars_toDigits`), and none of them is taken for a sign. Nor is any of the
text a blank, so it is still read as the word where the blanks at the ends of a text do not count.
-/
namespace FramePlan.Integer

variable {ds : List Char}

theorem readInt?_digits (hne : ds ≠ []) (hall : ds.all Char.isDigit = true) :
    readInt? ds = some (Nat.ofDigitChars 10 ds 0 : Int) := by
  cases ds with
  | nil => exact absurd rfl hne
  | cons c r =>
    have hc : c.isDigit = true := by
      rw [List.all_cons, Bool.and_eq_true] at hall
      exact hall.1
    have hminus : c ≠ '-' := by
      rintro rfl
      exact absurd hc (by decide)
    have hplus : c ≠ '+' := by
      rintro rfl
      exact absurd hc (by decide)
    unfold readInt?
    split
    rename_i negative rest hsplit
    split at hsplit
    · rename_i heq
      exact absurd (List.cons.inj heq).1 hminus
    · rename_i heq
      exact absurd (List.cons.inj heq).1 hplus
    · cases hsplit
      rw [if_pos ⟨hne, hall⟩]
      rfl

theorem readInt?_minus (hne : ds ≠ []) (hall : ds.all Char.isDigit = true) :
    readInt? ('-' :: ds) = some (-(Nat.ofDigitChars 10 ds 0 : Int)) := by
  simp only [readInt?]
  rw [if_pos ⟨hne, hall⟩]
  rfl

theorem toDigits_all (n : Nat) : (Nat.toDigits 10 n).all Char.isDigit = true := by
  rw [List.all_eq_true]
  intro c hc
  exact Nat.isDigit_of_mem_toDigits (by decide) (by decide) hc

/-- **The text of a word is read as the word.** -/
theorem ofText?_toText (x : Int64) : ofText? (toText x) = some x := by
  have digits (n : Nat) : Nat.ofDigitChars 10 (Nat.toDigits 10 n) 0 = n :=
    Nat.ofDigitChars_toDigits (by decide) (by decide)
  have hread : readInt? (toText x).toList = some x.toInt := by
    rw [toText, Int.toString_eq_repr]
    cases x.toInt with
    | ofNat n =>
      rw [Int.repr, Nat.repr_eq_ofList_toDigits, String.toList_ofList,
        readInt?_digits Nat.toDigits_ne_nil (toDigits_all n), digits]
      rfl
    | negSucc n =>
      have hsign : ("-" ++ (n + 1).repr).toList = '-' :: Nat.toDigits 10 (n + 1) := by
        rw [String.toList_append, Nat.repr_eq_ofList_toDigits, String.toList_ofList,
          String.toList_ofList]
        rfl
      rw [Int.repr, hsign, readInt?_minus Nat.toDigits_ne_nil (toDigits_all _), digits]
      rfl
  rw [ofText?, ofChars?, hread]
  exact ofInt?_toInt x

/-! ## What is in a text -/

theorem toText_inj {x y : Int64} : toText x = toText y ↔ x = y := by
  refine ⟨fun h => ?_, congrArg toText⟩
  have hread : ofText? (toText x) = ofText? (toText y) := by rw [h]
  rwa [ofText?_toText, ofText?_toText, Option.some_inj] at hread

theorem mem_toText {x : Int64} {c : Char} (hc : c ∈ (toText x).toList) :
    c = '-' ∨ c.isDigit = true := by
  have digit {n : Nat} (h : c ∈ n.repr.toList) : c.isDigit = true := by
    rw [Nat.repr_eq_ofList_toDigits, String.toList_ofList] at h
    exact Nat.isDigit_of_mem_toDigits (b := 10) (by decide) (by decide) h
  rw [toText, Int.toString_eq_repr] at hc
  cases hx : x.toInt with
  | ofNat n =>
    rw [hx, Int.repr] at hc
    exact .inr (digit hc)
  | negSucc n =>
    rw [hx, Int.repr, String.toList_append, List.mem_append] at hc
    exact hc.imp List.mem_singleton.mp digit

theorem isBlank_of_mem_toText {x : Int64} {c : Char} (hc : c ∈ (toText x).toList) :
    Text.isBlank c = false := by
  obtain rfl | hdigit := mem_toText hc
  · rfl
  · simp only [Char.isDigit, Bool.and_eq_true, decide_eq_true_eq] at hdigit
    have hlow : 48 ≤ c.toNat := hdigit.1
    have hhigh : c.toNat ≤ 57 := hdigit.2
    simp [Text.isBlank]
    omega

/-- **The text of a word is read as the word, also after the blanks at its ends are taken off.** -/
theorem ofChars?_trim_toText (x : Int64) : ofChars? (Text.trim (toText x).toList) = some x := by
  rw [Text.trim_eq_self fun c hc => isBlank_of_mem_toText hc]
  exact ofText?_toText x

end FramePlan.Integer
