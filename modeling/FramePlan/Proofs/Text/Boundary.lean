import FramePlan.Proofs.Text.Utf8
import Mathlib.Tactic.SplitIfs

/-!
# Where a text can be cut

A text can be cut behind any of its characters, and at its beginning (`Boundary`). In its bytes such a place is
known from one byte: it is the end, or the byte there does not continue a character (`isBoundary_iff`).

`cutAt?` looks for the last such place up to a bound by going backwards from it. The beginning is one, so the
search ends before it runs out of places (`exists_cutAt?`).
-/
namespace FramePlan.Text.Utf8

variable {cs : List Char} {c : Char} {i bound cut : Nat} {bs : List UInt8}

/-! ## Places between characters -/

/-- A stretch of leading characters has that many bytes. -/
def Boundary (cs : List Char) (i : Nat) : Prop :=
  ∃ p, p <+: cs ∧ (p.flatMap encodeChar).length = i

theorem boundary_zero (cs : List Char) : Boundary cs 0 := ⟨[], List.nil_prefix, rfl⟩

theorem Boundary.le (h : Boundary cs i) : i ≤ (cs.flatMap encodeChar).length := by
  obtain ⟨p, ⟨rest, rfl⟩, rfl⟩ := h
  rw [List.flatMap_append, List.length_append]
  exact Nat.le_add_right _ _

theorem boundary_cons_add : Boundary (c :: cs) ((encodeChar c).length + i) ↔ Boundary cs i := by
  constructor
  · rintro ⟨p, hp, hl⟩
    obtain rfl | ⟨q, rfl, hq⟩ := List.prefix_cons_iff.mp hp
    · -- No character has no bytes, so the place is the beginning of both.
      have hi : i = 0 := (Nat.add_eq_zero_iff.mp hl.symm).2
      rw [hi]
      exact boundary_zero cs
    · rw [List.flatMap_cons, List.length_append] at hl
      exact ⟨q, hq, Nat.add_left_cancel hl⟩
  · rintro ⟨p, hp, rfl⟩
    exact ⟨c :: p, (List.prefix_cons_inj c).mpr hp, by rw [List.flatMap_cons, List.length_append]⟩

theorem not_boundary_inside (h₁ : 0 < i) (h₂ : i < (encodeChar c).length) : ¬ Boundary (c :: cs) i := by
  rintro ⟨p, hp, rfl⟩
  obtain rfl | ⟨q, rfl, -⟩ := List.prefix_cons_iff.mp hp
  · exact Nat.lt_irrefl 0 h₁
  · rw [List.flatMap_cons, List.length_append] at h₂
    omega

/-! ## The same by bytes -/

def continues (b : UInt8) : Bool := decide (0x80 ≤ b.toNat ∧ b.toNat < 0xC0)

/-- The place is the end, or the byte there does not continue a character. -/
def isBoundary (bs : List UInt8) (i : Nat) : Bool :=
  match bs[i]? with
  | some b => !continues b
  | none => i == bs.length

theorem continues_ofNat {n : Nat} (h : n < 256) :
    continues (UInt8.ofNat n) = decide (0x80 ≤ n ∧ n < 0xC0) := by
  rw [continues, UInt8.toNat_ofNat_of_lt' h]

theorem continues_tail (n : Nat) : continues (UInt8.ofNat (0x80 + n % 64)) = true := by
  rw [continues_ofNat (by omega), decide_eq_true_iff]
  omega

theorem continues_lead {n : Nat} (h : n < 0x80 ∨ 0xC0 ≤ n ∧ n < 256) :
    continues (UInt8.ofNat n) = false := by
  rw [continues_ofNat (by omega), decide_eq_false_iff_not]
  omega

/-- The first byte of a character begins it, and all others continue it. -/
theorem encodeChar_eq_cons (c : Char) :
    ∃ b tail, encodeChar c = b :: tail ∧ continues b = false ∧ ∀ d ∈ tail, continues d = true := by
  have hr := toNat_range c
  simp only [encodeChar]
  split_ifs with h₁ h₂ h₃
  · exact ⟨_, _, rfl, continues_lead (by omega), List.forall_mem_nil _⟩
  · refine ⟨_, _, rfl, continues_lead (by omega), ?_⟩
    exact List.forall_mem_singleton.mpr (continues_tail _)
  · refine ⟨_, _, rfl, continues_lead (by omega), ?_⟩
    exact List.forall_mem_cons.mpr ⟨continues_tail _, List.forall_mem_singleton.mpr (continues_tail _)⟩
  · refine ⟨_, _, rfl, continues_lead (by omega), ?_⟩
    refine List.forall_mem_cons.mpr ⟨continues_tail _, List.forall_mem_cons.mpr ⟨continues_tail _, ?_⟩⟩
    exact List.forall_mem_singleton.mpr (continues_tail _)

theorem isBoundary_append_add (as bs : List UInt8) (i : Nat) :
    isBoundary (as ++ bs) (as.length + i) = isBoundary bs i := by
  have hget : (as ++ bs)[as.length + i]? = bs[i]? := by
    rw [List.getElem?_append_right (Nat.le_add_right _ _), Nat.add_sub_cancel_left]
  have hend : (as.length + i == (as ++ bs).length) = (i == bs.length) := by
    rw [Bool.eq_iff_iff, beq_iff_eq, beq_iff_eq, List.length_append, Nat.add_left_cancel_iff]
  rw [isBoundary, isBoundary, hget, hend]

/-- **A place between characters is known from the byte there.** -/
theorem isBoundary_iff : isBoundary (cs.flatMap encodeChar) i = true ↔ Boundary cs i := by
  induction cs generalizing i with
  | nil =>
    constructor
    · intro h
      have hi : i = 0 := by simpa [isBoundary] using h
      rw [hi]
      exact boundary_zero []
    · intro h
      have hi : i = 0 := Nat.le_zero.mp h.le
      rw [hi]
      rfl
  | cons c cs ih =>
    obtain ⟨b, tail, hc, hb, htail⟩ := encodeChar_eq_cons c
    rw [List.flatMap_cons]
    rcases Nat.lt_or_ge i (encodeChar c).length with hi | hi
    · -- The place is in the first character: at its first byte, or at one that continues it.
      have hget : (encodeChar c ++ cs.flatMap encodeChar)[i]? = (encodeChar c)[i]? :=
        List.getElem?_append_left hi
      cases i with
      | zero =>
        rw [hc, List.getElem?_cons_zero] at hget
        rw [hc]
        simp [isBoundary, hb, boundary_zero]
      | succ i =>
        have hnot : ¬ Boundary (c :: cs) (i + 1) := not_boundary_inside (Nat.succ_pos i) hi
        rw [hc, List.length_cons, Nat.succ_lt_succ_iff] at hi
        have hcont : continues tail[i] = true := htail _ (List.getElem_mem hi)
        rw [hc, List.getElem?_cons_succ, List.getElem?_eq_getElem hi, ← hc] at hget
        simp only [isBoundary, hget, hcont, Bool.not_true, Bool.false_eq_true, false_iff]
        exact hnot
    · obtain ⟨j, rfl⟩ := Nat.exists_eq_add_of_le hi
      rw [isBoundary_append_add, boundary_cons_add, ih]

/-! ## The last place up to a bound -/

/-- The last place up to the bound where the characters can be cut. -/
structure LastBoundary (cs : List Char) (bound cut : Nat) : Prop where
  boundary : Boundary cs cut
  within : cut ≤ bound
  last : ∀ i, Boundary cs i → i ≤ bound → i ≤ cut

theorem LastBoundary.unique {cut' : Nat} (h : LastBoundary cs bound cut)
    (h' : LastBoundary cs bound cut') : cut = cut' :=
  Nat.le_antisymm (h'.last _ h.boundary h.within) (h.last _ h'.boundary h'.within)

/-- Going backwards from a place until one is found where the bytes can be cut. There is no result if the
    beginning is passed. -/
def cutAt? (bs : List UInt8) : Nat → Option Nat
  | 0 => if isBoundary bs 0 then some 0 else none
  | n + 1 => if isBoundary bs (n + 1) then some (n + 1) else cutAt? bs n

theorem cutAt?_of_start (h : isBoundary bs 0 = true) : ∀ start : Nat, ∃ cut, cutAt? bs start = some cut ∧
    isBoundary bs cut = true ∧ cut ≤ start ∧ ∀ i, isBoundary bs i = true → i ≤ start → i ≤ cut
  | 0 => ⟨0, by rw [cutAt?, if_pos h], h, Nat.le_refl 0, fun _ _ hi => hi⟩
  | n + 1 => by
    by_cases hn : isBoundary bs (n + 1) = true
    · exact ⟨n + 1, by rw [cutAt?, if_pos hn], hn, Nat.le_refl _, fun _ _ hi => hi⟩
    · obtain ⟨cut, hcut, hb, hle, hlast⟩ := cutAt?_of_start h n
      refine ⟨cut, by rw [cutAt?, if_neg hn, hcut], hb, Nat.le_succ_of_le hle, ?_⟩
      intro i hi hbound
      have hne : i ≠ n + 1 := fun heq => hn (heq ▸ hi)
      exact hlast i hi (by omega)

/-- **The search finds the last place up to the bound**, from the bound or from the end of the bytes. -/
theorem exists_cutAt? (cs : List Char) (bound : Nat) :
    ∃ cut, cutAt? (cs.flatMap encodeChar) (min (cs.flatMap encodeChar).length bound) = some cut ∧
      LastBoundary cs bound cut := by
  obtain ⟨cut, hcut, hb, hle, hlast⟩ := cutAt?_of_start (isBoundary_iff.mpr (boundary_zero cs))
    (min (cs.flatMap encodeChar).length bound)
  refine ⟨cut, hcut, isBoundary_iff.mp hb, Nat.le_trans hle (Nat.min_le_right _ _), ?_⟩
  intro i hi hbound
  exact hlast i (isBoundary_iff.mpr hi) (Nat.le_min.mpr ⟨hi.le, hbound⟩)

end FramePlan.Text.Utf8
