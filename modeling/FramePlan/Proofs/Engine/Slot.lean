import FramePlan.Engine.Slot
import FramePlan.Proofs.Text.Utf8
import Mathlib.Tactic.SplitIfs

/-!
# Messages in the error slot

What is read of a message that was written into a slot. The writer keeps the longest stretch of
leading characters that fits (`LongestFit`), so no character is cut in two, and the reader stops at
the first zero byte. No byte of a character other than the zero character is zero, so the reader
sees the characters before the first zero character (`Delivers`), and the zero byte behind the
message keeps it from the bytes of an earlier one.
-/
namespace FramePlan.Engine.Slot

open Text.Utf8

/-- The longest stretch of leading characters with at most `room` bytes. -/
structure LongestFit (room : Nat) (cs p : List Char) : Prop where
  leads : p <+: cs
  fits : (p.flatMap encodeChar).length ≤ room
  longest : ∀ q, q <+: cs → (q.flatMap encodeChar).length ≤ room → q <+: p

/-- What a reader of the slot sees of a message: the characters before the first zero character of
    the longest stretch that leaves room for one byte. -/
def Delivers (message seen : String) : Prop :=
  ∃ p, LongestFit (slotCapacity - 1) message.toList p ∧
    seen = String.ofList (p.takeWhile (· != '\x00'))

/-! ## Writing -/

theorem LongestFit.nil (room : Nat) : LongestFit room [] [] :=
  ⟨List.prefix_rfl, Nat.zero_le room, fun _ hq _ => hq⟩

theorem LongestFit.cons {room : Nat} {c : Char} {cs p : List Char}
    (hc : (encodeChar c).length ≤ room) (h : LongestFit (room - (encodeChar c).length) cs p) :
    LongestFit room (c :: cs) (c :: p) := by
  refine ⟨(List.prefix_cons_inj c).mpr h.leads, ?_, ?_⟩
  · have hp := h.fits
    rw [List.flatMap_cons, List.length_append]
    omega
  · intro q hq hl
    obtain rfl | ⟨t, rfl, ht⟩ := List.prefix_cons_iff.mp hq
    · exact List.nil_prefix
    · -- Another stretch starts with the same character, and its rest fits the room that is left.
      rw [List.flatMap_cons, List.length_append] at hl
      exact (List.prefix_cons_inj c).mpr (h.longest t ht (by omega))

theorem LongestFit.stop {room : Nat} {c : Char} {cs : List Char}
    (hc : ¬(encodeChar c).length ≤ room) : LongestFit room (c :: cs) [] := by
  refine ⟨List.nil_prefix, Nat.zero_le room, ?_⟩
  intro q hq hl
  obtain rfl | ⟨t, rfl, ht⟩ := List.prefix_cons_iff.mp hq
  · exact List.nil_prefix
  · rw [List.flatMap_cons, List.length_append] at hl
    omega

theorem fitting_eq : ∀ (room : Nat) (cs : List Char),
    ∃ p, LongestFit room cs p ∧ fitting room cs = p.flatMap encodeChar
  | room, [] => ⟨[], .nil room, rfl⟩
  | room, c :: cs => by
    simp only [fitting]
    split
    · rename_i hc
      obtain ⟨p, hp, hw⟩ := fitting_eq (room - (encodeChar c).length) cs
      exact ⟨c :: p, hp.cons hc, by rw [hw, List.flatMap_cons]⟩
    · exact ⟨[], .stop ‹_›, rfl⟩

/-! ## Reading -/

theorem ofNat_ne_zero {n : Nat} (h₁ : 0 < n) (h₂ : n < 256) : UInt8.ofNat n ≠ 0 := by
  intro h
  have h0 := congrArg UInt8.toNat h
  rw [UInt8.toNat_ofNat_of_lt' h₂] at h0
  exact Nat.ne_of_gt h₁ h0

/-- The zero character alone has a zero byte. -/
theorem ne_zero_of_mem_encodeChar {c : Char} (hc : c ≠ '\x00') :
    ∀ b ∈ encodeChar c, b ≠ 0 := by
  have hr := toNat_range c
  have hn : 0 < c.toNat := by
    refine Nat.pos_of_ne_zero fun h => hc ?_
    rw [← Char.ofNat_toNat c, h]
  intro b hb
  simp only [encodeChar] at hb
  split_ifs at hb with h₁ h₂ h₃ <;>
    simp only [List.mem_cons, List.not_mem_nil, or_false] at hb
  · rw [hb]
    exact ofNat_ne_zero hn (by omega)
  · obtain rfl | rfl := hb <;> exact ofNat_ne_zero (by omega) (by omega)
  · obtain rfl | rfl | rfl := hb <;> exact ofNat_ne_zero (by omega) (by omega)
  · obtain rfl | rfl | rfl | rfl := hb <;> exact ofNat_ne_zero (by omega) (by omega)

/-- The bytes before the first zero byte are those of the characters before the first zero
    character. -/
theorem takeWhile_flatMap (cs : List Char) (rest : List UInt8) :
    (cs.flatMap encodeChar ++ 0 :: rest).takeWhile (· != 0) =
      (cs.takeWhile (· != '\x00')).flatMap encodeChar := by
  induction cs with
  | nil => rfl
  | cons c cs ih =>
    by_cases hc : c = '\x00'
    · -- The zero character is one zero byte, and both sides stop.
      subst hc
      rfl
    · have hb : ∀ b ∈ encodeChar c, (b != 0) = true := by
        intro b hb
        exact bne_iff_ne.mpr (ne_zero_of_mem_encodeChar hc b hb)
      rw [List.flatMap_cons, List.append_assoc, List.takeWhile_append_of_pos hb, ih,
        List.takeWhile_cons, if_pos (bne_iff_ne.mpr hc), List.flatMap_cons]

/-- **A slot delivers a clean stretch of its message**, whatever it held before. -/
theorem delivers_message_set (s : Slot) (code : Int32) (message : String) :
    Delivers message (s.set code message).message := by
  obtain ⟨p, hp, hw⟩ := fitting_eq (slotCapacity - 1) message.toList
  refine ⟨p, hp, ?_⟩
  have hs := decodeLossy_encode (String.ofList (p.takeWhile (· != '\x00')))
  rw [encode, String.toList_ofList] at hs
  rw [Slot.message, Slot.set, overwrite, hw, List.append_assoc, List.singleton_append,
    takeWhile_flatMap, hs]

end FramePlan.Engine.Slot
