import FramePlan.Proofs.Engine.Slot
import FramePlan.Proofs.Text.Boundary

/-!
# Reports in the error slot

A report cuts its message at the last place between characters that leaves room for one byte, writes the bytes
before it and one zero byte, and touches nothing behind (`written_set`). `report?` is the writer step by step:
it looks for the cut backwards, copies byte by byte and then sets one byte. No step of it goes outside the
message or the slot (`report?_eq`).

What is read of a slot is decided by the last report (`report_delivers`), since the zero byte ends the reading
before the bytes of earlier ones.
-/
namespace FramePlan.Engine.Slot

open Text.Utf8

variable {s : Slot} {code : Int32} {message : String} {room cut : Nat} {cs p : List Char}
  {new old : List UInt8}

/-! ## The cut -/

theorem LongestFit.lastBoundary (h : LongestFit room cs p) :
    LastBoundary cs room (p.flatMap encodeChar).length := by
  refine ⟨⟨p, h.leads, rfl⟩, h.fits, ?_⟩
  rintro i ⟨q, hq, rfl⟩ hle
  obtain ⟨rest, rfl⟩ := h.longest q hq hle
  rw [List.flatMap_append, List.length_append]
  exact Nat.le_add_right _ _

theorem LongestFit.take_eq (h : LongestFit room cs p) :
    (cs.flatMap encodeChar).take (p.flatMap encodeChar).length = p.flatMap encodeChar := by
  obtain ⟨rest, rfl⟩ := h.leads
  rw [List.flatMap_append, List.take_left]

/-- What a report writes into the slot `s`, with `t` after it: the bytes of the message before the cut and one
    zero byte. -/
structure Written (s : Slot) (code : Int32) (message : String) (cut : Nat) (t : Slot) : Prop where
  code_eq : t.code = code
  length_eq : t.bytes.length = s.bytes.length
  before : t.bytes.take cut = (encode message).take cut
  zero : t.bytes[cut]? = some 0
  behind : t.bytes.drop (cut + 1) = s.bytes.drop (cut + 1)

/-- The slot after a report, by the bytes before the cut. -/
theorem bytes_set (h : LongestFit (slotCapacity - 1) message.toList p) :
    (s.set code message).bytes =
      p.flatMap encodeChar ++ 0 :: s.bytes.drop ((p.flatMap encodeChar).length + 1) := by
  obtain ⟨q, hq, hw⟩ := fitting_eq (slotCapacity - 1) message.toList
  have hcut : (q.flatMap encodeChar).length = (p.flatMap encodeChar).length :=
    hq.lastBoundary.unique h.lastBoundary
  have hbytes : q.flatMap encodeChar = p.flatMap encodeChar := by
    rw [← hq.take_eq, ← h.take_eq, hcut]
  rw [set, overwrite, hw, hbytes, List.length_append, List.length_singleton, List.append_assoc,
    List.singleton_append]

theorem written_set (full : s.bytes.length = slotCapacity)
    (h : LongestFit (slotCapacity - 1) message.toList p) :
    Written s code message (p.flatMap encodeChar).length (s.set code message) := by
  have hfits : (p.flatMap encodeChar).length + 1 ≤ s.bytes.length := by
    rw [full]
    exact Nat.add_le_of_le_sub (by decide) h.fits
  refine ⟨rfl, ?_, ?_, ?_, ?_⟩
  · rw [bytes_set h, List.length_append, List.length_cons, List.length_drop]
    omega
  · rw [bytes_set h, List.take_left, encode, h.take_eq]
  · rw [bytes_set h, List.getElem?_append_right (Nat.le_refl _), Nat.sub_self,
      List.getElem?_cons_zero]
  · rw [bytes_set h, List.drop_append, List.drop_of_length_le (Nat.le_succ _),
      Nat.add_sub_cancel_left, List.drop_succ_cons, List.drop_zero, List.nil_append]

/-! ## The writer step by step -/

/-- The bytes copied one by one over others, as far as both reach. -/
def copyOver : List UInt8 → List UInt8 → List UInt8
  | [], old => old
  | _ :: _, [] => []
  | b :: new, _ :: old => b :: copyOver new old

theorem copyOver_eq : ∀ {new old : List UInt8}, new.length ≤ old.length →
    copyOver new old = overwrite new old
  | [], _, _ => rfl
  | _ :: _, [], h => absurd h (Nat.not_succ_le_zero _)
  | b :: new, _ :: old, h => by
    rw [copyOver, copyOver_eq (Nat.le_of_succ_le_succ h)]
    rfl

/-- A report step by step: the cut is looked for backwards from the last byte that may be used or the end of
    the message, the bytes before it are copied, and the byte behind them is set to zero. There is no result
    if the search passes the beginning, or if the last byte is outside the slot. -/
def report? (s : Slot) (code : Int32) (message : String) : Option Slot := do
  let bytes := encode message
  let cut ← cutAt? bytes (min bytes.length (slotCapacity - 1))
  let copied := copyOver (bytes.take cut) s.bytes
  if cut < copied.length then some ⟨code, copied.set cut 0⟩ else none

theorem report?_eq (full : s.bytes.length = slotCapacity) (code : Int32) (message : String) :
    s.report? code message = some (s.set code message) := by
  obtain ⟨p, hp, -⟩ := fitting_eq (slotCapacity - 1) message.toList
  obtain ⟨cut, hsearch, hlast⟩ := exists_cutAt? message.toList (slotCapacity - 1)
  obtain rfl := hlast.unique hp.lastBoundary
  have hroom : (p.flatMap encodeChar).length < s.bytes.length := by
    rw [full]
    exact Nat.lt_of_le_pred (by decide) hp.fits
  have hcopied : copyOver ((encode message).take (p.flatMap encodeChar).length) s.bytes =
      p.flatMap encodeChar ++ s.bytes.drop (p.flatMap encodeChar).length := by
    rw [encode, hp.take_eq, copyOver_eq (Nat.le_of_lt hroom), overwrite]
  have hinside : (p.flatMap encodeChar).length <
      (p.flatMap encodeChar ++ s.bytes.drop (p.flatMap encodeChar).length).length := by
    rw [List.length_append, List.length_drop]
    omega
  have hzero : (p.flatMap encodeChar ++ s.bytes.drop (p.flatMap encodeChar).length).set
      (p.flatMap encodeChar).length 0 = (s.set code message).bytes := by
    rw [bytes_set hp, List.set_append_right _ _ (Nat.le_refl _), Nat.sub_self,
      List.drop_eq_getElem_cons hroom, List.set_cons_zero]
  simp only [report?]
  rw [encode, hsearch, Option.bind_eq_bind, Option.bind_some, ← encode, hcopied, if_pos hinside, hzero]
  rfl

/-! ## Reading -/

/-- The bytes that are read are those of what is read, so no byte is replaced. -/
theorem bytes_read (h : LongestFit (slotCapacity - 1) message.toList p) :
    (s.set code message).bytes.takeWhile (· != 0) =
      encode (String.ofList (p.takeWhile (· != '\x00'))) := by
  rw [bytes_set h, takeWhile_flatMap, encode, String.toList_ofList]

theorem message_set (h : LongestFit (slotCapacity - 1) message.toList p) :
    (s.set code message).message = String.ofList (p.takeWhile (· != '\x00')) := by
  rw [Slot.message, bytes_read h, decodeLossy_encode]

/-! ## Reports in a row -/

def reports (s : Slot) (rs : List (Int32 × String)) : Slot := rs.foldl (fun t r => t.set r.1 r.2) s

theorem length_set (full : s.bytes.length = slotCapacity) (code : Int32) (message : String) :
    (s.set code message).bytes.length = slotCapacity := by
  obtain ⟨p, hp, -⟩ := fitting_eq (slotCapacity - 1) message.toList
  exact (written_set full hp).length_eq.trans full

theorem length_reports (full : s.bytes.length = slotCapacity) (rs : List (Int32 × String)) :
    (s.reports rs).bytes.length = slotCapacity := by
  induction rs generalizing s with
  | nil => exact full
  | cons r rs ih => exact ih (length_set full r.1 r.2)

/-- **A report delivers a clean beginning of its message.** Whatever the slot held, the steps of the writer
succeed. The message is cut at the last place between characters that is not above 511; its bytes up to there
and one zero byte are written, and nothing else is changed. What is read are the characters before the cut up
to the first zero character, and the bytes that are read are text, so none of them is replaced. It is the same
after any reports in a row, so only the last one is seen. -/
theorem report_delivers (s : Slot) (full : s.bytes.length = slotCapacity) (code : Int32)
    (message : String) :
    s.report? code message = some (s.set code message) ∧
    (∃ cut kept, LastBoundary message.toList (slotCapacity - 1) cut ∧
      Written s code message cut (s.set code message) ∧
      kept <+: message.toList ∧ kept.flatMap encodeChar = (encode message).take cut ∧
      (s.set code message).message = String.ofList (kept.takeWhile (· != '\x00')) ∧
      decode? ((s.set code message).bytes.takeWhile (· != 0)) = some (s.set code message).message) ∧
    ∀ earlier, ((s.reports earlier).set code message).bytes.length = slotCapacity ∧
      ((s.reports earlier).set code message).code = code ∧
      ((s.reports earlier).set code message).message = (s.set code message).message := by
  obtain ⟨p, hp, -⟩ := fitting_eq (slotCapacity - 1) message.toList
  refine ⟨report?_eq full code message, ?_, ?_⟩
  · refine ⟨_, p, hp.lastBoundary, written_set full hp, hp.leads, hp.take_eq.symm, message_set hp, ?_⟩
    rw [bytes_read hp, decode?_encode, message_set hp]
  · intro earlier
    refine ⟨length_set (length_reports full earlier) code message, rfl, ?_⟩
    rw [message_set hp, message_set hp]

/-! ### A message that does not fit -/

/-- A slot without a zero byte. -/
def noisy : Slot := zeroed.fill 0xFF

/-- Letters of two bytes each. There is room for the first byte of the last one, but not for both. -/
def accents : String := String.ofList (List.replicate 256 'é')

theorem report_delivers_accents :
    noisy.report? 6 accents = some (noisy.set 6 accents) ∧
    (∃ cut kept, LastBoundary accents.toList (slotCapacity - 1) cut ∧
      Written noisy 6 accents cut (noisy.set 6 accents) ∧
      kept <+: accents.toList ∧ kept.flatMap encodeChar = (encode accents).take cut ∧
      (noisy.set 6 accents).message = String.ofList (kept.takeWhile (· != '\x00'))) ∧
    ((noisy.reports [(6, accents)]).set 5 "no\x00thing").message = "no" := by
  have full : noisy.bytes.length = slotCapacity := List.length_replicate
  obtain ⟨hsteps, ⟨cut, kept, hlast, hwritten, hleads, hkept, hread, -⟩, -⟩ :=
    report_delivers noisy full 6 accents
  obtain ⟨-, -, hlater⟩ := report_delivers noisy full 5 "no\x00thing"
  refine ⟨hsteps, ⟨cut, kept, hlast, hwritten, hleads, hkept, hread⟩, ?_⟩
  rw [(hlater [(6, accents)]).2.2]
  decide +kernel

end FramePlan.Engine.Slot
