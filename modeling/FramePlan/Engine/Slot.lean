import FramePlan.Text.Utf8

/-!
# The error slot

An engine reports a failure by writing a code and a message into a slot of 512 message bytes that
its caller provides. A message is written as the longest stretch of its characters that fits 511
bytes, then one zero byte; the bytes behind stay as they were. It is read up to the first zero byte,
or to the end of the slot, and bytes that are no UTF-8 are replaced.

Correspondence (program ↔ Lean):
  `sl_error_t::zeroed`, `set`, `message` ↔ `Slot.zeroed`, `set`, `message`
-/
namespace FramePlan.Engine

/-- How many message bytes a slot has. -/
def slotCapacity : Nat := 512

structure Slot where
  code : Int32
  bytes : List UInt8
  deriving DecidableEq

namespace Slot

/-- A slot with code zero and zero bytes. -/
def zeroed : Slot := ⟨0, List.replicate slotCapacity 0⟩

/-- The longest stretch of leading characters that has at most `room` bytes, as bytes. -/
def fitting (room : Nat) : List Char → List UInt8
  | [] => []
  | c :: cs =>
    let bytes := Text.Utf8.encodeChar c
    if bytes.length ≤ room then bytes ++ fitting (room - bytes.length) cs else []

/-- The bytes with others written over their beginning. -/
def overwrite (new old : List UInt8) : List UInt8 := new ++ old.drop new.length

/-- The slot after a report. -/
def set (s : Slot) (code : Int32) (message : String) : Slot :=
  ⟨code, overwrite (fitting (slotCapacity - 1) message.toList ++ [0]) s.bytes⟩

/-- The bytes from `index` on, replaced by the given ones as far as the slot reaches. -/
def poke (s : Slot) (index : Nat) (bytes : List UInt8) : Slot :=
  { s with bytes := (s.bytes.take index ++ overwrite bytes (s.bytes.drop index)).take s.bytes.length }

/-- The slot with one byte everywhere. -/
def fill (s : Slot) (byte : UInt8) : Slot := { s with bytes := List.replicate slotCapacity byte }

/-- The message: the bytes before the first zero. -/
def message (s : Slot) : String := Text.Utf8.decodeLossy (s.bytes.takeWhile (· != 0))

/-- Where the first zero byte is. -/
def firstZero? (s : Slot) : Option Nat := s.bytes.findIdx? (· == 0)

end Slot
end FramePlan.Engine
