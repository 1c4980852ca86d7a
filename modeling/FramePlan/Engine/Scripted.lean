import FramePlan.Engine.Backend

/-!
# Scripted engines

An engine that answers from a list of replies, one for each call, whatever the call is about. When
the list is at its end, calls succeed and nothing is written for them.
-/
namespace FramePlan.Engine

/-- What a scripted engine writes in answer to a call. -/
structure Reply where
  status : Int32
  /-- A message that is reported with the status. -/
  message : Option String
  /-- Bytes that are put over the beginning of the message. -/
  raw : List UInt8
  handle : Handle
  size : UInt64
  text : Wire.Text

namespace Reply

/-- Success, with nothing written. -/
def blank : Reply := ⟨0, none, [], 0, 0, Wire.noText⟩

/-- The error slot after the call. -/
def slot (r : Reply) : Slot :=
  let reported := match r.message with
    | some message => Slot.zeroed.set r.status message
    | none => Slot.zeroed
  reported.poke 0 r.raw

end Reply

/-- The first of the replies, and the others. -/
def nextReply (script : List Reply) : Reply × List Reply := (script.head?.getD .blank, script.tail)

/-- The engine of a script. -/
def scripted : Backend (List Reply) where
  collect s _ :=
    let (r, rest) := nextReply s
    (⟨r.status, r.handle, r.slot⟩, rest)
  height s _ :=
    let (r, rest) := nextReply s
    (⟨r.status, r.size, r.slot⟩, rest)
  width s _ :=
    let (r, rest) := nextReply s
    (⟨r.status, r.size, r.slot⟩, rest)
  render s _ :=
    let (r, rest) := nextReply s
    (⟨r.status, r.text, r.slot⟩, rest)
  release s _ := (nextReply s).2

end FramePlan.Engine
