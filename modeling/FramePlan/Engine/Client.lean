import FramePlan.Engine.Backend
import FramePlan.Frame.Basic
import FramePlan.Wire.Encode

/-!
# Asking an engine

`submit` hands the plan of a frame to an engine once and gets a result, which is a handle that is
not zero until it is released. A frame with an error never reaches the engine, and a result that
comes with a failure is released at once. A released result is not asked for again: every question
about it is answered without a call.

Correspondence (program ↔ Lean):
  `Engine::collect`                    ↔ `submit`
  `check`, `Error::from_status`        ↔ `checked`, `failure`
  `Collected::live`, `dim`             ↔ `questioned`
  `height`, `width`, `shape`, `render` ↔ `height`, `width`, `shape`, `render`
  `Collected::release`                 ↔ `release`
-/
namespace FramePlan.Engine

variable {σ : Type}

/-- The error that a failed call reports. -/
def failure (status : Int32) (slot : Slot) : Error :=
  .engine (EngineErrorKind.ofCode status) slot.message

/-- The result of a call, unless its status is a failure. -/
def checked {α : Type} (status : Int32) (slot : Slot) (a : α) : Except Error α :=
  if status = 0 then .ok a else .error (failure status slot)

/-- A result, held by its handle; zero once it is released. -/
structure Collected where
  handle : Handle
  deriving DecidableEq

namespace Collected

def isReleased (c : Collected) : Bool := c.handle == 0

/-- The text that names a result by its handle. -/
def describe (c : Collected) : String := "Collected \x7b handle: " ++ toString c.handle.toNat ++ " \x7d"

end Collected

/-- The result of a frame's plan. -/
def submit (b : Backend σ) (f : Frame) : Talk σ (Except Error Collected) :=
  match f.plan with
  | .error e => pure (.error e)
  | .ok ops => do
    let plan := (Wire.encode ops).record
    let reply ← ask (.collect plan.count) (b.collect · plan)
    if reply.status ≠ 0 then
      if reply.handle ≠ 0 then tell (.release reply.handle) (b.release · reply.handle)
      pure (.error (failure reply.status reply.slot))
    else if reply.handle = 0 then pure (.error .nullHandle)
    else pure (.ok ⟨reply.handle⟩)

/-- A question about a result that is not released. -/
def questioned {α : Type} (c : Collected) (question : Handle → Talk σ (Except Error α)) :
    Talk σ (Except Error α) :=
  if c.isReleased then pure (.error .nullHandle) else question c.handle

/-- The number of rows. -/
def height (b : Backend σ) (c : Collected) : Talk σ (Except Error UInt64) :=
  questioned c fun h => do
    let reply ← ask (.height h) (b.height · h)
    pure (checked reply.status reply.slot reply.size)

/-- The number of columns. -/
def width (b : Backend σ) (c : Collected) : Talk σ (Except Error UInt64) :=
  questioned c fun h => do
    let reply ← ask (.width h) (b.width · h)
    pure (checked reply.status reply.slot reply.size)

/-- The number of rows and that of columns, which is not asked for if the first question fails. -/
def shape (b : Backend σ) (c : Collected) : Talk σ (Except Error (UInt64 × UInt64)) := do
  match ← height b c with
  | .error e => pure (.error e)
  | .ok rows =>
    match ← width b c with
    | .error e => pure (.error e)
    | .ok columns => pure (.ok (rows, columns))

/-- The text at an address. No bytes are no text, wherever they are. -/
def readText (text : Wire.Text) : Except Error String :=
  match text with
  | .items bytes => .ok (Text.Utf8.decodeLossy bytes)
  | .null 0 => .ok ""
  | .null _ => .error (.engine .internal "render returned a null buffer")

/-- The result as text. -/
def render (b : Backend σ) (c : Collected) : Talk σ (Except Error String) :=
  questioned c fun h => do
    let reply ← ask (.render h) (b.render · h)
    pure (do
      let text ← checked reply.status reply.slot reply.text
      readText text)

/-- The result as text, or a note that says why there is none. -/
def display (b : Backend σ) (c : Collected) : Talk σ String := do
  match ← render b c with
  | .ok text => pure text
  | .error e => pure ("<unrenderable result: " ++ e.message ++ ">")

/-- The result after its release, which happens at most once. -/
def release (b : Backend σ) (c : Collected) : Talk σ Collected := do
  if !c.isReleased then tell (.release c.handle) (b.release · c.handle)
  pure ⟨0⟩

end FramePlan.Engine
