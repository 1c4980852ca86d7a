import FramePlan.Engine.Slot
import FramePlan.Wire.Record

/-!
# Engines

An engine runs plans and keeps the results, each under a handle; the handle zero stands for no
result. It answers a call with a status, which is zero for success, with what the call asked for,
and with an error slot. Its own state is of any type.

`Talk` is a conversation with an engine, which keeps the list of the calls made so far.

Correspondence (program ↔ Lean):
  `sl_engine_t`            ↔ `Backend`
  a call through the table ↔ `Call`, `Talk`
-/
namespace FramePlan.Engine

/-- The number of a result, zero for none. -/
abbrev Handle := UInt64

/-- The answer to a plan: the handle of its result. -/
structure CollectReply where
  status : Int32
  handle : Handle
  slot : Slot

/-- The answer to a question for a height or a width. -/
structure SizeReply where
  status : Int32
  size : UInt64
  slot : Slot

/-- The answer to a question for a text. The text is an address with a length, which may be null. -/
structure RenderReply where
  status : Int32
  text : Wire.Text
  slot : Slot

/-- An engine with states of the type `σ`. -/
structure Backend (σ : Type) where
  collect : σ → Wire.PlanRecord → CollectReply × σ
  height : σ → Handle → SizeReply × σ
  width : σ → Handle → SizeReply × σ
  render : σ → Handle → RenderReply × σ
  release : σ → Handle → σ

/-- A call to an engine. -/
inductive Call
  | collect (operations : Nat)
  | height (h : Handle)
  | width (h : Handle)
  | render (h : Handle)
  | release (h : Handle)
  | destroy
  deriving DecidableEq, Repr

/-- An engine's state, and the calls that it got, oldest first. -/
structure Link (σ : Type) where
  state : σ
  calls : List Call

abbrev Talk (σ : Type) := StateM (Link σ)

variable {σ : Type}

/-- A call that is answered. -/
def ask {α : Type} (call : Call) (answer : σ → α × σ) : Talk σ α := fun l =>
  let r := answer l.state
  (r.1, ⟨r.2, l.calls ++ [call]⟩)

/-- A call without an answer. -/
def tell (call : Call) (effect : σ → σ) : Talk σ Unit := fun l =>
  ((), ⟨effect l.state, l.calls ++ [call]⟩)

end FramePlan.Engine
