import FramePlan.Engine.Backend
import FramePlan.Eval.Plan
import FramePlan.Sql.Parser.Statement
import FramePlan.Wire.Decode

/-!
# The in-memory engine

An engine that reads a plan back from its records, runs it over the files at hand, and keeps the
table under the next handle until it is released. A failure is reported as the code of its class and
its message; an error that is no engine's is a fault of the plan.

Two modes make it misbehave: to fail and still hand out a result, and to succeed without one.

Correspondence (program ↔ Lean):
  `State`, `Mode`                       ↔ `Store`, `Mode`
  `State::store`, `live`                ↔ `Store.keep`, `live`
  `report`, `unknown_handle`            ↔ `Store.reported`, `unknownHandle`
  `collect`, `dim`, `render`, `release` ↔ `Store.collect`, `size`, `render`, `release`
  `test_engine`                         ↔ `inMemory`
-/
namespace FramePlan.Engine

inductive Mode
  | normal
  | failWithHandle
  | nullHandle
  deriving DecidableEq, Repr

/-- The state of an in-memory engine. -/
structure Store where
  files : Files
  mode : Mode
  /-- The results not yet released. -/
  results : List (Handle × Table)
  lastHandle : Handle
  collects : Nat
  releases : Nat

namespace Store

/-- An engine without results over the given files. -/
def fresh (files : Files) : Store := ⟨files, .normal, [], 0, 0, 0⟩

/-- How many results are not yet released. -/
def live (s : Store) : Nat := s.results.length

/-- The handle that the next result gets. -/
def nextHandle (s : Store) : Handle := s.lastHandle + 1

/-- The state with one more result. -/
def keep (s : Store) (t : Table) : Store :=
  { s with results := (s.nextHandle, t) :: s.results, lastHandle := s.nextHandle }

/-- The code and the message by which an error is reported. -/
def report (e : Error) : Int32 × String :=
  match e with
  | .engine kind message => (kind.code, message)
  | e => (EngineErrorKind.plan.code, e.message)

/-- The status of an error with the slot that it is written to. -/
def reported (e : Error) : Int32 × Slot :=
  let (code, message) := report e
  (code, Slot.zeroed.set code message)

/-- The table of a plan in records. -/
def evaluate [Sql.Reader] (s : Store) (plan : Wire.PlanRecord) : Except Error Table := do
  let ops ← (Wire.decode (some plan)).mapError Error.malformed
  Plan.run s.files ops

/-- The answer to a plan. -/
def collect [Sql.Reader] (s : Store) (plan : Wire.PlanRecord) : CollectReply × Store :=
  let s := { s with collects := s.collects + 1 }
  match s.mode, s.evaluate plan with
  | .failWithHandle, _ =>
    let (status, slot) := reported (.engine .internal "injected failure")
    (⟨status, s.nextHandle, slot⟩, s.keep .unit)
  | .nullHandle, .ok _ => (⟨0, 0, .zeroed⟩, s)
  | .normal, .ok t => (⟨0, s.nextHandle, .zeroed⟩, s.keep t)
  | _, .error e =>
    let (status, slot) := reported e
    (⟨status, 0, slot⟩, s)

/-- The error of a handle without a result. -/
def unknownHandle (h : Handle) : Error :=
  .engine .handle ("unknown result handle " ++ toString h.toNat)

/-- A size of the result of a handle. -/
def size (measure : Table → Nat) (s : Store) (h : Handle) : SizeReply × Store :=
  match s.results.lookup h with
  | some t => (⟨0, UInt64.ofNat (measure t), .zeroed⟩, s)
  | none =>
    let (status, slot) := reported (unknownHandle h)
    (⟨status, 0, slot⟩, s)

/-- The text of the result of a handle. -/
def render (s : Store) (h : Handle) : RenderReply × Store :=
  match s.results.lookup h with
  | some t => (⟨0, .items (Text.Utf8.encode t.render), .zeroed⟩, s)
  | none =>
    let (status, slot) := reported (unknownHandle h)
    (⟨status, Wire.noText, slot⟩, s)

/-- The state without the result of a handle. -/
def release (s : Store) (h : Handle) : Store :=
  { s with results := s.results.filter (fun r => r.1 != h), releases := s.releases + 1 }

end Store

/-- The in-memory engine. -/
def inMemory [Sql.Reader] : Backend Store where
  collect := Store.collect
  height := Store.size Table.height
  width := Store.size Table.width
  render := Store.render
  release := Store.release

/-- A program that names no parser of query texts reads them in this dialect. -/
instance (priority := low) : Sql.Reader := Sql.dialect

end FramePlan.Engine
