import FramePlan.Engine.Client

/-!
# Sessions

A session is a run of commands against one engine. Results are kept under names, and the engine has
one or more owners, under names as well. A result is released when it is dropped, unless it has been
released before, and the engine is destroyed when its last owner and the last result are gone,
whichever goes last. A result that is stored under a name in use drops the one before it, after the
call that made the new one.

Correspondence (program ↔ Lean):
  the owners of an `EngineGuard` ↔ `Session.owners`, `Session.isIdle`
  the end of an `EngineGuard`    ↔ `Session.settle`
  the end of a `Collected`       ↔ `Session.drop`
-/
namespace FramePlan.Engine

variable {σ : Type}

structure Session (σ : Type) where
  link : Link σ
  results : List (String × Collected)
  owners : List String
  /-- The engine wants to be told that it is no longer in use. -/
  destroys : Bool

inductive Command
  | collect (result owner : String) (frame : Frame)
  | height (result : String)
  | width (result : String)
  | shape (result : String)
  | render (result : String)
  | display (result : String)
  | describe (result : String)
  | inspect (result : String)
  | release (result : String)
  | drop (result : String)
  | share (owner copy : String)
  | disown (owner : String)

/-- What a command gives. -/
inductive Answer
  | nothing
  | error (e : Error)
  | handle (h : Handle)
  | size (n : UInt64)
  | sizes (rows columns : UInt64)
  | text (s : String)
  | state (h : Handle) (released : Bool)

namespace Answer

/-- The answer of a question that may fail. -/
def ofExcept {α : Type} (f : α → Answer) : Except Error α → Answer
  | .ok a => f a
  | .error e => .error e

end Answer

namespace Session

/-- A session with a fresh engine that has one owner. -/
def start (state : σ) (owner : String) (destroys : Bool) : Session σ :=
  ⟨⟨state, []⟩, [], [owner], destroys⟩

/-- The session after a conversation, with what was said. -/
def converse {α : Type} (s : Session σ) (talk : Talk σ α) : α × Session σ :=
  let r := talk s.link
  (r.1, { s with link := r.2 })

/-- Nothing uses the engine. -/
def isIdle (s : Session σ) : Bool := s.results.isEmpty && s.owners.isEmpty

/-- The engine is told if nothing uses it any more. -/
def settle (s : Session σ) : Session σ :=
  if s.isIdle && s.destroys then (s.converse (tell .destroy id)).2 else s

/-- The result of that name; one that does not exist counts as released. -/
def result (s : Session σ) (name : String) : Collected := (s.results.lookup name).getD ⟨0⟩

/-- The results without that of a name. -/
def without (name : String) (results : List (String × Collected)) : List (String × Collected) :=
  results.filter fun r => r.1 != name

/-- The session with a result under a name in the place of an earlier one. -/
def store (s : Session σ) (name : String) (c : Collected) : Session σ :=
  { s with results := (name, c) :: without name s.results }

/-- The result of a name dropped. -/
def drop (b : Backend σ) (s : Session σ) (name : String) : Session σ :=
  match s.results.lookup name with
  | none => s
  | some c =>
    let (_, s) := s.converse (Engine.release b c)
    settle { s with results := without name s.results }

/-- An owner gone. -/
def disown (s : Session σ) (owner : String) : Session σ :=
  if owner ∈ s.owners then settle { s with owners := s.owners.filter (· != owner) } else s

/-- A command, with its answer. -/
def step (b : Backend σ) (s : Session σ) : Command → Answer × Session σ
  | .collect name _ frame =>
    match s.converse (submit b frame) with
    | (.error e, s) => (.error e, s)
    | (.ok c, s) =>
      let (_, s) := s.converse (Engine.release b (s.result name))
      (.handle c.handle, s.store name c)
  | .height name =>
    let (r, s) := s.converse (Engine.height b (s.result name))
    (.ofExcept .size r, s)
  | .width name =>
    let (r, s) := s.converse (Engine.width b (s.result name))
    (.ofExcept .size r, s)
  | .shape name =>
    let (r, s) := s.converse (Engine.shape b (s.result name))
    (.ofExcept (fun p => .sizes p.1 p.2) r, s)
  | .render name =>
    let (r, s) := s.converse (Engine.render b (s.result name))
    (.ofExcept .text r, s)
  | .display name =>
    let (text, s) := s.converse (Engine.display b (s.result name))
    (.text text, s)
  | .describe name => (.text (s.result name).describe, s)
  | .inspect name =>
    let c := s.result name
    (.state c.handle c.isReleased, s)
  | .release name =>
    match s.results.lookup name with
    | none => (.nothing, s)
    | some c =>
      let (c, s) := s.converse (Engine.release b c)
      (.nothing, s.store name c)
  | .drop name => (.nothing, s.drop b name)
  | .share _ copy => (.nothing, { s with owners := copy :: s.owners.filter (· != copy) })
  | .disown owner => (.nothing, s.disown owner)

/-- The names in order. -/
def inOrder (names : List String) : List String := names.mergeSort fun a b => compare a b != .gt

/-- The session after its end: the results are dropped, then the owners, both in the order of their
    names. -/
def finish (b : Backend σ) (s : Session σ) : Session σ :=
  let s := (inOrder (s.results.map (·.1))).foldl (drop b) s
  (inOrder s.owners).foldl disown s

/-- The answers of commands one after the other. -/
def run (b : Backend σ) (s : Session σ) : List Command → List Answer × Session σ
  | [] => ([], s)
  | c :: cs =>
    let (a, s) := s.step b c
    let (as, s) := s.run b cs
    (a :: as, s)

end Session
end FramePlan.Engine
