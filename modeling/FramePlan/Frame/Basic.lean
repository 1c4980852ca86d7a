import FramePlan.Error
import FramePlan.Operation

/-!
# Frames

A frame is the plan built so far, or the first error met while building it. A builder call appends
one operation to a frame that has no error and leaves a frame with an error as it is, so errors
surface only where the plan is asked for.

A join reports the error of its own frame first, then the other frame's, then a fault of the
specification.

Correspondence (program ↔ Lean):
  `push`, `fail`                         ↔ `Frame.push`, `Frame.failed`
  `operations`, `error`, `is_err`, `len` ↔ `operations`, `error?`, `hasError`, `size`
  `concat` of a list of frames           ↔ `concatAll`
  `GroupBy::agg`                         ↔ `Frame.groupBy`
-/
namespace FramePlan

structure Frame where
  plan : Except Error Plan

namespace Frame

/-- The frame with no operations. -/
def empty : Frame := ⟨.ok []⟩

/-- The frame with an error. -/
def failed (e : Error) : Frame := ⟨.error e⟩

/-- The frame with one more operation. -/
def push (f : Frame) (op : Operation) : Frame := ⟨f.plan.map (· ++ [op])⟩

/-- The operations, none if there is an error. -/
def operations (f : Frame) : Plan :=
  match f.plan with
  | .ok ops => ops
  | .error _ => []

def error? (f : Frame) : Option Error :=
  match f.plan with
  | .ok _ => none
  | .error e => some e

def hasError (f : Frame) : Bool := f.error?.isSome

/-- The number of operations. -/
def size (f : Frame) : Nat := f.operations.length

/-- The same error, or plans that agree. -/
def agrees (f g : Frame) : Bool :=
  match f.plan, g.plan with
  | .ok as, .ok bs => Operation.plansAgree as bs
  | .error d, .error e => decide (d = e)
  | _, _ => false

/-! ## Transformations -/

def select (f : Frame) (items : List Selector) : Frame := f.push (.select items)
def filter (f : Frame) (predicate : Selector) : Frame := f.push (.filter predicate)
def withColumns (f : Frame) (items : List Selector) : Frame := f.push (.withColumns items)
def groupBy (f : Frame) (keys aggs : List Selector) : Frame := f.push (.groupBy keys aggs)

/-- Sorted by the given fields, the first one first. -/
def sortBy (f : Frame) (fields : List SortField) : Frame := f.push (.sort fields)

/-- Sorted by the given columns, ascending. -/
def sort (f : Frame) (columns : List String) : Frame := f.sortBy (columns.map (⟨·, false⟩))

def limit (f : Frame) (rows : UInt64) : Frame := f.push (.limit rows)
def count (f : Frame) : Frame := f.push .count
def query (f : Frame) (sql : String) : Frame := f.push (.query sql)

/-- The rows joined with those of another frame, whose plan is taken as it is now. -/
def join (f other : Frame) (spec : JoinSpec) : Frame :=
  ⟨do
    let ops ← f.plan
    let others ← other.plan
    match spec.check with
    | .ok () => pure (ops ++ [.join others spec])
    | .error fault => throw (.badJoin fault)⟩

def innerJoin (f other : Frame) (keys : List String) : Frame := f.join other (.on keys)

def leftJoin (f other : Frame) (keys : List String) : Frame :=
  f.join other { JoinSpec.on keys with how := .left }

def outerJoin (f other : Frame) (keys : List String) : Frame :=
  f.join other { JoinSpec.on keys with how := .outer }

def crossJoin (f other : Frame) : Frame := f.join other .cross

/-- The rows followed by those of another frame. -/
def concat (f other : Frame) : Frame :=
  ⟨do
    let ops ← f.plan
    let others ← other.plan
    pure (ops ++ [.concat others])⟩

/-- The rows of the frames one after the other. -/
def concatAll : List Frame → Frame
  | [] => failed .noFrames
  | f :: rest => rest.foldl concat f

end Frame
end FramePlan
