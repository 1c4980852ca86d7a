import FramePlan.Eval.Order
import FramePlan.Window

/-!
# Aggregates and offsets

An aggregate makes one cell of a series. Nulls are passed over, except by `first` and `last`. A sum
of integers is null if it leaves the range of a word on its way; a sum of no numbers is `-0`.

An offset moves the cells of a series by whole rows and puts nulls where no cell comes from. Row
numbers are words here, and an offset that needs a number that is no word comes to nothing.

Correspondence (program ↔ Lean):
  `aggregate` ↔ `aggregateCell`, `aggregate`
  `offset`    ↔ `offsetSteps`, `shifted`
-/
namespace FramePlan.Eval

/-- The cells that are not null. -/
def present (cells : List Cell) : List Cell := cells.filter (!·.isNull)

/-- Types whose cells can be added: numbers, truth values, and no type at all. -/
def isAddable (d : Dtype) : Bool := d.isNumeric || d == .bool || d == .null

/-- The integers among the cells. -/
def ints (cells : List Cell) : List Int64 :=
  cells.filterMap fun
    | .int i => some i
    | _ => none

/-- A cell as a number to average, a truth value as one or zero. -/
def meanTerm? : Cell → Option Binary64
  | .bool b => some (Binary64.ofInt (if b then 1 else 0))
  | c => c.asFloat?

/-- The extreme cell: the first one that no other exceeds in the direction that `o` names. -/
def extreme (o : Ordering) : List Cell → Cell
  | [] => .null
  | c :: cs => cs.foldl (fun a b => if compareCells a b = o then b else a) c

/-- The type and the cell of a sum. -/
def sumCell (d : Dtype) (cells : List Cell) : Dtype × Cell :=
  match d with
  | .f64 => (.f64, .float (Binary64.sum (cells.filterMap Cell.asFloat?)))
  | .bool => (.u32, Cell.ofCount (cells.countP (· == .bool true)))
  | .null => (.i64, Cell.ofInt? (Integer.sum? (ints cells)))
  | d => (d, Cell.ofInt? (Integer.sum? (ints cells)))

def meanCell (cells : List Cell) : Cell :=
  match cells.filterMap meanTerm? with
  | [] => .null
  | xs => .float ((Binary64.sum xs).div (Binary64.ofInt xs.length))

/-- The type and the cell of an aggregate that applies to the type. -/
def aggregateCell (op : AggOp) (d : Dtype) (cells : List Cell) : Dtype × Cell :=
  match op with
  | .count => (.u32, Cell.ofCount (present cells).length)
  | .first => (d, cells.head?.getD .null)
  | .last => (d, cells.getLast?.getD .null)
  | .min => (d, extreme .gt (present cells))
  | .max => (d, extreme .lt (present cells))
  | .sum => sumCell d (present cells)
  | .mean => (.f64, meanCell (present cells))

def aggregate (op : AggOp) (s : Series) : Outcome Series :=
  if (op = .sum ∨ op = .mean) ∧ !isAddable s.dtype then
    .error (.aggregateType op s.dtype s.name)
  else
    let (d, c) := aggregateCell op s.dtype s.cells
    .ok (.scalar s.name d c)

/-! ## Offsets -/

/-- How many rows further up a shifted row finds its cell, if the opposite of a lead is a word. -/
def shift? : OffsetFunc → Option Int64
  | .lag n => some n
  | .lead n => Integer.neg? n

/-- The series with the cell of row `row - shift` in each row, null where there is no such row, if every
    step on the way to it stays in the range of words. -/
def offsetSteps (func : OffsetFunc) (s : Series) : Option Series := do
  let shift ← shift? func
  let cellFor (row : Nat) : Option Cell := do
    let source ← Integer.sub? (Int64.ofNat row) shift
    pure (if 0 ≤ source ∧ source < Int64.ofNat s.length then s.cellAt source.toNatClampNeg else .null)
  let cells ← (List.range s.length).mapM cellFor
  pure { s with cells := cells }

/-- The shifted series. -/
def shifted (func : OffsetFunc) (s : Series) : Outcome Series :=
  (offsetSteps func s).elim (.error .overflow) .ok

end FramePlan.Eval
