import FramePlan.Table.Basic

/-!
# Rows and columns of results

Putting evaluated series together into a table (`project`), and keeping the rows at which a series
of truth values is true (`mask`).

Correspondence (program ↔ Lean):
  `literal`, `projected_height`, `project` ↔ `literal`, `projectedHeight`, `project`
  `mask`                                   ↔ `trueRows`, `mask`
-/
namespace FramePlan.Eval

/-- The series of a literal. -/
def literal (v : Value) : Series :=
  let c := Cell.ofValue v
  .scalar "literal" c.dtype c

/-- The height of a table of the given series: the first length that is not one, and else one. -/
def projectedHeight (series : List Series) : Nat :=
  ((series.map Series.length).find? (· != 1)).getD 1

/-- The table of the given series, single cells spread over the height of the others. -/
def project (series : List Series) : Outcome Table := do
  let columns ← series.mapM (·.broadcast (projectedHeight series))
  Table.ofColumns columns

/-- The rows at which a cell is true. -/
def trueRows (cells : List Cell) : List Nat :=
  (List.range cells.length).filter fun i => cells[i]? == some (.bool true)

/-- The rows of a table at which the predicate is true. -/
def mask (t : Table) (predicate : Series) : Outcome Table :=
  if predicate.dtype = .bool ∨ predicate.dtype = .null then do
    let full ← predicate.broadcast t.height
    pure (t.take (trueRows full.cells))
  else .error (.predicateType predicate.dtype)

end FramePlan.Eval
