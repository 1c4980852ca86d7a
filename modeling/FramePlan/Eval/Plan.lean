import FramePlan.Eval.Expr
import FramePlan.Eval.Join
import FramePlan.Table.Csv
import FramePlan.Table.Render

/-!
# Running plans

The table that a plan makes of the files at hand: its first operation is a source of rows, and every
other one makes a table of the table before it. The other plan of a join or a concatenation runs
before the two are put together.

Correspondence (program ↔ Lean):
  `run`, `source`, `apply` ↔ `run`, `source`, `apply` and `applyAll`
  `sort`                   ↔ `sortBy`
-/
namespace FramePlan

namespace Eval

/-- The table of in-memory columns. -/
def memoryTable (columns : List Column) : Outcome Table := do
  let series ← columns.mapM fun c => Series.ofValues c.name c.values
  Table.ofColumns series

/-- The table of the number of rows. -/
def countTable (t : Table) : Outcome Table :=
  Table.ofColumns [.scalar "count" .u32 (Cell.ofCount t.height)]

/-- The rows that a plan starts from. -/
def source [Sql.Reader] (files : Files) (op : Operation) : Outcome Table :=
  match op with
  | .readCsv path options => Csv.read files path options
  | .fromMemory columns => memoryTable columns
  | .query sql => Sql.query sql none
  | op => .error (.sourceExpected op.name)

/-- The rows sorted by the given fields. -/
def sortBy (t : Table) (fields : List SortField) : Outcome Table :=
  sort t (fields.map fun f => (f.column, f.descending))

mutual

/-- The table that an operation makes of the one before it. -/
def apply [Sql.Reader] (files : Files) (t : Table) : Operation → Outcome Table
  | .query sql => Sql.query sql (some t)
  | .select items => select t items
  | .filter predicate => filter t predicate
  | .withColumns items => withColumns t items
  | .groupBy keys aggs => groupBy t keys aggs
  | .sort fields => sortBy t fields
  | .limit n => .ok (t.truncate n.toNat)
  | .join other spec => do join t (← run files other) spec
  | .concat other => do concat t (← run files other)
  | .count => countTable t
  | .readCsv _ _ => .error (.sourceWithin "read_csv")
  | .fromMemory _ => .error (.sourceWithin "from_memory")

/-- The table of a plan. -/
def run [Sql.Reader] (files : Files) : Plan → Outcome Table
  | [] => .error .emptyPlan
  | op :: rest => do applyAll files (← source files op) rest

/-- The table after further operations. -/
def applyAll [Sql.Reader] (files : Files) (t : Table) : Plan → Outcome Table
  | [] => .ok t
  | op :: rest => do applyAll files (← apply files t op) rest

end

end Eval

/-- The table of a plan over the files at hand, or the error that it stops with. -/
def Plan.run [Sql.Reader] (files : Files) (plan : Plan) : Except Error Table :=
  (Eval.run files plan).mapError Fault.toError

end FramePlan
