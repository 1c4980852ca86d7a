import FramePlan.Eval.Group
import FramePlan.Eval.Order
import FramePlan.Window

/-!
# Windows

A window evaluates something on each partition of a table's rows and writes the cells back to the
rows that they were computed for. With an ordering, the rows of each partition are evaluated in that
order.

Correspondence (program ↔ Lean):
  `window` ↔ `windowGroups`, `fillPartition`, `window`
-/
namespace FramePlan.Eval

/-- The rows of a partition in the order of the given columns. -/
def orderPartition (t : Table) (orderBy : List String) (rows : List Nat) : Outcome (List Nat) := do
  let sub := t.take rows
  let keys ← orderBy.mapM fun name => do
    let s ← sub.column name
    pure (s, false)
  pure ((sortedRows keys sub.height).map fun i => (rows[i]?).getD 0)

/-- The partitions of a window, each in its order. -/
def windowGroups (t : Table) (spec : WindowSpec) : Outcome (List (List Nat)) := do
  let keys ← spec.partitionBy.mapM t.column
  let groups := partition keys t.height
  if spec.isOrdered then groups.mapM (orderPartition t spec.orderBy) else pure groups

/-- The cells with those of the pairs written over them. -/
def scatter (cells : List Cell) (pairs : List (Nat × Cell)) : List Cell :=
  pairs.foldl (fun out p => out.set p.1 p.2) cells

/-- The column with the cells of one more partition written into it. -/
def fillPartition (t : Table) (inner : Table → Outcome Series) (before : Series)
    (rows : List Nat) : Outcome Series := do
  let s ← inner (t.take rows)
  let dtype ← unify before.dtype s.dtype
  let full ← s.broadcast rows.length
  pure ⟨s.name, dtype, scatter before.cells (rows.zip full.cells)⟩

/-- The name of a window: that of its last partition. On a table without rows it is that of the inner
    column, if there is one. -/
def windowName (groups : List (List Nat)) (whole : Outcome Series) (last : Series) : Outcome String :=
  if groups.isEmpty then (attempt whole).map fun r => r.elim "" Series.name else .ok last.name

/-- The column of a window. -/
def window (t : Table) (spec : WindowSpec) (inner : Table → Outcome Series) : Outcome Series := do
  let groups ← windowGroups t spec
  let s ← groups.foldlM (fillPartition t inner) ⟨"", .null, List.replicate t.height .null⟩
  let name ← windowName groups (inner t) s
  pure ⟨name, s.dtype, coerce s.dtype s.cells⟩

end FramePlan.Eval
