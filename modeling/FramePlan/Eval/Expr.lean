import FramePlan.Eval.Window
import FramePlan.Selector
import FramePlan.Sql.Query

/-!
# Values of expressions

What an expression of a plan is over a table, by recursion on the tree, and what a selector picks:
a column, the series of an expression, or that of a fragment of query text. A projection spreads
single cells over the height of its other columns, and added columns are all evaluated before the
first of them is added.

Correspondence (program ↔ Lean):
  `eval`, `eval_selector`                        ↔ `Expr.eval`, `Selector.eval`
  `select`, `filter`, `with_columns`, `group_by` ↔ `select`, `filter`, `withColumns`, `groupBy`
-/
namespace FramePlan

/-- The series of an expression over a table. -/
def Expr.eval [Sql.Reader] : Expr → Table → Outcome Series
  | .column name, t => t.column name
  | .literal v, _ => .ok (Eval.literal v)
  | .aliased e name, t => do
    let s ← e.eval t
    pure (s.renamed name)
  | .unary op e, t => do Eval.unary op (← e.eval t)
  | .binary op l r, t => do
    let a ← l.eval t
    let b ← r.eval t
    Eval.binary op a b
  | .cast e target, t => do pure (Eval.cast (← e.eval t) target)
  | .str op e, t => do Eval.string op (← e.eval t)
  | .agg op e, t => do Eval.aggregate op (← e.eval t)
  | .offset func e, t => do Eval.shifted func (← e.eval t)
  | .window e spec, t => Eval.window t spec fun part => e.eval part
  | .raw text, t => Sql.evalFragment text t

/-- The series that a selector picks from a table. -/
def Selector.eval [Sql.Reader] (s : Selector) (t : Table) : Outcome Series :=
  match s with
  | .name column => t.column column
  | .expr e => e.eval t
  | .raw text => Sql.evalFragment text t

namespace Eval

variable [Sql.Reader]

/-- The table of the picked series. -/
def select (t : Table) (items : List Selector) : Outcome Table := do
  let series ← items.mapM (·.eval t)
  project series

/-- The rows at which a selector is true. -/
def filter (t : Table) (predicate : Selector) : Outcome Table := do
  mask t (← predicate.eval t)

/-- The table with the picked series as further columns, or in the place of columns of their
    names. -/
def withColumns (t : Table) (items : List Selector) : Outcome Table := do
  let series ← items.mapM (·.eval t)
  series.foldlM Table.upsert t

/-- One row per group of rows with equal keys. -/
def groupBy (t : Table) (keys aggs : List Selector) : Outcome Table := do
  let series ← keys.mapM fun k => do (← k.eval t).broadcast t.height
  groupTable t series (aggs.map fun a group => a.eval group)

end Eval
end FramePlan
