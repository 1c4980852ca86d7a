import FramePlan.Operation
import FramePlan.Eval.Group

/-!
# Joins and concatenation

A join first pairs the rows of its two sides and then gathers the columns. Rows are paired by the
key texts of their key cells, and a row with a null among them has no partner. The right rows are
indexed by key text once and looked up for each left row; the pairs come in the order of the left
rows, then of the right ones, and an outer join adds the right rows without a partner at the end.

Correspondence (program ↔ Lean):
  `join`, its `row_key` and `index` ↔ `join`, `matchKey?`, `keyPairs`
  `JoinType::Cross`, `matched`      ↔ `crossPairs`, the free rows of `keyPairs`
  `concat`                          ↔ `stack`, `concat`
-/
namespace FramePlan.Eval

/-- The key text of a row with no null among its key cells. -/
def matchKey? (keys : List Series) (row : Nat) : Option String :=
  if keys.any (fun k => (k.cellAt row).isNull) then none else some (rowKey keys row)

/-- A row of the result: a left row, a right row, or both. -/
abbrev RowPair := Option Nat × Option Nat

/-- The pairs of one left row, given the right rows that match it. -/
def pairsOf (how : JoinType) (l : Nat) : Option (List Nat) → List RowPair
  | some rows => rows.map fun r => (some l, some r)
  | none => if how = .inner then [] else [(some l, none)]

/-- Every left row with every right row. -/
def crossPairs (leftHeight rightHeight : Nat) : List RowPair :=
  (List.range leftHeight).flatMap fun l => (List.range rightHeight).map fun r => (some l, some r)

/-- The pairs of rows with equal keys, and those that the join keeps without a partner. -/
def keyPairs (how : JoinType) (leftKeys rightKeys : List Series) (leftHeight rightHeight : Nat) :
    List RowPair :=
  let index := groupRows (matchKey? rightKeys) (List.range rightHeight)
  let hits (l : Nat) : Option (List Nat) := (matchKey? leftKeys l).bind (index.lookup ·)
  let pairs := (List.range leftHeight).flatMap fun l => pairsOf how l (hits l)
  let isFree (r : Nat) : Bool := !pairs.any fun p => p.2 == some r
  let free : List RowPair := ((List.range rightHeight).filter isFree).map fun r => (none, some r)
  if how = .outer then pairs ++ free else pairs

/-- The pairs of rows of a join. -/
def joinPairs (how : JoinType) (leftKeys rightKeys : List Series) (leftHeight rightHeight : Nat) :
    List RowPair :=
  if how = .cross then crossPairs leftHeight rightHeight
  else keyPairs how leftKeys rightKeys leftHeight rightHeight

/-- The key columns go together by type. -/
def checkKeyTypes : List (Series × Series) → Outcome Unit
  | [] => .ok ()
  | (l, r) :: rest =>
    if (l.dtype.unify? r.dtype).isSome then checkKeyTypes rest
    else .error (.keyTypes l.name l.dtype r.name r.dtype)

/-- A left column of the result. A key column that is coalesced takes the right key where the left
    one is missing. -/
def leftColumn (right : Table) (spec : JoinSpec) (pairs : List RowPair) (c : Series) :
    Outcome Series := do
  let out := c.takeOptional (pairs.map (·.1))
  match if spec.coalesce then spec.keyPairs.lookup c.name else none with
  | none => pure out
  | some key =>
    let source ← right.column key
    let other := source.takeOptional (pairs.map (·.2))
    let dtype ← unify out.dtype other.dtype
    pure ⟨out.name, dtype, coerce dtype (out.cells.zipWith Cell.orElse other.cells)⟩

/-- The columns with a right column behind them, renamed if its name is taken. -/
def addRight (spec : JoinSpec) (pairs : List RowPair) (columns : List Series) (c : Series) :
    List Series :=
  let out := c.takeOptional (pairs.map (·.2))
  if columns.any (fun d => d.name == out.name) then
    columns ++ [out.renamed (out.name ++ spec.suffix)]
  else columns ++ [out]

/-- The right columns that the result has: all but the coalesced keys. -/
def rightColumns (right : Table) (spec : JoinSpec) : List Series :=
  right.columns.filter fun c => !(spec.coalesce && spec.rightOn.contains c.name)

def join (left right : Table) (spec : JoinSpec) : Outcome Table := do
  spec.check.mapError Fault.badJoin
  let leftKeys ← spec.leftOn.mapM left.column
  let rightKeys ← spec.rightOn.mapM right.column
  checkKeyTypes (leftKeys.zip rightKeys)
  let pairs := joinPairs spec.how leftKeys rightKeys left.height right.height
  let lefts ← left.columns.mapM (leftColumn right spec pairs)
  Table.ofColumns ((rightColumns right spec).foldl (addRight spec pairs) lefts)

/-- One column under another. -/
def stack (a b : Series) : Outcome Series := do
  let dtype ← unify a.dtype b.dtype
  pure ⟨a.name, dtype, coerce dtype (a.cells ++ b.cells)⟩

/-- The rows of two tables that have the same column names in the same order. -/
def concat (top bottom : Table) : Outcome Table :=
  if top.names ≠ bottom.names then .error (.namesDiffer top.names bottom.names)
  else do
    let columns ← (top.columns.zip bottom.columns).mapM fun p => stack p.1 p.2
    Table.ofColumns columns

end FramePlan.Eval
