import FramePlan.Table.Basic

/-!
# The order of cells and rows

Cells of one type are ordered in the natural way, texts and lists by their characters, and numbers
by the total order of their bits; a null is the greatest cell. Rows are ordered by a list of
columns, each ascending or descending, with nulls last either way; sorting is stable.

Correspondence (program ↔ Lean):
  `cmp_cells`, `sorted_indices` ↔ `compareCells`, `sortedRows`
  `sort`                        ↔ `sort`
-/
namespace FramePlan.Eval

/-- The order of two cells. Cells of different types are compared as numbers if they are numbers,
    and are level otherwise. -/
def compareCells : Cell → Cell → Ordering
  | .int i, .int j => compare i.toInt j.toInt
  | .str s, .str t => compare s t
  | .bool a, .bool b => compare a b
  | .list xs, .list ys => List.compareLex compare xs ys
  | .null, .null => .eq
  | .null, _ => .gt
  | _, .null => .lt
  | a, b =>
    match a.asFloat?, b.asFloat? with
    | some x, some y => x.totalCompare y
    | _, _ => .eq

/-- The order of two cells in a sort column; a null is last in both directions. -/
def compareIn (descending : Bool) (a b : Cell) : Ordering :=
  match a.isNull, b.isNull with
  | true, true => .eq
  | true, false => .gt
  | false, true => .lt
  | false, false => if descending then compareCells b a else compareCells a b

/-- The order of two rows: that of the first column in which they differ. -/
def compareRows (keys : List (Series × Bool)) (i j : Nat) : Ordering :=
  match keys with
  | [] => .eq
  | (s, descending) :: rest =>
    (compareIn descending (s.cellAt i) (s.cellAt j)).then (compareRows rest i j)

/-- The rows below `height` in order, level rows as they stand. -/
def sortedRows (keys : List (Series × Bool)) (height : Nat) : List Nat :=
  (List.range height).mergeSort fun i j => compareRows keys i j != .gt

/-- A table sorted by the given columns. -/
def sort (t : Table) (fields : List (String × Bool)) : Outcome Table := do
  let keys ← fields.mapM fun f => do
    let s ← t.column f.1
    pure (s, f.2)
  pure (t.take (sortedRows keys t.height))

end FramePlan.Eval
