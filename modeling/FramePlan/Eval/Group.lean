import FramePlan.Table.Basic

/-!
# Groups of rows

Rows are grouped by the text of their key cells: the keys of the cells with a unit separator between
them. Groups stand in the order in which their first rows appear, and rows stay in order inside a
group. An aggregation evaluates something on each group's rows and puts the single cells it gives
into one column.

Correspondence (program ↔ Lean):
  `partition`                    ↔ `groupRows`, `partition`
  `aggregate_groups`             ↔ `appendGroup`, `noGroups`, `aggregateGroups`
  `group_by` over evaluated keys ↔ `groupTable`
-/
namespace FramePlan.Eval

/-- The separator of the keys in a key text. -/
def keySeparator : String := "\x1f"

/-- The key text of a row. -/
def rowKey (keys : List Series) (row : Nat) : String :=
  keySeparator.intercalate (keys.map fun k => (k.cellAt row).key)

/-- Rows under key texts, in the order in which the texts first appear. -/
abbrev Grouping := List (String × List Nat)

/-- The grouping with a row behind those of its key. -/
def Grouping.add (g : Grouping) (key : String) (row : Nat) : Grouping :=
  match g with
  | [] => [(key, [row])]
  | (k, rows) :: rest =>
    if k = key then (k, rows ++ [row]) :: rest else (k, rows) :: Grouping.add rest key row

/-- The rows grouped by a key text, those without one left out. -/
def groupRows (keyOf : Nat → Option String) (rows : List Nat) : Grouping :=
  rows.foldl (fun g row =>
    match keyOf row with
    | some key => g.add key row
    | none => g) []

/-- The rows below `height` in groups of equal key texts. -/
def partition (keys : List Series) (height : Nat) : List (List Nat) :=
  (groupRows (fun row => some (rowKey keys row)) (List.range height)).map (·.2)

/-- The column of a further group's cell put behind those of the groups before. -/
def appendGroup (t : Table) (item : Table → Outcome Series) (before : Series) (rows : List Nat) :
    Outcome Series := do
  let s ← item (t.take rows)
  if s.length ≠ 1 then throw (.groupValues s.name s.length)
  let dtype ← unify before.dtype s.dtype
  pure ⟨s.name, dtype, before.cells ++ s.cells⟩

/-- The column of an item without groups. It has the name and the type that the item has on no rows, if
    it has any. -/
def noGroups (onNone : Outcome Series) : Outcome Series :=
  (attempt onNone).map fun
    | some s => ⟨s.name, s.dtype, []⟩
    | none => ⟨"", .null, []⟩

/-- The column of an item's single cells over the groups. The item is tried on no rows only if there are no
    groups. With groups nothing would come of the trial: an offset that overflows without rows overflows on
    every group too. -/
def aggregateGroups (t : Table) (groups : List (List Nat)) (item : Table → Outcome Series) :
    Outcome Series :=
  if groups.isEmpty then noGroups (item (t.take []))
  else do
    let s ← groups.foldlM (appendGroup t item) ⟨"", .null, []⟩
    pure { s with cells := coerce s.dtype s.cells }

/-- A table of one row per group: the key cells of its first row, then the aggregates. -/
def groupTable (t : Table) (keys : List Series) (items : List (Table → Outcome Series)) :
    Outcome Table := do
  let groups := partition keys t.height
  let firsts := groups.map fun g => g.head?.getD 0
  let aggregates ← items.mapM (aggregateGroups t groups)
  Table.ofColumns (keys.map (·.take firsts) ++ aggregates)

end FramePlan.Eval
