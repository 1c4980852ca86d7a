import FramePlan.Table.Basic

/-!
# Tables as text

A table is drawn as a box: a line with its shape, a header of names and types, and a line for every
row. A column is as wide as the longest of its cells, its name and the name of its type, and three
characters at least; widths count characters.

Correspondence (program ↔ Lean):
  `Table::render` ↔ `Table.render`
-/
namespace FramePlan.Table

/-- The texts of a column's cells. -/
def texts (s : Series) : List String := s.cells.map Cell.display

/-- The width of a column. -/
def columnWidth (s : Series) : Nat :=
  ((texts s ++ [s.name, s.dtype.name]).map String.length).foldl max 3

/-- A text with a space before it, and spaces behind it up to a width and one more. -/
def pad (width : Nat) (s : String) : String :=
  " " ++ s ++ String.ofList (List.replicate (width - s.length) ' ') ++ " "

/-- A horizontal rule with its ends, its crossings and its fill. -/
def rule (left mid right : String) (fill : Char) (widths : List Nat) : String :=
  left ++ mid.intercalate (widths.map fun w => String.ofList (List.replicate (w + 2) fill)) ++ right

/-- A line with one text per column. -/
def line (widths : List Nat) (cells : List String) : String :=
  "│" ++ "┆".intercalate (widths.zipWith pad cells) ++ "│"

/-- The lines of the box of a table that has columns. -/
def boxLines (t : Table) : List String :=
  let widths := t.columns.map columnWidth
  let columns := t.columns.map texts
  let rows := (List.range t.height).map fun r =>
    line widths (columns.map fun cells => (cells[r]?).getD "")
  [rule "┌" "┬" "┐" '─' widths,
    line widths t.names,
    line widths (t.columns.map fun _ => "---"),
    line widths (t.columns.map fun c => c.dtype.name),
    rule "╞" "╪" "╡" '═' widths] ++ rows ++ [rule "└" "┴" "┘" '─' widths]

/-- The shape of a table: its height and its width. -/
def shapeLine (t : Table) : String :=
  "shape: (" ++ toString t.height ++ ", " ++ toString t.width ++ ")"

/-- A table as text. -/
def render (t : Table) : String :=
  let box := if t.columns.isEmpty then ["┌┐", "╞╡", "└┘"] else boxLines t
  "\n".intercalate (shapeLine t :: box)

end FramePlan.Table
