import FramePlan.Fault

/-!
# Series and tables

A series is a named, typed list of cells, and a table is a list of series of one length. The height
of a table is kept beside its columns, since a table without columns can still have rows: the table
`unit` has one.

A table that is built from columns (`Table.ofColumns`) has columns of one length with distinct
names.

Correspondence (program ↔ Lean):
  `Series::from_values`, `scalar`          ↔ `Series.ofValues`, `Series.scalar`
  `take`, `take_opt`, `broadcast`          ↔ `take`, `takeOptional`, `broadcast`
  `unify`, `coerce`                        ↔ `unify`, `coerce`
  `Table::new`, `unit`, `column`, `upsert` ↔ `Table.ofColumns`, `unit`, `column`, `upsert`
-/
namespace FramePlan

structure Series where
  name : String
  dtype : Dtype
  cells : List Cell
  deriving DecidableEq

namespace Series

/-- A series of one cell. -/
def scalar (name : String) (dtype : Dtype) (cell : Cell) : Series := ⟨name, dtype, [cell]⟩

def length (s : Series) : Nat := s.cells.length

def renamed (s : Series) (name : String) : Series := { s with name := name }

/-- The cell at a row, null beyond the end. -/
def cellAt (s : Series) (row : Nat) : Cell := (s.cells[row]?).getD .null

/-- The cells at the given rows. -/
def take (s : Series) (rows : List Nat) : Series := { s with cells := rows.map s.cellAt }

/-- The cells at the given rows, and null where no row is given. -/
def takeOptional (s : Series) (rows : List (Option Nat)) : Series :=
  { s with cells := rows.map fun row => (row.map s.cellAt).getD .null }

/-- The series at a given length: as it is, or its one cell repeated. -/
def broadcast (s : Series) (n : Nat) : Outcome Series :=
  if s.length = n then .ok s
  else
    match s.cells with
    | [cell] => .ok { s with cells := List.replicate n cell }
    | _ => .error (.rowCount s.name s.length n)

end Series

/-- The common type of two columns, or the fault that they have none. -/
def unify (a b : Dtype) : Outcome Dtype :=
  match a.unify? b with
  | some d => .ok d
  | none => .error (.incompatible a b)

/-- A cell of a column of the given type: an integer in a column of numbers becomes a number. -/
def coerceCell (dtype : Dtype) (c : Cell) : Cell :=
  match dtype, c with
  | .f64, .int i => .float (Binary64.ofInt i.toInt)
  | _, c => c

/-- The cells of a column of the given type. -/
def coerce (dtype : Dtype) (cells : List Cell) : List Cell := cells.map (coerceCell dtype)

/-- The column type of values, starting from a type that they have to go with. -/
def valuesType (column : String) : Dtype → List Value → Outcome Dtype
  | d, [] => .ok d
  | d, v :: vs =>
    let e := (Cell.ofValue v).dtype
    match d.unify? e with
    | some u => valuesType column u vs
    | none => .error (.mixedValues column d e)

/-- The series of in-memory values; integers among numbers become numbers. -/
def Series.ofValues (name : String) (values : List Value) : Outcome Series := do
  let dtype ← valuesType name .null values
  pure ⟨name, dtype, coerce dtype (values.map Cell.ofValue)⟩

structure Table where
  columns : List Series
  height : Nat
  deriving DecidableEq

namespace Table

/-- The first column of another length than `height`, or of a name among `seen` or before it. -/
def firstFault? (height : Nat) (seen : List String) : List Series → Option Fault
  | [] => none
  | c :: cs =>
    if c.length ≠ height then some (.rowCount c.name c.length height)
    else if c.name ∈ seen then some (.duplicateColumn c.name)
    else firstFault? height (c.name :: seen) cs

/-- The table of the given columns. Its height is that of the first one. -/
def ofColumns (columns : List Series) : Outcome Table :=
  let height := (columns.head?.map Series.length).getD 0
  match firstFault? height [] columns with
  | some fault => .error fault
  | none => .ok ⟨columns, height⟩

/-- One row without columns. -/
def unit : Table := ⟨[], 1⟩

def width (t : Table) : Nat := t.columns.length

def names (t : Table) : List String := t.columns.map (·.name)

/-- The column of that name, or the first one whose name differs only in the case of ASCII
    letters. -/
def column (t : Table) (name : String) : Outcome Series :=
  match t.columns.find? (fun c => c.name == name) with
  | some c => .ok c
  | none =>
    match t.columns.find? (fun c => Text.eqIgnoringAsciiCase c.name name) with
    | some c => .ok c
    | none => .error (.columnMissing name)

/-- The given rows, in the given order. -/
def take (t : Table) (rows : List Nat) : Table := ⟨t.columns.map (·.take rows), rows.length⟩

/-- The first `n` rows. -/
def truncate (t : Table) (n : Nat) : Table := t.take (List.range (min n t.height))

/-- The columns with one put in the place of the first of its name, or behind them. -/
def upsertColumn (columns : List Series) (s : Series) : List Series :=
  match columns with
  | [] => [s]
  | c :: cs => if c.name = s.name then s :: cs else c :: upsertColumn cs s

/-- The table with a series, spread over its rows, as a column. -/
def upsert (t : Table) (s : Series) : Outcome Table := do
  let full ← s.broadcast t.height
  pure { t with columns := upsertColumn t.columns full }

/-! ## Well-formed tables -/

/-- The cell is null or of the column type. -/
def CellHas (d : Dtype) : Cell → Prop
  | .null => True
  | .int _ => d = .i64 ∨ d = .u32
  | .float _ => d = .f64
  | .str _ => d = .str
  | .bool _ => d = .bool
  | .list _ => d = .listStr

/-- Every cell of the series is null or of its type. -/
def SeriesTyped (s : Series) : Prop := ∀ c ∈ s.cells, CellHas s.dtype c

/-- All columns have the height of the table, distinct names, and cells of their types. -/
def WellFormed (t : Table) : Prop :=
  (∀ c ∈ t.columns, c.length = t.height ∧ SeriesTyped c) ∧ t.names.Nodup

end Table
end FramePlan
