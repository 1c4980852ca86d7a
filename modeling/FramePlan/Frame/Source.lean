import FramePlan.Frame.Basic
import FramePlan.Text.Utf8
import FramePlan.Text.Quoted

/-!
# Sources of frames

A frame starts from a file, from records, from columns, from a JSON tree or from a statement.

Records become columns under the keys of the first record. Each further record serves the columns
in order, and a pair that has been served leaves the record: the last pair takes its place. So a
column gets the value of its key, null if the record has none; which of two pairs with one key is
met first can depend on the pairs served before it.

Correspondence (program ↔ Lean):
  `from_records`                    ↔ `Frame.ofRecords`
  its `swap_remove`, its `position` ↔ `Record.removeSwap`, `Record.serve`
  `from_columns`, `from_column_vec` ↔ `Frame.ofColumns`
  `from_json`                       ↔ `Frame.ofJson`
  `read_csv_opts`, `from_sql`       ↔ `Frame.readCsv`, `Frame.ofSql`
-/
namespace FramePlan.Frame

/-- The rows of a delimited text file. The path is bytes, and must be UTF-8. -/
def readCsv (path : List UInt8) (options : CsvOptions) : Frame :=
  match Text.Utf8.decode? path with
  | some p => empty.push (.readCsv p options)
  | none => failed (.pathNotUtf8 (Text.Utf8.decodeLossy path))

/-- The result of a whole statement. -/
def ofSql (sql : String) : Frame := empty.query sql

/-! ## Columns -/

/-- The given columns, which must be of one length. -/
def ofColumns (columns : List Column) : Frame :=
  match columns with
  | [] => failed .emptyColumns
  | first :: _ =>
    let expected := first.values.length
    match columns.find? (fun c => c.values.length != expected) with
    | some c => failed (.lengthMismatch expected c.values.length)
    | none => empty.push (.fromMemory columns)

/-! ## Records -/

/-- A record: keys with values, in order. -/
abbrev Record := List (String × Value)

/-- The record without its pair at `i`; the last pair takes the place. -/
def Record.removeSwap (r : Record) (i : Nat) : Record :=
  match r.getLast? with
  | none => []
  | some last => (r.set i last).dropLast

/-- The value of the first pair with the key, or null, and the record without that pair. -/
def Record.serve (r : Record) (key : String) : Value × Record :=
  match r.findIdx? (fun p => p.1 == key) with
  | none => (.null, r)
  | some i => (((r[i]?).map (·.2)).getD .null, r.removeSwap i)

/-- The values that a record gives the keys, served in order. -/
def Record.valuesAt (r : Record) : List String → List Value
  | [] => []
  | key :: keys =>
    let (v, rest) := r.serve key
    v :: Record.valuesAt rest keys

/-- Each column with one more value behind. -/
def appendRow (columns : List Column) (row : List Value) : List Column :=
  columns.zipWith (fun c v => { c with values := c.values ++ [v] }) row

/-- The columns of records: the keys of the first record, each with one value per record. -/
def columnsOfRecords (first : Record) (rest : List Record) : List Column :=
  let start : List Column := first.map fun p => ⟨p.1, [p.2]⟩
  rest.foldl (fun columns r => appendRow columns (r.valuesAt (columns.map (·.name)))) start

/-- The rows given by records. -/
def ofRecords : List Record → Frame
  | [] => failed .emptyRecords
  | [] :: _ => failed .emptyFirstRecord
  | first :: rest => ofColumns (columnsOfRecords first rest)

/-! ## JSON -/

/-- The record of an array element. -/
def recordOfJson : Json → Except Error Record
  | .obj members => .ok (members.map fun m => (m.1, Value.ofJson m.2))
  | other => .error (.badJson (.recordNotObject other.compact))

/-- The column of an object member. -/
def columnOfJson : String × Json → Except Error Column
  | (name, .arr items) => .ok ⟨name, items.map Value.ofJson⟩
  | (name, other) => .error (.badJson (.columnNotArray (Text.quote name) other.compact))

/-- The rows of a JSON tree: an array of records, or an object of columns. -/
def ofJson : Json → Frame
  | .arr rows =>
    match rows.mapM recordOfJson with
    | .ok records => ofRecords records
    | .error e => failed e
  | .obj members =>
    match members.mapM columnOfJson with
    | .ok columns => ofColumns columns
    | .error e => failed e
  | other => failed (.badJson (.neither other.compact))

end FramePlan.Frame
