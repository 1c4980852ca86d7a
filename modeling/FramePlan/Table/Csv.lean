import FramePlan.Operation
import FramePlan.Table.Basic
import FramePlan.Text.Search
import FramePlan.Text.Utf8

/-!
# Delimited text

A file is lines of fields between delimiters, with no quoting. Lines end at a newline; carriage
returns at their ends and empty lines are dropped. An empty field is null. A column without a type
override has the first type that all its non-empty fields can be read as: integer, number, truth
value, and otherwise text, which is also the type of a column with no non-empty field.

Correspondence (program ↔ Lean):
  `read_csv`             ↔ `Csv.parse`, `Csv.read`
  `infer`, `parse_field` ↔ `Csv.infer`, `Csv.parseField`
-/
namespace FramePlan

/-- The files at hand: names with contents. -/
abbrev Files := List (String × List UInt8)

namespace Csv

/-- The lines of a text that are not empty without the carriage returns at their ends. -/
def lines (text : List Char) : List (List Char) :=
  ((Text.fields '\n' text).map (Text.dropRightWhile (· == '\r'))).filter (!·.isEmpty)

/-- The truth value that a field denotes. -/
def readBool? (field : List Char) : Option Bool :=
  if field = "true".toList then some true
  else if field = "false".toList then some false
  else none

/-- The type of a column with the given fields. -/
def infer (fields : List (List Char)) : Dtype :=
  let present := fields.filter (!·.isEmpty)
  if present.isEmpty then .str
  else if present.all (fun f => (Integer.ofChars? f).isSome) then .i64
  else if present.all (fun f => (Binary64.ofChars? f).isSome) then .f64
  else if present.all (fun f => (readBool? f).isSome) then .bool
  else .str

/-- The cell of a field in a column of the given type: null if it is empty or cannot be read. -/
def parseField (dtype : Dtype) (field : List Char) : Cell :=
  if field.isEmpty then .null
  else
    match dtype with
    | .i64 => Cell.ofInt? (Integer.ofChars? field)
    | .u32 => Cell.ofInt? (Integer.ofChars? field)
    | .f64 => ((Binary64.ofChars? field).map .float).getD .null
    | .bool => ((readBool? field).map .bool).getD .null
    | _ => .str (String.ofList field)

/-- The column of the fields at one position. -/
def columnOf (name : String) (override : Option DataType) (fields : List (List Char)) : Series :=
  let dtype := (override.map Dtype.ofDataType).getD (infer fields)
  ⟨name, dtype, fields.map (parseField dtype)⟩

/-- The first record with another number of fields than `width`. -/
def raggedRecord? (width : Nat) (records : List (List (List Char))) : Option FileFault :=
  (records.findIdx? (fun r => r.length != width)).map fun i =>
    .fieldCount (i + 1) (((records[i]?).map List.length).getD 0) width

/-- The names of the columns, and the records behind them. -/
def header (hasHeader : Bool) (records : List (List (List Char))) :
    Except FileFault (List String × List (List (List Char))) :=
  if hasHeader then
    match records with
    | [] => .error .empty
    | h :: rest => .ok (h.map String.ofList, rest)
  else
    let width := (records.head?.map List.length).getD 0
    .ok ((List.range width).map (fun i => "column_" ++ toString (i + 1)), records)

/-- The table of a text. -/
def parse (path : String) (options : CsvOptions) (text : List Char) : Outcome Table := do
  let delimiter := Char.ofNat options.delimiter.toNat
  let all := (lines text).map (Text.fields delimiter)
  let (names, records) ← (header options.hasHeader all).mapError (Fault.file path)
  let width := names.length
  match raggedRecord? width records with
  | some fault => throw (.file path fault)
  | none => pure ()
  let overrides := options.dtypes.getD []
  if width < overrides.length then throw (.overrides overrides.length width)
  let columns := (List.range width).zipWith
    (fun i name => columnOf name overrides[i]? (records.map fun r => (r[i]?).getD [])) names
  Table.ofColumns columns

/-- The table of a file. -/
def read (files : Files) (path : String) (options : CsvOptions) : Outcome Table :=
  if path.toList.any (fun c => c.toNat == 0) then .error (.file path .zeroInName)
  else
    match files.lookup path with
    | none => .error (.file path .missing)
    | some bytes =>
      match Text.Utf8.decode? bytes with
      | none => .error (.file path .notUtf8)
      | some text => parse path options text.toList

end Csv
end FramePlan
