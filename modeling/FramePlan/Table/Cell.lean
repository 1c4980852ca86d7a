import FramePlan.Value
import FramePlan.Text.Blank
import FramePlan.Text.Quoted

/-!
# Cells

A cell is one datum of a table at hand: what a value can be, or a list of texts. `Dtype` is the type
of a column of cells. It tells unsigned counts (`u32`) from integers, though both hold words, and
has a type for columns that hold only nulls.

`Cell.key` is the text by which cells are compared in groupings and joins. A whole number below
9 · 10 ^ 15 has the key of the equal integer.

Correspondence (program ↔ Lean):
  `Dtype::unify`, `from_data_type`   ↔ `Dtype.unify?`, `Dtype.ofDataType`
  `Cell::from_value`, `dtype`, `key` ↔ `Cell.ofValue`, `dtype`, `key`
  `fmt_float`, text of a cell        ↔ `floatText`, `Cell.display`
-/
namespace FramePlan

inductive Dtype
  | i64
  | u32
  | f64
  | str
  | bool
  | listStr
  | null
  deriving DecidableEq, Repr

namespace Dtype

def name : Dtype → String
  | .i64 => "i64"
  | .u32 => "u32"
  | .f64 => "f64"
  | .str => "str"
  | .bool => "bool"
  | .listStr => "list[str]"
  | .null => "null"

def isInteger (d : Dtype) : Bool := d == .i64 || d == .u32
def isNumeric (d : Dtype) : Bool := d.isInteger || d == .f64

def ofDataType : DataType → Dtype
  | .int64 => .i64
  | .float64 => .f64
  | .utf8 => .str
  | .boolean => .bool

/-- The type of two columns put together: null gives way to any type, integers to numbers, and
    counts to integers. -/
def unify? (a b : Dtype) : Option Dtype :=
  if a = b then some a
  else if a = .null then some b
  else if b = .null then some a
  else if a.isNumeric && b.isNumeric then
    if a = .f64 || b = .f64 then some .f64 else some .i64
  else none

theorem unify?_comm (a b : Dtype) : unify? a b = unify? b a := by
  cases a <;> cases b <;> rfl

end Dtype

inductive Cell
  | int (i : Int64)
  | float (x : Binary64)
  | str (s : String)
  | bool (b : Bool)
  | list (items : List String)
  | null
  deriving DecidableEq, Inhabited

namespace Cell

def isNull : Cell → Bool
  | .null => true
  | _ => false

/-- The cell, or the other one if it is null. -/
def orElse (c fallback : Cell) : Cell := if c.isNull then fallback else c

/-- The cell as a number; an integer is converted. -/
def asFloat? : Cell → Option Binary64
  | .int i => some (Binary64.ofInt i.toInt)
  | .float x => some x
  | _ => none

def ofValue : Value → Cell
  | .int i => .int i
  | .float x => .float x
  | .str s => .str s
  | .bool b => .bool b
  | .null => .null

/-- The cell of an integer that may be missing. -/
def ofInt? (i : Option Int64) : Cell := (i.map .int).getD .null

/-- The cell of a count. -/
def ofCount (n : Nat) : Cell := .int (Int64.ofNat n)

def dtype : Cell → Dtype
  | .int _ => .i64
  | .float _ => .f64
  | .str _ => .str
  | .bool _ => .bool
  | .list _ => .listStr
  | .null => .null

/-- The text by which a cell is matched with others. -/
def key : Cell → String
  | .int i => "i" ++ Integer.toText i
  | .float x =>
    if x.isWhole && decide (x.wholePart < 9000000000000000) then "i" ++ toString x.truncate
    else "f" ++ x.format .plain
  | .str s => "s" ++ s
  | .bool b => "b" ++ Value.boolText b
  | .list items => "l" ++ Text.quoteList items
  | .null => "n"

/-- A number as a table shows it: six decimal places, without the zeros at the end but the first. -/
def floatText (x : Binary64) : String :=
  if x.isFinite then
    let cs := Text.dropRightWhile (· == '0') (x.fixed 6).toList
    String.ofList (if cs.getLast? = some '.' then cs ++ ['0'] else cs)
  else x.format .plain

/-- A cell as a table shows it. -/
def display : Cell → String
  | .int i => Integer.toText i
  | .float x => floatText x
  | .str s => s
  | .bool b => Value.boolText b
  | .list items => "[" ++ ", ".intercalate (items.map fun s => "\"" ++ s ++ "\"") ++ "]"
  | .null => "null"

end Cell
end FramePlan
