import FramePlan.Json

/-!
# Values

A value is one typed cell of in-memory data or one literal of an expression: an integer word, a
binary64 number, a text, a truth value or null. `DataType` is the type of a value that is not null,
as casts and column overrides name it.

Two equalities are in use. `=` compares numbers by their bits. `Value.agrees` compares them as
numbers do, so a NaN does not agree with itself and `-0` agrees with `0`.

Correspondence (program ↔ Lean):
  `DataType::code`, `from_code`           ↔ `DataType.code`, `ofCode?`
  `Value::tag`, `data_type`               ↔ `Value.tag`, `dataType?`
  `as_i64`, `as_f64`, `as_str`, `as_bool` ↔ `asInt?`, `asFloat?`, `asStr?`, `asBool?`
  equality of values                      ↔ `Value.agrees`
-/
namespace FramePlan

/-- The logical type of a column. -/
inductive DataType
  | int64
  | float64
  | utf8
  | boolean
  deriving DecidableEq, Repr

namespace DataType

/-- The code of a type in a plan record. -/
def code : DataType → UInt8
  | .int64 => 0
  | .float64 => 1
  | .utf8 => 2
  | .boolean => 3

def ofCode? (c : UInt8) : Option DataType :=
  if c = 0 then some .int64
  else if c = 1 then some .float64
  else if c = 2 then some .utf8
  else if c = 3 then some .boolean
  else none

/-- The short name shown in table headers. -/
def name : DataType → String
  | .int64 => "i64"
  | .float64 => "f64"
  | .utf8 => "str"
  | .boolean => "bool"

theorem ofCode?_code (t : DataType) : ofCode? t.code = some t := by cases t <;> decide

end DataType

inductive Value
  | int (i : Int64)
  | float (x : Binary64)
  | str (s : String)
  | bool (b : Bool)
  | null
  deriving DecidableEq, Inhabited

namespace Value

/-- The tag of a value in a plan record. -/
def tag : Value → UInt8
  | .int _ => 0
  | .float _ => 1
  | .str _ => 2
  | .bool _ => 3
  | .null => 4

/-- The type of a value that is not null. -/
def dataType? : Value → Option DataType
  | .int _ => some .int64
  | .float _ => some .float64
  | .str _ => some .utf8
  | .bool _ => some .boolean
  | .null => none

def isNull : Value → Bool
  | .null => true
  | _ => false

def asInt? : Value → Option Int64
  | .int i => some i
  | _ => none

/-- The value as a number; an integer is converted. -/
def asFloat? : Value → Option Binary64
  | .int i => some (Binary64.ofInt i.toInt)
  | .float x => some x
  | _ => none

def asStr? : Value → Option String
  | .str s => some s
  | _ => none

def asBool? : Value → Option Bool
  | .bool b => some b
  | _ => none

/-- The text of a truth value. -/
def boolText (b : Bool) : String := if b then "true" else "false"

/-- A value as it is shown, texts without quotes. -/
def display : Value → String
  | .int i => Integer.toText i
  | .float x => x.format .plain
  | .str s => s
  | .bool b => boolText b
  | .null => "null"

/-- Equality of values with numbers compared as numbers. -/
def agrees : Value → Value → Bool
  | .float x, .float y => x.numEq y
  | v, w => decide (v = w)

/-- The value of a JSON tree: an integer that fits a word, any other number as a binary64 number,
    and null for an array or an object. -/
def ofJson : Json → Value
  | .null => .null
  | .bool b => .bool b
  | .int i =>
    match Integer.ofInt? i with
    | some w => .int w
    | none => .float (Binary64.ofInt i)
  | .float x => .float x
  | .str s => .str s
  | .arr _ => .null
  | .obj _ => .null

/-- The JSON tree of a value. JSON has no infinity and no NaN, so these become null. -/
def toJson : Value → Json
  | .int i => .int i.toInt
  | .float x => if x.isFinite then .float x else .null
  | .str s => .str s
  | .bool b => .bool b
  | .null => .null

end Value
end FramePlan
