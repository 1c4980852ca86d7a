/-!
# Operators

The operators of expressions, each family with the codes that stand for it in a plan record. A code
outside a family's range is no operator of it; `ofCode?_code` says that every operator is found
again by its own code.

Correspondence (program ↔ Lean):
  `code` of each family      ↔ `code`
  `from_code`                ↔ `ofCode?`
  `BinaryOp::symbol`, `name` ↔ `BinaryOp.symbol`, `name`
-/
namespace FramePlan

inductive UnaryOp
  | not
  | neg
  | isNull
  | isNotNull
  deriving DecidableEq, Repr

namespace UnaryOp

def code : UnaryOp → UInt8
  | .not => 0
  | .neg => 1
  | .isNull => 2
  | .isNotNull => 3

def ofCode? (c : UInt8) : Option UnaryOp :=
  [(0, .not), (1, .neg), (2, .isNull), (3, .isNotNull)].lookup c

theorem ofCode?_code (op : UnaryOp) : ofCode? op.code = some op := by cases op <;> rfl

end UnaryOp

inductive BinaryOp
  | add
  | sub
  | mul
  | div
  | mod
  | eq
  | notEq
  | gt
  | gtEq
  | lt
  | ltEq
  | and
  | or
  deriving DecidableEq, Repr

namespace BinaryOp

def code : BinaryOp → UInt8
  | .add => 0
  | .sub => 1
  | .mul => 2
  | .div => 3
  | .mod => 4
  | .eq => 5
  | .notEq => 6
  | .gt => 7
  | .gtEq => 8
  | .lt => 9
  | .ltEq => 10
  | .and => 11
  | .or => 12

def ofCode? (c : UInt8) : Option BinaryOp :=
  [(0, .add), (1, .sub), (2, .mul), (3, .div), (4, .mod), (5, .eq), (6, .notEq), (7, .gt),
    (8, .gtEq), (9, .lt), (10, .ltEq), (11, .and), (12, .or)].lookup c

def symbol : BinaryOp → String
  | .add => "+"
  | .sub => "-"
  | .mul => "*"
  | .div => "/"
  | .mod => "%"
  | .eq => "="
  | .notEq => "!="
  | .gt => ">"
  | .gtEq => ">="
  | .lt => "<"
  | .ltEq => "<="
  | .and => "AND"
  | .or => "OR"

theorem ofCode?_code (op : BinaryOp) : ofCode? op.code = some op := by cases op <;> rfl

end BinaryOp

/-- What an aggregate makes of the cells of a column. -/
inductive AggOp
  | sum
  | mean
  | min
  | max
  | count
  | first
  | last
  deriving DecidableEq, Repr

namespace AggOp

def code : AggOp → UInt8
  | .sum => 0
  | .mean => 1
  | .min => 2
  | .max => 3
  | .count => 4
  | .first => 5
  | .last => 6

def ofCode? (c : UInt8) : Option AggOp :=
  [(0, .sum), (1, .mean), (2, .min), (3, .max), (4, .count), (5, .first), (6, .last)].lookup c

def name : AggOp → String
  | .sum => "sum"
  | .mean => "mean"
  | .min => "min"
  | .max => "max"
  | .count => "count"
  | .first => "first"
  | .last => "last"

theorem ofCode?_code (op : AggOp) : ofCode? op.code = some op := by cases op <;> rfl

end AggOp

/-- Functions of a text. Offsets, lengths and widths count characters; `lenBytes` alone counts
    bytes. -/
inductive StrOp
  | len
  | lenBytes
  | upper
  | lower
  | contains (text : String)
  /-- A negative offset counts from the end; without a length the slice runs to the end. -/
  | slice (offset : Int64) (length : Option UInt32)
  /-- Every occurrence is replaced. Without `literal` the pattern is a regular expression. -/
  | replace (pattern value : String) (literal : Bool)
  | split (separator : String)
  | reverse
  | head (count : Int64)
  | tail (count : Int64)
  | padStart (width : UInt32) (fill : Char)
  | padEnd (width : UInt32) (fill : Char)
  | zfill (width : UInt32)
  | stripStart (text : String)
  | stripEnd (text : String)
  /-- The empty set stands for white space, here and in the next two. -/
  | trimBoth (set : String)
  | trimStart (set : String)
  | trimEnd (set : String)
  deriving DecidableEq

namespace StrOp

def code : StrOp → UInt8
  | .len => 0
  | .lenBytes => 1
  | .upper => 2
  | .lower => 3
  | .contains _ => 4
  | .slice _ _ => 5
  | .replace _ _ _ => 6
  | .split _ => 7
  | .reverse => 8
  | .head _ => 9
  | .tail _ => 10
  | .padStart _ _ => 11
  | .padEnd _ _ => 12
  | .zfill _ => 13
  | .stripStart _ => 14
  | .stripEnd _ => 15
  | .trimBoth _ => 16
  | .trimStart _ => 17
  | .trimEnd _ => 18

def name : StrOp → String
  | .len => "len_chars"
  | .lenBytes => "len_bytes"
  | .upper => "to_uppercase"
  | .lower => "to_lowercase"
  | .contains _ => "contains"
  | .slice _ _ => "slice"
  | .replace _ _ _ => "replace_all"
  | .split _ => "split"
  | .reverse => "reverse"
  | .head _ => "head"
  | .tail _ => "tail"
  | .padStart _ _ => "pad_start"
  | .padEnd _ _ => "pad_end"
  | .zfill _ => "zfill"
  | .stripStart _ => "strip_prefix"
  | .stripEnd _ => "strip_suffix"
  | .trimBoth _ => "strip_chars"
  | .trimStart _ => "strip_chars_start"
  | .trimEnd _ => "strip_chars_end"

end StrOp
end FramePlan
