import FramePlan.Binary64.Text
import FramePlan.Integer

/-!
# JSON trees

The JSON values that frames are made from. An object is a list of members in its own order, and
`Json.object` is how one is built from pairs: a repeated key keeps its first position and its last
value. A number is an integer where it is written as one in the range of a signed or an unsigned
word, and a binary64 number otherwise.

`compact` is the text of a tree without spaces.
-/
namespace FramePlan

inductive Json
  | null
  | bool (b : Bool)
  | int (i : Int)
  | float (x : Binary64)
  | str (s : String)
  | arr (items : List Json)
  | obj (members : List (String × Json))

namespace Json

/-- The members with one more: in the place of the member of that key, or else at the end. -/
def insertMember (members : List (String × Json)) (key : String) (value : Json) :
    List (String × Json) :=
  match members with
  | [] => [(key, value)]
  | m :: rest => if m.1 = key then (key, value) :: rest else m :: insertMember rest key value

/-- The object with the given pairs. -/
def object (pairs : List (String × Json)) : Json :=
  .obj (pairs.foldl (fun members p => insertMember members p.1 p.2) [])

/-- The number that a JSON number text denotes. A negative zero is no integer. -/
def ofNumberText? (s : String) : Option Json :=
  match s.toList with
  | '-' :: '0' :: [] => some (.float Binary64.negZero)
  | cs =>
    match Integer.readInt? cs with
    | some i => if -0x8000000000000000 ≤ i ∧ i < 0x10000000000000000 then some (.int i) else some (.float (Binary64.ofInt i))
    | none => (Binary64.ofChars? cs).map .float

/-! ## Compact text -/

/-- A character inside a JSON string. Only the quote, the backslash and control characters are
    escaped. -/
def escapeChar (c : Char) : List Char :=
  if c = '"' then ['\\', '"']
  else if c = '\\' then ['\\', '\\']
  else if c = '\n' then ['\\', 'n']
  else if c = '\r' then ['\\', 'r']
  else if c = '\t' then ['\\', 't']
  else if c.toNat = 8 then ['\\', 'b']
  else if c.toNat = 12 then ['\\', 'f']
  else if c.toNat < 16 then "\\u000".toList ++ Nat.toDigits 16 c.toNat
  else if c.toNat < 32 then "\\u00".toList ++ Nat.toDigits 16 c.toNat
  else [c]

/-- A JSON string literal. -/
def literal (s : String) : String := String.ofList ('"' :: s.toList.flatMap escapeChar ++ ['"'])

mutual

/-- The text of a tree without spaces. -/
def compact : Json → String
  | .null => "null"
  | .bool b => if b then "true" else "false"
  | .int i => toString i
  | .float x => if x.isFinite then x.format .marked else "null"
  | .str s => literal s
  | .arr items => "[" ++ ",".intercalate (compactAll items) ++ "]"
  | .obj members => "\x7b" ++ ",".intercalate (compactMembers members) ++ "\x7d"

/-- The texts of the items of an array. -/
def compactAll : List Json → List String
  | [] => []
  | j :: js => compact j :: compactAll js

/-- The texts of the members of an object. -/
def compactMembers : List (String × Json) → List String
  | [] => []
  | (k, j) :: ms => (literal k ++ ":" ++ compact j) :: compactMembers ms

end

end Json
end FramePlan
