import FramePlan.Value

/-!
# Host values

A program that builds a frame holds its data in types of its own: integers of every width, numbers
in two formats, characters, texts in several forms, JSON trees. `Host` is such a datum,
`Value.ofHost` is the value it stands for, and `Value.ofDynamic` is the same conversion for data
whose type is known only when it arrives, alone or as an optional. The dynamic conversion knows
fewer types, and what it does not know becomes null.

No conversion wraps: an integer that does not fit a word becomes null.

Correspondence (program ↔ Lean):
  `Value::from`                      ↔ `Value.ofHost`, `Value.ofOptional`
  `Value::from_any`, its `try_types` ↔ `Value.ofDynamic`, `HostType.scalars`
-/
namespace FramePlan

/-- How a text is held: by its owner, as a slice of another text, by a reference to its owner, or
    boxed. -/
inductive TextForm
  | owned
  | slice
  | reference
  | boxed
  deriving DecidableEq, Repr

/-- The types of host data. `word` and `uword` are the signed and the unsigned integers of the
    width of an address, which is sixty-four bits. -/
inductive HostType
  | int8
  | int16
  | int32
  | int64
  | word
  | uint8
  | uint16
  | uint32
  | uint64
  | uword
  | float64
  | float32
  | boolean
  | character
  | text (form : TextForm)
  | json
  | value
  | foreign
  deriving DecidableEq, Repr

/-- One host datum. -/
inductive Host
  | int8 (i : Int8)
  | int16 (i : Int16)
  | int32 (i : Int32)
  | int64 (i : Int64)
  | word (i : Int64)
  | uint8 (n : UInt8)
  | uint16 (n : UInt16)
  | uint32 (n : UInt32)
  | uint64 (n : UInt64)
  | uword (n : UInt64)
  | float64 (x : Binary64)
  | float32 (bits : UInt32)
  | boolean (b : Bool)
  | character (c : Char)
  | text (form : TextForm) (s : String)
  | json (j : Json)
  | value (v : Value)
  | foreign

namespace Host

/-- The type of a datum. -/
def type : Host → HostType
  | .int8 _ => .int8
  | .int16 _ => .int16
  | .int32 _ => .int32
  | .int64 _ => .int64
  | .word _ => .word
  | .uint8 _ => .uint8
  | .uint16 _ => .uint16
  | .uint32 _ => .uint32
  | .uint64 _ => .uint64
  | .uword _ => .uword
  | .float64 _ => .float64
  | .float32 _ => .float32
  | .boolean _ => .boolean
  | .character _ => .character
  | .text form _ => .text form
  | .json _ => .json
  | .value _ => .value
  | .foreign => .foreign

end Host

namespace Binary64

/-- The binary64 number equal to a number in the binary32 format. A NaN keeps its sign and the
    upper bits of its fraction. -/
def ofBinary32 (bits : UInt32) : Binary64 :=
  let n := bits.toNat
  let negative := decide (0x80000000 ≤ n)
  let field := n / 0x800000 % 256
  let fraction := n % 0x800000
  if field = 255 then
    if fraction = 0 then withSign negative infinity
    else withSign negative ⟨nan.bits ||| UInt64.ofNat (fraction * 0x20000000)⟩
  else if field = 0 then nearest negative fraction (Nat.pow 2 149)
  else nearest negative ((0x800000 + fraction) * Nat.pow 2 field) (Nat.pow 2 150)

end Binary64

namespace Value

/-- The value of an integer: null if it fits no word. -/
def ofInteger (z : Int) : Value :=
  match Integer.ofInt? z with
  | some i => .int i
  | none => .null

/-- The value that a host datum stands for. -/
def ofHost : Host → Value
  | .int8 i => .int i.toInt64
  | .int16 i => .int i.toInt64
  | .int32 i => .int i.toInt64
  | .int64 i => .int i
  | .word i => ofInteger i.toInt
  | .uint8 n => ofInteger n.toNat
  | .uint16 n => ofInteger n.toNat
  | .uint32 n => ofInteger n.toNat
  | .uint64 n => ofInteger n.toNat
  | .uword n => ofInteger n.toNat
  | .float64 x => .float x
  | .float32 bits => .float (Binary64.ofBinary32 bits)
  | .boolean b => .bool b
  | .character c => .str (String.singleton c)
  | .text _ s => .str s
  | .json j => ofJson j
  | .value v => v
  | .foreign => .null

/-- The value of an optional datum. -/
def ofOptional (h : Option Host) : Value := (h.map ofHost).getD .null

end Value

/-- A datum whose type is known only when it arrives. -/
inductive Dynamic
  | plain (h : Host)
  | present (h : Host)
  | absent (type : HostType)

namespace HostType

/-- The types that are recognised both alone and as optionals. -/
def scalars : List HostType :=
  [.int64, .int32, .int16, .int8, .word, .uint64, .uint32, .uint16, .uint8, .uword, .float64,
    .float32, .boolean, .character, .text .owned]

/-- The types that are recognised when they stand alone. -/
def recognisedPlain : List HostType :=
  [.value, .text .slice, .text .reference, .text .boxed, .json] ++ scalars

/-- The types that are recognised inside an optional. -/
def recognisedOptional : List HostType := .text .slice :: scalars

end HostType

/-- The value of a datum whose type is found out as it arrives; null for a type that is not
    recognised. -/
def Value.ofDynamic : Dynamic → Value
  | .plain h => if h.type ∈ HostType.recognisedPlain then ofHost h else .null
  | .present h => if h.type ∈ HostType.recognisedOptional then ofOptional (some h) else .null
  | .absent t => if t ∈ HostType.recognisedOptional then ofOptional none else .null

end FramePlan
