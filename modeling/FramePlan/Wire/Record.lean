import FramePlan.Operation

/-!
# Plan records

The records in which a plan is handed to an engine. A record is flat: every array is an address with
a count, so it may be present or null, and a null array may claim any count. Tags, kinds and codes
are numbers that need not stand for anything, and a record has fields for every kind of thing it can
hold, of which the tag says which count.

The arguments of an operation are a record of their own behind an address. `OpRecord.bare` is an
operation with no arguments to read: those whose opcode takes none, those whose arguments are
missing, and those whose opcode stands for nothing.

Correspondence (program ↔ Lean):
  `sl_plan_t`, `sl_op_t`                         ↔ `PlanRecord`, `OpRecord`
  `sl_entry_t`, `sl_expr_t`                      ↔ `EntryRecord`, `Node`
  `sl_value_t`, `sl_column_t`, `sl_sort_field_t` ↔ `ValueRecord`, `ColumnRecord`, `SortRecord`
  `sl_read_csv_args_t`, `sl_join_args_t`         ↔ `CsvRecord`, `JoinRecord`
  `sl_str_t`, a pointer with a count             ↔ `Text`, `Buffer`
-/
namespace FramePlan.Wire

/-- An array in a record: null with a claimed count, or its items. -/
inductive Buffer (α : Type)
  | null (count : Nat)
  | items (xs : List α)
  deriving DecidableEq

namespace Buffer

/-- How many items the record says there are. -/
def count {α : Type} : Buffer α → Nat
  | .null n => n
  | .items xs => xs.length

def isNull {α : Type} : Buffer α → Bool
  | .null _ => true
  | .items _ => false

end Buffer

/-- A text in a record: bytes that are meant to be UTF-8. -/
abbrev Text := Buffer UInt8

/-- The text that is not there. -/
def noText : Text := .null 0

structure ValueRecord where
  tag : UInt8
  int : Int64
  float : Binary64
  str : Text
  bool : Bool
  deriving DecidableEq

/-- The record of a null value. -/
def nullValue : ValueRecord := ⟨4, 0, Binary64.zero, noText, false⟩

structure ColumnRecord where
  name : Text
  values : Buffer ValueRecord

/-- The fields of an expression node other than its children. -/
structure NodeHead where
  kind : UInt8
  op : UInt8
  flag : Bool
  fill : UInt32
  name : Text
  arg : Text
  value : ValueRecord
  n : Int64
  m : Int64
  partitionBy : Buffer Text
  orderBy : Buffer Text

/-- A node of the given kind with every other field zero, empty or null. -/
def NodeHead.blank (kind : UInt8) : NodeHead :=
  ⟨kind, 0, false, 0, noText, noText, nullValue, 0, 0, .null 0, .null 0⟩

inductive Node
  | mk (head : NodeHead) (children : Buffer Node)

def Node.head : Node → NodeHead
  | .mk head _ => head

def Node.children : Node → Buffer Node
  | .mk _ children => children

structure EntryRecord where
  tag : UInt8
  text : Text
  node : Option Node

structure SortRecord where
  column : Text
  descending : Bool

structure CsvRecord where
  path : Text
  delimiter : UInt8
  hasHeader : Bool
  dtypes : Buffer UInt8

/-- The arguments of a join other than the other plan. Both key arrays are addresses that share one
    count. -/
structure JoinRecord where
  leftOn : Option (List Text)
  rightOn : Option (List Text)
  keys : Nat
  how : UInt8
  suffix : Text
  coalesce : Bool

/-- Which of the three operations over a list of entries a record is. -/
inductive EntriesRole
  | select
  | filter
  | withColumns
  deriving DecidableEq, Repr

inductive OpRecord
  | bare (opcode : UInt16)
  | readCsv (args : CsvRecord)
  | fromMemory (columns : Buffer ColumnRecord)
  | query (sql : Text)
  | entries (role : EntriesRole) (entries : Buffer EntryRecord)
  | groupBy (keys aggs : Buffer EntryRecord)
  | sort (fields : Buffer SortRecord)
  | limit (rows : UInt64)
  | join (other : Buffer OpRecord) (args : JoinRecord)
  | concat (other : Buffer OpRecord)

abbrev PlanRecord := Buffer OpRecord

/-! ## Opcodes -/

def EntriesRole.opcode : EntriesRole → UInt16
  | .select => 10
  | .filter => 11
  | .withColumns => 12

/-- The opcode of an operation with no arguments. -/
def countOpcode : UInt16 := 16

/-- The opcodes of the operations that have arguments. -/
def opcodesWithArguments : List UInt16 := [1, 2, 3, 10, 11, 12, 13, 14, 15, 20, 21]

def OpRecord.opcode : OpRecord → UInt16
  | .bare opcode => opcode
  | .readCsv _ => 1
  | .fromMemory _ => 2
  | .query _ => 3
  | .entries role _ => role.opcode
  | .groupBy _ _ => 13
  | .sort _ => 14
  | .limit _ => 15
  | .join _ _ => 20
  | .concat _ => 21

end FramePlan.Wire
