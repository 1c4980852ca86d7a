import FramePlan.Text.Utf8
import FramePlan.Wire.Malformed
import FramePlan.Wire.Record

/-!
# Reading plan records

`decode` rebuilds a plan from its records. Records may come from anywhere, so everything that is
read is checked, and nothing else is: of an operation, entry, node or value only the fields that its
opcode, tag, kind or operator selects are read. The children of a node are read before its own
fields, all of them, also those it has no use for.

The first fault in the order of reading is reported.

Correspondence (program ↔ Lean):
  `decode_plan`, `decode_ops`, `decode_op` ↔ `decode`, `decodeOps`, `decodeOp`
  `decode_entries`, `decode_expr`          ↔ `decodeEntries`, `decodeNode` and `assemble`
  `decode_str_op`, `decode_value`          ↔ `decodeStrOp`, `decodeValue`
  `slice`, `string`, `strings`             ↔ `Buffer.read`, `decodeText`, `decodeNames`
-/
namespace FramePlan.Wire

/-- What reading a record gives. -/
abbrev Reading := Except Malformed

/-- The items of an array. A null array with a count has none to give. -/
def Buffer.read {α : Type} : Buffer α → Reading (List α)
  | .items xs => .ok xs
  | .null n => if n = 0 then .ok [] else .error .nullArray

/-- The results of reading each item, in order, or the first fault. -/
def readEach {α β : Type} (f : α → Reading β) : List α → Reading (List β)
  | [] => .ok []
  | a :: as => do
    let b ← f a
    let bs ← readEach f as
    pure (b :: bs)

/-- The items behind an address that are counted elsewhere. -/
def readCounted {α : Type} (address : Option (List α)) (count : Nat) : Reading (List α) :=
  if count = 0 then .ok []
  else
    match address with
    | none => .error .nullArray
    | some xs => .ok (xs.take count)

/-- `a` if there is one, else the fault. -/
def orFault {α : Type} (fault : Malformed) : Option α → Reading α
  | some a => .ok a
  | none => .error fault

def decodeText (t : Text) : Reading String := do
  let bytes ← t.read
  orFault .notUtf8 (Text.Utf8.decode? bytes)

def decodeNames (names : Buffer Text) : Reading (List String) := do
  let texts ← names.read
  readEach decodeText texts

def decodeValue (v : ValueRecord) : Reading Value :=
  if v.tag = 0 then .ok (.int v.int)
  else if v.tag = 1 then .ok (.float v.float)
  else if v.tag = 2 then do
    let s ← decodeText v.str
    pure (.str s)
  else if v.tag = 3 then .ok (.bool v.bool)
  else if v.tag = 4 then .ok .null
  else .error (.valueTag v.tag)

/-! ## Expressions -/

/-- The character with a given code, if it is a Unicode scalar value. -/
def char? (code : UInt32) : Option Char :=
  if h : code.isValidChar then some ⟨code, h⟩ else none

/-- The unsigned thirty-two bit number equal to a word, if there is one. -/
def unsigned32? (n : Int64) : Option UInt32 :=
  if 0 ≤ n.toInt ∧ n.toInt < 0x100000000 then some (UInt32.ofNat n.toInt.toNat) else none

def decodeWidth (h : NodeHead) : Reading UInt32 := orFault (.width h.n) (unsigned32? h.n)
def decodeFill (h : NodeHead) : Reading Char := orFault (.fill h.fill) (char? h.fill)

/-- The function of a text that a node stands for. -/
def decodeStrOp (h : NodeHead) : Reading StrOp :=
  let withText (f : String → StrOp) : Reading StrOp := do
    let s ← decodeText h.name
    pure (f s)
  let padded (f : UInt32 → Char → StrOp) : Reading StrOp := do
    let width ← decodeWidth h
    let fill ← decodeFill h
    pure (f width fill)
  match h.op.toNat with
  | 0 => .ok .len
  | 1 => .ok .lenBytes
  | 2 => .ok .upper
  | 3 => .ok .lower
  | 4 => withText .contains
  | 5 =>
    if h.flag then do
      let length ← orFault (.sliceLength h.m) (unsigned32? h.m)
      pure (.slice h.n (some length))
    else .ok (.slice h.n none)
  | 6 => do
    let pattern ← decodeText h.name
    let value ← decodeText h.arg
    pure (.replace pattern value h.flag)
  | 7 => withText .split
  | 8 => .ok .reverse
  | 9 => .ok (.head h.n)
  | 10 => .ok (.tail h.n)
  | 11 => padded .padStart
  | 12 => padded .padEnd
  | 13 => do
    let width ← decodeWidth h
    pure (.zfill width)
  | 14 => withText .stripStart
  | 15 => withText .stripEnd
  | 16 => withText .trimBoth
  | 17 => withText .trimStart
  | 18 => withText .trimEnd
  | _ => .error (.strOp h.op)

/-- The first operand of a node. -/
def operand (h : NodeHead) (operands : List Expr) : Reading Expr :=
  orFault (.missingOperand h.kind) operands.head?

/-- The expression of a node with the given operands. The operator is read before the operands are
    asked for, and what else a window or an alias holds after. -/
def assemble (h : NodeHead) (operands : List Expr) : Reading Expr :=
  let badOp : Malformed := .exprOp h.kind h.op
  match h.kind.toNat with
  | 0 => do
    let name ← decodeText h.name
    pure (.column name)
  | 1 => do
    let v ← decodeValue h.value
    pure (.literal v)
  | 2 => do
    let op ← orFault badOp (UnaryOp.ofCode? h.op)
    let e ← operand h operands
    pure (.unary op e)
  | 3 => do
    let op ← orFault badOp (BinaryOp.ofCode? h.op)
    let l ← operand h operands
    let r ← operand h operands.tail
    pure (.binary op l r)
  | 4 => do
    let target ← orFault badOp (DataType.ofCode? h.op)
    let e ← operand h operands
    pure (.cast e target)
  | 5 => do
    let op ← decodeStrOp h
    let e ← operand h operands
    pure (.str op e)
  | 6 => do
    let op ← orFault badOp (AggOp.ofCode? h.op)
    let e ← operand h operands
    pure (.agg op e)
  | 7 => do
    let func ← orFault badOp (OffsetFunc.ofCode? h.op h.n)
    let e ← operand h operands
    pure (.offset func e)
  | 8 => do
    let e ← operand h operands
    let partitionBy ← decodeNames h.partitionBy
    let orderBy ← decodeNames h.orderBy
    pure (.window e ⟨partitionBy, orderBy⟩)
  | 9 => do
    let e ← operand h operands
    let name ← decodeText h.name
    pure (.aliased e name)
  | 10 => do
    let text ← decodeText h.name
    pure (.raw text)
  | _ => .error (.exprKind h.kind)

mutual

def decodeNode : Node → Reading Expr
  | .mk h (.items cs) => do
    let operands ← decodeNodes cs
    assemble h operands
  | .mk h (.null n) => if n = 0 then assemble h [] else .error .nullArray

def decodeNodes : List Node → Reading (List Expr)
  | [] => .ok []
  | c :: cs => do
    let e ← decodeNode c
    let es ← decodeNodes cs
    pure (e :: es)

end

/-! ## Operations -/

def decodeEntry (e : EntryRecord) : Reading Selector :=
  if e.tag = 0 then do
    let column ← decodeText e.text
    pure (.name column)
  else if e.tag = 2 then do
    let text ← decodeText e.text
    pure (.raw text)
  else if e.tag = 1 then
    match e.node with
    | some n => do
      let x ← decodeNode n
      pure (.expr x)
    | none => .error .entryWithoutNode
  else .error (.entryTag e.tag)

def decodeEntries (entries : Buffer EntryRecord) : Reading (List Selector) := do
  let es ← entries.read
  readEach decodeEntry es

def decodeColumn (c : ColumnRecord) : Reading Column := do
  let records ← c.values.read
  let values ← readEach decodeValue records
  let name ← decodeText c.name
  pure ⟨name, values⟩

def decodeSortField (f : SortRecord) : Reading SortField := do
  let column ← decodeText f.column
  pure ⟨column, f.descending⟩

/-- The type overrides of a file. No code at all means no overrides. -/
def decodeTypes (codes : Buffer UInt8) : Reading (Option (List DataType)) :=
  if codes.count = 0 then .ok none
  else do
    let cs ← codes.read
    let types ← readEach (fun c => orFault (.dataType c) (DataType.ofCode? c)) cs
    pure (some types)

def decodeCsv (a : CsvRecord) : Reading Operation := do
  let dtypes ← decodeTypes a.dtypes
  let path ← decodeText a.path
  pure (.readCsv path ⟨a.delimiter, a.hasHeader, dtypes⟩)

/-- The operation over a list of entries. A filter has exactly one. -/
def assembleRole (role : EntriesRole) (items : List Selector) : Reading Operation :=
  match role, items with
  | .select, _ => .ok (.select items)
  | .withColumns, _ => .ok (.withColumns items)
  | .filter, [predicate] => .ok (.filter predicate)
  | .filter, _ => .error (.filterEntries items.length)

/-- The join with the given other plan. Its type has been read already. -/
def assembleJoin (how : JoinType) (a : JoinRecord) (other : Plan) : Reading Operation := do
  let leftTexts ← readCounted a.leftOn a.keys
  let leftOn ← readEach decodeText leftTexts
  let rightTexts ← readCounted a.rightOn a.keys
  let rightOn ← readEach decodeText rightTexts
  let suffix ← decodeText a.suffix
  pure (.join other ⟨leftOn, rightOn, how, suffix, a.coalesce⟩)

/-- An operation with no arguments to read. -/
def decodeBare (opcode : UInt16) : Reading Operation :=
  if opcode = countOpcode then .ok .count
  else if opcode ∈ opcodesWithArguments then .error (.noArguments opcode)
  else .error (.unknownOpcode opcode)

mutual

def decodeOp : OpRecord → Reading Operation
  | .bare opcode => decodeBare opcode
  | .readCsv a => decodeCsv a
  | .fromMemory columns => do
    let cs ← columns.read
    let decoded ← readEach decodeColumn cs
    pure (.fromMemory decoded)
  | .query sql => do
    let s ← decodeText sql
    pure (.query s)
  | .entries role entries => do
    let items ← decodeEntries entries
    assembleRole role items
  | .groupBy keys aggs => do
    let ks ← decodeEntries keys
    let as ← decodeEntries aggs
    pure (.groupBy ks as)
  | .sort fields => do
    let fs ← fields.read
    let decoded ← readEach decodeSortField fs
    pure (.sort decoded)
  | .limit rows => .ok (.limit rows)
  | .join (.items records) a => do
    let how ← orFault (.joinType a.how) (JoinType.ofCode? a.how)
    let other ← decodeOps records
    assembleJoin how a other
  | .join (.null n) a => do
    let how ← orFault (.joinType a.how) (JoinType.ofCode? a.how)
    if n = 0 then assembleJoin how a [] else .error .nullArray
  | .concat (.items records) => do
    let other ← decodeOps records
    pure (.concat other)
  | .concat (.null n) => if n = 0 then .ok (.concat []) else .error .nullArray

def decodeOps : List OpRecord → Reading (List Operation)
  | [] => .ok []
  | r :: rs => do
    let op ← decodeOp r
    let ops ← decodeOps rs
    pure (op :: ops)

end

/-- The plan of its records, which may be missing altogether. -/
def decode : Option PlanRecord → Reading Plan
  | none => .error .nullPlan
  | some plan => do
    let records ← plan.read
    decodeOps records

end FramePlan.Wire
