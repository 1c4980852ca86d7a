import FramePlan.Text.Utf8
import FramePlan.Wire.Record

/-!
# Writing plan records

`encode` lowers a plan into its records. The buffers behind the addresses of the records have to
stay where they are while an engine reads them, so the encoder counts each one that it pins: an
array with at least one item, the argument record of an operation, and the root node of an
expression entry. An empty array is null and pins nothing, and texts stay where the plan holds them.

A field that a tag, kind or operator does not use is zero, empty or null.

Correspondence (program ↔ Lean):
  `encode`, `pinned_buffers`      ↔ `encode`, `Pinned.buffers`
  `Encoder::pin_vec`, `pin`       ↔ `Pinned.array`, `Pinned.single`
  `ops`, `op`, `entries`, `entry` ↔ `encodeOps`, `encodeOp`, `encodeEntries`, `encodeEntry`
  `expr`, `str_node`, `value`     ↔ `encodeExpr`, `encodeStrOp`, `encodeValue`
-/
namespace FramePlan.Wire

/-- A record with the number of buffers pinned for it. -/
structure Pinned (α : Type) where
  record : α
  buffers : Nat

namespace Pinned

instance : Monad Pinned where
  pure a := ⟨a, 0⟩
  bind p f :=
    let q := f p.record
    ⟨q.record, p.buffers + q.buffers⟩

/-- The address of an array. -/
def array {α : Type} (xs : List α) : Pinned (Buffer α) :=
  if xs.isEmpty then ⟨.null 0, 0⟩ else ⟨.items xs, 1⟩

/-- The address of a single record. -/
def single {α : Type} (a : α) : Pinned α := ⟨a, 1⟩

/-- The records of a list, one after the other. -/
def each {α β : Type} (f : α → Pinned β) : List α → Pinned (List β)
  | [] => pure []
  | a :: as => do
    let b ← f a
    let bs ← each f as
    pure (b :: bs)

end Pinned

/-- A text where it stands. -/
def borrow (s : String) : Text := .items (Text.Utf8.encode s)

/-- An array of texts. -/
def encodeNames (names : List String) : Pinned (Buffer Text) := Pinned.array (names.map borrow)

def encodeValue (v : Value) : ValueRecord :=
  let blank := { nullValue with tag := v.tag }
  match v with
  | .int i => { blank with int := i }
  | .float x => { blank with float := x }
  | .str s => { blank with str := borrow s }
  | .bool b => { blank with bool := b }
  | .null => blank

/-- The node of a function of a text: texts in `name` and `arg`, numbers in `n` and `m`, the fill
    character in `fill`, and in `flag` whether a slice has a length or a replacement is literal. -/
def encodeStrOp (op : StrOp) : NodeHead :=
  let blank := { NodeHead.blank 5 with op := op.code }
  match op with
  | .len => blank
  | .lenBytes => blank
  | .upper => blank
  | .lower => blank
  | .reverse => blank
  | .contains text => { blank with name := borrow text }
  | .split text => { blank with name := borrow text }
  | .stripStart text => { blank with name := borrow text }
  | .stripEnd text => { blank with name := borrow text }
  | .trimBoth set => { blank with name := borrow set }
  | .trimStart set => { blank with name := borrow set }
  | .trimEnd set => { blank with name := borrow set }
  | .slice offset none => { blank with n := offset }
  | .slice offset (some length) =>
    { blank with n := offset, flag := true, m := Int64.ofNat length.toNat }
  | .replace pattern value literal =>
    { blank with name := borrow pattern, arg := borrow value, flag := literal }
  | .head count => { blank with n := count }
  | .tail count => { blank with n := count }
  | .padStart width fill => { blank with n := Int64.ofNat width.toNat, fill := fill.val }
  | .padEnd width fill => { blank with n := Int64.ofNat width.toNat, fill := fill.val }
  | .zfill width => { blank with n := Int64.ofNat width.toNat }

/-- The node with the given children. -/
def node (head : NodeHead) (children : List Node) : Pinned Node := do
  let cs ← Pinned.array children
  pure (.mk head cs)

/-- The node of an expression, its operands in order. -/
def encodeExpr : Expr → Pinned Node
  | .column name => node { NodeHead.blank 0 with name := borrow name } []
  | .literal v => node { NodeHead.blank 1 with value := encodeValue v } []
  | .unary op e => do
    let c ← encodeExpr e
    node { NodeHead.blank 2 with op := op.code } [c]
  | .binary op l r => do
    let c ← encodeExpr l
    let d ← encodeExpr r
    node { NodeHead.blank 3 with op := op.code } [c, d]
  | .cast e target => do
    let c ← encodeExpr e
    node { NodeHead.blank 4 with op := target.code } [c]
  | .str op e => do
    let c ← encodeExpr e
    node (encodeStrOp op) [c]
  | .agg op e => do
    let c ← encodeExpr e
    node { NodeHead.blank 6 with op := op.code } [c]
  | .offset func e => do
    let c ← encodeExpr e
    node { NodeHead.blank 7 with op := func.code, n := func.rows } [c]
  | .window e spec => do
    let partitionBy ← encodeNames spec.partitionBy
    let orderBy ← encodeNames spec.orderBy
    let c ← encodeExpr e
    node { NodeHead.blank 8 with partitionBy := partitionBy, orderBy := orderBy } [c]
  | .aliased e name => do
    let c ← encodeExpr e
    node { NodeHead.blank 9 with name := borrow name } [c]
  | .raw text => node { NodeHead.blank 10 with name := borrow text } []

/-- The entry of a selector. The node of an expression is behind an address of its own. -/
def encodeEntry (s : Selector) : Pinned EntryRecord :=
  match s with
  | .name column => pure ⟨s.tag, borrow column, none⟩
  | .raw text => pure ⟨s.tag, borrow text, none⟩
  | .expr e => do
    let n ← encodeExpr e
    let root ← Pinned.single n
    pure ⟨s.tag, noText, some root⟩

def encodeEntries (items : List Selector) : Pinned (Buffer EntryRecord) := do
  let entries ← Pinned.each encodeEntry items
  Pinned.array entries

def encodeColumn (c : Column) : Pinned ColumnRecord := do
  let values ← Pinned.array (c.values.map encodeValue)
  pure ⟨borrow c.name, values⟩

/-- The operation over a list of entries. -/
def encodeRole (role : EntriesRole) (items : List Selector) : Pinned OpRecord := do
  let entries ← encodeEntries items
  Pinned.single (.entries role entries)

/-- The address of a key array, null when there is no key. -/
def keyAddress (names : Buffer Text) : Option (List Text) :=
  match names with
  | .null _ => none
  | .items xs => some xs

mutual

def encodeOp : Operation → Pinned OpRecord
  | .readCsv path options => do
    let dtypes ← Pinned.array ((options.dtypes.getD []).map DataType.code)
    Pinned.single (.readCsv ⟨borrow path, options.delimiter, options.hasHeader, dtypes⟩)
  | .fromMemory columns => do
    let records ← Pinned.each encodeColumn columns
    let array ← Pinned.array records
    Pinned.single (.fromMemory array)
  | .query sql => Pinned.single (.query (borrow sql))
  | .select items => encodeRole .select items
  | .filter predicate => encodeRole .filter [predicate]
  | .withColumns items => encodeRole .withColumns items
  | .groupBy keys aggs => do
    let ks ← encodeEntries keys
    let as ← encodeEntries aggs
    Pinned.single (.groupBy ks as)
  | .sort fields => do
    let fs ← Pinned.array (fields.map fun f => (⟨borrow f.column, f.descending⟩ : SortRecord))
    Pinned.single (.sort fs)
  | .limit rows => Pinned.single (.limit rows)
  | .count => pure (.bare countOpcode)
  | .join other spec => do
    let records ← encodeOps other
    let plan ← Pinned.array records
    let leftOn ← encodeNames spec.leftOn
    let rightOn ← encodeNames spec.rightOn
    Pinned.single (.join plan ⟨keyAddress leftOn, keyAddress rightOn, spec.leftOn.length,
      spec.how.code, borrow spec.suffix, spec.coalesce⟩)
  | .concat other => do
    let records ← encodeOps other
    let plan ← Pinned.array records
    Pinned.single (.concat plan)

def encodeOps : List Operation → Pinned (List OpRecord)
  | [] => pure []
  | op :: ops => do
    let r ← encodeOp op
    let rs ← encodeOps ops
    pure (r :: rs)

end

/-- The records of a plan. -/
def encode (ops : Plan) : Pinned PlanRecord := do
  let records ← encodeOps ops
  Pinned.array records

end FramePlan.Wire
