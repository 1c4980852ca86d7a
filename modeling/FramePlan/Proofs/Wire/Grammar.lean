import FramePlan.Operation
import FramePlan.Text.Utf8
import FramePlan.Wire.Record
import Mathlib.Data.List.Forall2

/-!
# The grammar of plan records

What it means that a record spells a plan, said of records alone: `SpellsPlan w ops`. A rule names
the fields that it looks at, and a field that no rule of a tag, kind or operator names may hold
anything.

Arrays that are looked at are there, or claim no item (`Buffer.Gives`). All children of a node are
nodes of the grammar, whether or not the kind of the node has a use for them: a kind takes its
operands from the front of what the children spell.
-/
namespace FramePlan.Wire

/-- The items that an array stands for. A null array stands for none, and claims none. -/
inductive Buffer.Gives {α : Type} : Buffer α → List α → Prop
  | items (xs : List α) : Gives (.items xs) xs
  | null : Gives (.null 0) []

/-- The bytes of the text are the UTF-8 form of it. -/
def SpellsText (t : Text) (s : String) : Prop := t.Gives (Text.Utf8.encode s)

def SpellsNames (names : Buffer Text) (ss : List String) : Prop :=
  ∃ texts, names.Gives texts ∧ List.Forall₂ SpellsText texts ss

inductive SpellsValue (v : ValueRecord) : Value → Prop
  | int : v.tag = 0 → SpellsValue v (.int v.int)
  | float : v.tag = 1 → SpellsValue v (.float v.float)
  | str {s : String} : v.tag = 2 → SpellsText v.str s → SpellsValue v (.str s)
  | bool : v.tag = 3 → SpellsValue v (.bool v.bool)
  | null : v.tag = 4 → SpellsValue v .null

/-! ## Nodes -/

/-- The fields that hold what a text function is given. A width or a length is a count of thirty-two
    bits, and the fill is the code of a character. -/
def SpellsArguments (h : NodeHead) : StrOp → Prop
  | .contains text => SpellsText h.name text
  | .split text => SpellsText h.name text
  | .stripStart text => SpellsText h.name text
  | .stripEnd text => SpellsText h.name text
  | .trimBoth set => SpellsText h.name set
  | .trimStart set => SpellsText h.name set
  | .trimEnd set => SpellsText h.name set
  | .slice offset none => h.n = offset ∧ h.flag = false
  | .slice offset (some length) => h.n = offset ∧ h.flag = true ∧ h.m.toInt = length.toNat
  | .replace pattern value literal =>
    SpellsText h.name pattern ∧ SpellsText h.arg value ∧ h.flag = literal
  | .head count => h.n = count
  | .tail count => h.n = count
  | .padStart width fill => h.n.toInt = width.toNat ∧ h.fill = fill.val
  | .padEnd width fill => h.n.toInt = width.toNat ∧ h.fill = fill.val
  | .zfill width => h.n.toInt = width.toNat
  | .len => True
  | .lenBytes => True
  | .upper => True
  | .lower => True
  | .reverse => True

/-- A node of the head spells the expression, given what its children spell. -/
inductive SpellsHead (h : NodeHead) : List Expr → Expr → Prop
  | column {es : List Expr} {name : String} :
    h.kind = 0 → SpellsText h.name name → SpellsHead h es (.column name)
  | literal {es : List Expr} {v : Value} :
    h.kind = 1 → SpellsValue h.value v → SpellsHead h es (.literal v)
  | unary {e : Expr} {es : List Expr} {op : UnaryOp} :
    h.kind = 2 → h.op = op.code → SpellsHead h (e :: es) (.unary op e)
  | binary {l r : Expr} {es : List Expr} {op : BinaryOp} :
    h.kind = 3 → h.op = op.code → SpellsHead h (l :: r :: es) (.binary op l r)
  | cast {e : Expr} {es : List Expr} {target : DataType} :
    h.kind = 4 → h.op = target.code → SpellsHead h (e :: es) (.cast e target)
  | str {e : Expr} {es : List Expr} {op : StrOp} :
    h.kind = 5 → h.op = op.code → SpellsArguments h op → SpellsHead h (e :: es) (.str op e)
  | agg {e : Expr} {es : List Expr} {op : AggOp} :
    h.kind = 6 → h.op = op.code → SpellsHead h (e :: es) (.agg op e)
  | offset {e : Expr} {es : List Expr} {func : OffsetFunc} :
    h.kind = 7 → h.op = func.code → h.n = func.rows → SpellsHead h (e :: es) (.offset func e)
  | window {e : Expr} {es : List Expr} {spec : WindowSpec} :
    h.kind = 8 → SpellsNames h.partitionBy spec.partitionBy → SpellsNames h.orderBy spec.orderBy →
      SpellsHead h (e :: es) (.window e spec)
  | aliased {e : Expr} {es : List Expr} {name : String} :
    h.kind = 9 → SpellsText h.name name → SpellsHead h (e :: es) (.aliased e name)
  | raw {es : List Expr} {text : String} :
    h.kind = 10 → SpellsText h.name text → SpellsHead h es (.raw text)

mutual

inductive SpellsNode : Node → Expr → Prop
  | mk {h : NodeHead} {children : Buffer Node} {cs : List Node} {es : List Expr} {e : Expr} :
    children.Gives cs → SpellsNodes cs es → SpellsHead h es e → SpellsNode (.mk h children) e

inductive SpellsNodes : List Node → List Expr → Prop
  | nil : SpellsNodes [] []
  | cons {c : Node} {cs : List Node} {e : Expr} {es : List Expr} :
    SpellsNode c e → SpellsNodes cs es → SpellsNodes (c :: cs) (e :: es)

end

/-! ## Parts of operations -/

inductive SpellsEntry (r : EntryRecord) : Selector → Prop
  | name {column : String} : r.tag = 0 → SpellsText r.text column → SpellsEntry r (.name column)
  | expr {n : Node} {e : Expr} :
    r.tag = 1 → r.node = some n → SpellsNode n e → SpellsEntry r (.expr e)
  | raw {text : String} : r.tag = 2 → SpellsText r.text text → SpellsEntry r (.raw text)

def SpellsEntries (entries : Buffer EntryRecord) (items : List Selector) : Prop :=
  ∃ rs, entries.Gives rs ∧ List.Forall₂ SpellsEntry rs items

def SpellsColumn (r : ColumnRecord) (c : Column) : Prop :=
  SpellsText r.name c.name ∧ ∃ vs, r.values.Gives vs ∧ List.Forall₂ SpellsValue vs c.values

def SpellsSortField (r : SortRecord) (f : SortField) : Prop :=
  SpellsText r.column f.column ∧ r.descending = f.descending

/-- No code at all, also in a null array, is no overrides. -/
inductive SpellsTypes (codes : Buffer UInt8) : Option (List DataType) → Prop
  | none : codes.count = 0 → SpellsTypes codes none
  | some {t : DataType} {ts : List DataType} :
    codes.Gives ((t :: ts).map DataType.code) → SpellsTypes codes (some (t :: ts))

/-- The names at an address that are counted elsewhere. -/
def SpellsKeys (address : Option (List Text)) (count : Nat) (names : List String) : Prop :=
  count = 0 ∧ names = [] ∨
    ∃ texts, address = some texts ∧ List.Forall₂ SpellsText (texts.take count) names

structure SpellsJoin (a : JoinRecord) (spec : JoinSpec) : Prop where
  leftOn : SpellsKeys a.leftOn a.keys spec.leftOn
  rightOn : SpellsKeys a.rightOn a.keys spec.rightOn
  how : a.how = spec.how.code
  suffix : SpellsText a.suffix spec.suffix
  coalesce : a.coalesce = spec.coalesce

/-! ## Operations -/

mutual

/-- The record spells the operation. What an opcode without arguments may be is `count` alone. -/
inductive SpellsOp : OpRecord → Operation → Prop
  | count : SpellsOp (.bare countOpcode) .count
  | readCsv {a : CsvRecord} {path : String} {dtypes : Option (List DataType)} :
    SpellsText a.path path → SpellsTypes a.dtypes dtypes →
      SpellsOp (.readCsv a) (.readCsv path ⟨a.delimiter, a.hasHeader, dtypes⟩)
  | fromMemory {columns : Buffer ColumnRecord} {rs : List ColumnRecord} {cs : List Column} :
    columns.Gives rs → List.Forall₂ SpellsColumn rs cs →
      SpellsOp (.fromMemory columns) (.fromMemory cs)
  | query {sql : Text} {s : String} : SpellsText sql s → SpellsOp (.query sql) (.query s)
  | select {entries : Buffer EntryRecord} {items : List Selector} :
    SpellsEntries entries items → SpellsOp (.entries .select entries) (.select items)
  | filter {entries : Buffer EntryRecord} {predicate : Selector} :
    SpellsEntries entries [predicate] → SpellsOp (.entries .filter entries) (.filter predicate)
  | withColumns {entries : Buffer EntryRecord} {items : List Selector} :
    SpellsEntries entries items → SpellsOp (.entries .withColumns entries) (.withColumns items)
  | groupBy {keys aggs : Buffer EntryRecord} {ks as : List Selector} :
    SpellsEntries keys ks → SpellsEntries aggs as → SpellsOp (.groupBy keys aggs) (.groupBy ks as)
  | sort {fields : Buffer SortRecord} {rs : List SortRecord} {fs : List SortField} :
    fields.Gives rs → List.Forall₂ SpellsSortField rs fs → SpellsOp (.sort fields) (.sort fs)
  | limit {rows : UInt64} : SpellsOp (.limit rows) (.limit rows)
  | join {plan : PlanRecord} {rs : List OpRecord} {other : Plan} {a : JoinRecord}
    {spec : JoinSpec} : plan.Gives rs → SpellsOps rs other → SpellsJoin a spec →
      SpellsOp (.join plan a) (.join other spec)
  | concat {plan : PlanRecord} {rs : List OpRecord} {other : Plan} :
    plan.Gives rs → SpellsOps rs other → SpellsOp (.concat plan) (.concat other)

inductive SpellsOps : List OpRecord → List Operation → Prop
  | nil : SpellsOps [] []
  | cons {r : OpRecord} {rs : List OpRecord} {op : Operation} {ops : List Operation} :
    SpellsOp r op → SpellsOps rs ops → SpellsOps (r :: rs) (op :: ops)

end

/-- The record is there and spells the plan. -/
def SpellsPlan (w : Option PlanRecord) (ops : Plan) : Prop :=
  ∃ plan rs, w = some plan ∧ plan.Gives rs ∧ SpellsOps rs ops

end FramePlan.Wire
