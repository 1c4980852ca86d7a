import FramePlan.Proofs.Wire.Acceptance
import FramePlan.Proofs.Wire.Within

/-!
# Canonical records

An engine may read a record without looking at its tag first, so the writer leaves nothing in a field
that the tag does not select. A canonical record is one of which this holds everywhere: of its values,
its entries, and the nodes of its expressions, each of which has as many children as its kind. An
array in it is null exactly if it counts nothing.

`encode_canonical` says that every written record is canonical, counts the operations of its plan and
of each plan inside, and spells the plan. What a record spells, it spells with the children from left
to right, and in a canonical record there is no child behind those.
-/
namespace FramePlan.Wire

/-! ## Arrays -/

/-- The array is null exactly if it counts no item. -/
def Buffer.Tight {α : Type} (b : Buffer α) : Prop := b.isNull = true ↔ b.count = 0

/-- The array is null exactly if it counts no item, and every item has the property. -/
def Buffer.TightOf {α : Type} (P : α → Prop) (b : Buffer α) : Prop :=
  b.Tight ∧ ∀ a ∈ b.stored, P a

theorem tight_null {α : Type} : (Buffer.null 0 : Buffer α).Tight := iff_of_true rfl rfl

theorem tight_array {α : Type} (as : List α) : (Pinned.array as).record.Tight := by
  cases as with
  | nil => exact tight_null
  | cons a as => simp [Buffer.Tight, Pinned.array, Buffer.isNull, Buffer.count]

theorem count_array {α : Type} (as : List α) : (Pinned.array as).record.count = as.length := by
  cases as <;> rfl

theorem tightOf_array {α : Type} {P : α → Prop} {as : List α} (h : ∀ a ∈ as, P a) :
    (Pinned.array as).record.TightOf P :=
  ⟨tight_array as, by rwa [Pinned.stored_array]⟩

/-! ## Values -/

/-- A field that the tag does not select is zero, false or empty. -/
structure ValueRecord.Canonical (v : ValueRecord) : Prop where
  int : v.tag ≠ 0 → v.int = 0
  float : v.tag ≠ 1 → v.float = Binary64.zero
  str : v.tag ≠ 2 → v.str = noText
  bool : v.tag ≠ 3 → v.bool = false

theorem canonical_encodeValue (v : Value) : (encodeValue v).Canonical := by
  cases v <;> constructor <;> simp [encodeValue, nullValue, Value.tag]

theorem canonical_nullValue : nullValue.Canonical := canonical_encodeValue .null

/-! ## Nodes -/

/-- A field of a node that has a use for some kinds only. -/
inductive NodeField
  | op
  | flag
  | fill
  | name
  | arg
  | value
  | n
  | m
  | partitionBy
  | orderBy

def NodeHead.Blank (h : NodeHead) : NodeField → Prop
  | .op => h.op = 0
  | .flag => h.flag = false
  | .fill => h.fill = 0
  | .name => h.name = noText
  | .arg => h.arg = noText
  | .value => h.value = nullValue
  | .n => h.n = 0
  | .m => h.m = 0
  | .partitionBy => h.partitionBy = .null 0
  | .orderBy => h.orderBy = .null 0

/-- The fields that a text function uses, by its code. A slice has a length if its flag is set. -/
def textFields (op : UInt8) (flag : Bool) : List NodeField :=
  match op.toNat with
  | 4 | 7 | 14 | 15 | 16 | 17 | 18 => [.name]
  | 5 => if flag then [.n, .flag, .m] else [.n]
  | 6 => [.name, .arg, .flag]
  | 9 | 10 | 13 => [.n]
  | 11 | 12 => [.n, .fill]
  | _ => []

/-- The fields that a node uses, by its kind. -/
def NodeHead.uses (h : NodeHead) : List NodeField :=
  match h.kind.toNat with
  | 0 | 9 | 10 => [.name]
  | 1 => [.value]
  | 2 | 3 | 4 | 6 => [.op]
  | 5 => .op :: textFields h.op h.flag
  | 7 => [.op, .n]
  | 8 => [.partitionBy, .orderBy]
  | _ => []

/-- How many children a node has, by its kind. -/
def NodeHead.arity (h : NodeHead) : Nat :=
  match h.kind.toNat with
  | 0 | 1 | 10 => 0
  | 3 => 2
  | _ => 1

/-- Every field that the kind does not use holds nothing, and those it uses hold canonical records. -/
structure NodeHead.Canonical (h : NodeHead) : Prop where
  unused : ∀ f, f ∉ h.uses → h.Blank f
  value : h.value.Canonical
  partitionBy : h.partitionBy.Tight
  orderBy : h.orderBy.Tight

/-- The node, and every node below it, has as many children as its kind and holds nothing else than
its kind uses. -/
inductive Node.Canonical : Node → Prop
  | mk {h : NodeHead} {children : Buffer Node} (head : h.Canonical) (tight : children.Tight)
    (arity : children.count = h.arity) (below : ∀ c ∈ children.stored, Canonical c) :
    Canonical (.mk h children)

theorem canonical_node {h : NodeHead} {children : List Node} (head : h.Canonical)
    (arity : children.length = h.arity) (below : ∀ c ∈ children, c.Canonical) :
    (node h children).record.Canonical := by
  refine .mk head (tight_array children) ?_ ?_
  · rw [count_array, arity]
  · rwa [Pinned.stored_array]

/-- A head whose records are empty is canonical if the fields that it does not use are blank. -/
theorem canonical_of_unused {h : NodeHead} (value : h.value = nullValue)
    (partitionBy : h.partitionBy = .null 0) (orderBy : h.orderBy = .null 0)
    (unused : ∀ f, f ∉ h.uses → h.Blank f) : h.Canonical where
  unused := unused
  value := value ▸ canonical_nullValue
  partitionBy := partitionBy ▸ tight_null
  orderBy := orderBy ▸ tight_null

theorem unused_encodeStrOp (op : StrOp) (f : NodeField) (hf : f ∉ (encodeStrOp op).uses) :
    (encodeStrOp op).Blank f := by
  -- One case for each selection of fields: those it selects are used, the others are as they were.
  cases op with
  | len | lenBytes | upper | lower | reverse =>
    cases f with
    | op => exact absurd (.head _) hf
    | _ => rfl
  | contains _ | split _ | stripStart _ | stripEnd _ | trimBoth _ | trimStart _ | trimEnd _ =>
    cases f with
    | op => exact absurd (.head _) hf
    | name => exact absurd (.tail _ (.head _)) hf
    | _ => rfl
  | slice _ length =>
    cases length with
    | none =>
      cases f with
      | op => exact absurd (.head _) hf
      | n => exact absurd (.tail _ (.head _)) hf
      | _ => rfl
    | some _ =>
      cases f with
      | op => exact absurd (.head _) hf
      | n => exact absurd (.tail _ (.head _)) hf
      | flag => exact absurd (.tail _ (.tail _ (.head _))) hf
      | m => exact absurd (.tail _ (.tail _ (.tail _ (.head _)))) hf
      | _ => rfl
  | replace _ _ _ =>
    cases f with
    | op => exact absurd (.head _) hf
    | name => exact absurd (.tail _ (.head _)) hf
    | arg => exact absurd (.tail _ (.tail _ (.head _))) hf
    | flag => exact absurd (.tail _ (.tail _ (.tail _ (.head _)))) hf
    | _ => rfl
  | head _ | tail _ | zfill _ =>
    cases f with
    | op => exact absurd (.head _) hf
    | n => exact absurd (.tail _ (.head _)) hf
    | _ => rfl
  | padStart _ _ | padEnd _ _ =>
    cases f with
    | op => exact absurd (.head _) hf
    | n => exact absurd (.tail _ (.head _)) hf
    | fill => exact absurd (.tail _ (.tail _ (.head _))) hf
    | _ => rfl

theorem canonical_encodeStrOp (op : StrOp) : (encodeStrOp op).Canonical := by
  obtain ⟨hvalue, hpartition, horder⟩ := records_encodeStrOp op
  exact canonical_of_unused hvalue hpartition horder (unused_encodeStrOp op)

theorem canonical_name {kind : UInt8} {t : Text}
    (h : { NodeHead.blank kind with name := t }.uses = [.name]) :
    { NodeHead.blank kind with name := t }.Canonical := by
  refine canonical_of_unused rfl rfl rfl fun f hf => ?_
  rw [h] at hf
  cases f with
  | name => exact absurd (.head _) hf
  | _ => rfl

theorem canonical_op {kind op : UInt8} (h : { NodeHead.blank kind with op := op }.uses = [.op]) :
    { NodeHead.blank kind with op := op }.Canonical := by
  refine canonical_of_unused rfl rfl rfl fun f hf => ?_
  rw [h] at hf
  cases f with
  | op => exact absurd (.head _) hf
  | _ => rfl

theorem canonical_offset (func : OffsetFunc) :
    { NodeHead.blank 7 with op := func.code, n := func.rows }.Canonical := by
  refine canonical_of_unused rfl rfl rfl fun f hf => ?_
  cases f with
  | op => exact absurd (.head _) hf
  | n => exact absurd (.tail _ (.head _)) hf
  | _ => rfl

theorem canonical_literal (v : Value) :
    { NodeHead.blank 1 with value := encodeValue v }.Canonical := by
  refine ⟨fun f hf => ?_, canonical_encodeValue v, tight_null, tight_null⟩
  cases f with
  | value => exact absurd (.head _) hf
  | _ => rfl

theorem canonical_window (spec : WindowSpec) :
    { NodeHead.blank 8 with
      partitionBy := (encodeNames spec.partitionBy).record,
      orderBy := (encodeNames spec.orderBy).record }.Canonical := by
  refine ⟨fun f hf => ?_, canonical_nullValue, tight_array _, tight_array _⟩
  cases f with
  | partitionBy => exact absurd (.head _) hf
  | orderBy => exact absurd (.tail _ (.head _)) hf
  | _ => rfl

theorem canonical_leaf {h : NodeHead} (head : h.Canonical) (arity : h.arity = 0) :
    (node h []).record.Canonical :=
  canonical_node head arity.symm fun _ hc => absurd hc List.not_mem_nil

theorem canonical_wrap {h : NodeHead} {c : Node} (head : h.Canonical) (arity : h.arity = 1)
    (below : c.Canonical) : (node h [c]).record.Canonical :=
  canonical_node head arity.symm (List.forall_mem_singleton.mpr below)

theorem canonical_encodeExpr (e : Expr) : (encodeExpr e).record.Canonical := by
  induction e with
  | column name => exact canonical_leaf (canonical_name rfl) rfl
  | literal v => exact canonical_leaf (canonical_literal v) rfl
  | raw text => exact canonical_leaf (canonical_name rfl) rfl
  | unary op e ih => exact canonical_wrap (canonical_op rfl) rfl ih
  | binary op l r ihl ihr =>
    exact canonical_node (canonical_op rfl) rfl
      (List.forall_mem_cons.mpr ⟨ihl, List.forall_mem_singleton.mpr ihr⟩)
  | cast e target ih => exact canonical_wrap (canonical_op rfl) rfl ih
  | str op e ih =>
    have harity : (encodeStrOp op).arity = 1 := by rw [NodeHead.arity, kind_encodeStrOp]; rfl
    exact canonical_wrap (canonical_encodeStrOp op) harity ih
  | agg op e ih => exact canonical_wrap (canonical_op rfl) rfl ih
  | offset func e ih => exact canonical_wrap (canonical_offset func) rfl ih
  | window e spec ih => exact canonical_wrap (canonical_window spec) rfl ih
  | aliased e name ih => exact canonical_wrap (canonical_name rfl) rfl ih

/-! ## Entries and operations -/

/-- A text for a name or for a fragment, a node for an expression, and never both. -/
structure EntryRecord.Canonical (r : EntryRecord) : Prop where
  text : r.tag ≠ 0 → r.tag ≠ 2 → r.text = noText
  unused : r.tag ≠ 1 → r.node = none
  node : ∀ n, r.node = some n → n.Canonical

theorem canonical_encodeEntry (s : Selector) : (encodeEntry s).record.Canonical := by
  cases s with
  | expr e =>
    refine ⟨fun _ _ => rfl, fun h => absurd rfl h, ?_⟩
    rintro _ ⟨⟩
    exact canonical_encodeExpr e
  | name column => exact ⟨fun h => absurd rfl h, fun _ => rfl, fun _ h => nomatch h⟩
  | raw text => exact ⟨fun _ h => absurd rfl h, fun _ => rfl, fun _ h => nomatch h⟩

theorem canonical_encodeEntries (items : List Selector) :
    (encodeEntries items).record.TightOf EntryRecord.Canonical := by
  refine tightOf_array ?_
  rw [Pinned.record_each, List.forall_mem_map]
  exact fun s _ => canonical_encodeEntry s

def ColumnRecord.Canonical (c : ColumnRecord) : Prop := c.values.TightOf ValueRecord.Canonical

theorem canonical_encodeColumn (c : Column) : (encodeColumn c).record.Canonical :=
  tightOf_array (List.forall_mem_map.mpr fun v _ => canonical_encodeValue v)

/-- The address is null exactly if nothing is counted, and has as many names behind it as are
counted. -/
def HoldsCounted (address : Option (List Text)) (count : Nat) : Prop :=
  (address = none ↔ count = 0) ∧ ∀ texts, address = some texts → texts.length = count

theorem holdsCounted_encodeNames {names : List String} {count : Nat} (h : names.length = count) :
    HoldsCounted (keyAddress (encodeNames names).record) count := by
  subst h
  cases names with
  | nil => exact ⟨iff_of_true rfl rfl, fun _ h => nomatch h⟩
  | cons name names =>
    refine ⟨iff_of_false nofun (Nat.succ_ne_zero _), ?_⟩
    rintro _ ⟨⟩
    exact List.length_map _

/-- The arrays of the record are null exactly if they count nothing, and what is in them is
canonical. The record of the plan inside is not looked into. -/
def OpRecord.Canonical : OpRecord → Prop
  | .readCsv a => a.dtypes.Tight
  | .fromMemory columns => columns.TightOf ColumnRecord.Canonical
  | .entries _ es => es.TightOf EntryRecord.Canonical
  | .groupBy keys aggs =>
    keys.TightOf EntryRecord.Canonical ∧ aggs.TightOf EntryRecord.Canonical
  | .sort fields => fields.Tight
  | .join other a => other.Tight ∧ HoldsCounted a.leftOn a.keys ∧ HoldsCounted a.rightOn a.keys
  | .concat other => other.Tight
  | _ => True

theorem canonical_encodeOp (op : Operation) (pairs : op.HasPairs) :
    (encodeOp op).record.Canonical := by
  cases op with
  | readCsv path options => exact tight_array _
  | fromMemory columns =>
    refine tightOf_array ?_
    rw [Pinned.record_each, List.forall_mem_map]
    exact fun c _ => canonical_encodeColumn c
  | select items => exact canonical_encodeEntries items
  | filter predicate => exact canonical_encodeEntries [predicate]
  | withColumns items => exact canonical_encodeEntries items
  | groupBy keys aggs => exact ⟨canonical_encodeEntries keys, canonical_encodeEntries aggs⟩
  | sort fields => exact tight_array _
  | join other spec =>
    exact ⟨tight_array _, holdsCounted_encodeNames rfl, holdsCounted_encodeNames (Eq.symm pairs)⟩
  | concat other => exact tight_array _
  | query _ | limit _ | count => trivial

/-! ## Plans -/

/-- The record of the plan is canonical, and so is every record of an operation, at every depth. -/
def PlanRecord.Canonical (plan : PlanRecord) : Prop :=
  plan.Tight ∧ PlanRecord.Throughout OpRecord.Canonical plan

/-- The record counts the operations of the plan, and the record inside that of each operation counts
those of the plan that the operation holds. -/
inductive PlanRecord.Counts : PlanRecord → Plan → Prop
  | mk {plan : PlanRecord} {ops : Plan} (count : plan.count = ops.length)
    (inner : ∀ (i : Nat) (r : OpRecord) (op : Operation), plan.stored[i]? = some r →
      ops[i]? = some op → Counts r.inner op.inner) : Counts plan ops

theorem counts_encode (ops : Plan) : PlanRecord.Counts (encode ops).record ops := by
  induction ops using Plan.induction with
  | step ops ih =>
    refine .mk ?_ fun i r op hr hop => ?_
    · rw [encode, Pinned.record_bind, count_array, encodeOps_eq_each, Pinned.record_each,
        List.length_map]
    · rw [stored_encode, List.getElem?_map, hop] at hr
      cases hr
      rw [inner_encodeOp]
      exact ih op (List.mem_of_getElem? hop)

/-- **Written records are canonical.** If every join of the plan, at every depth, has as many left
keys as right keys, then a field of a value, entry or node that its tag, kind or operator does not
select holds nothing, an array is null exactly if it counts nothing, and a node has as many children
as its kind. The record counts the operations at every level, and spells the plan, the children of a
node being its operands from left to right. -/
theorem encode_canonical (ops : Plan) (paired : ops.KeysPaired) :
    PlanRecord.Canonical (encode ops).record ∧ PlanRecord.Counts (encode ops).record ops ∧
      SpellsPlan (some (encode ops).record) ops.normal := by
  refine ⟨⟨tight_array _, throughout_encode canonical_encodeOp paired⟩, counts_encode ops, ?_⟩
  rw [← decode_eq_ok, decode_record, decodeOps_encodeOps ops paired]

/-- A plan with values of several tags, a slice and a window inside a sum, and a join and an empty
list of keys below a concatenation. -/
def freightPlan : Plan :=
  [.fromMemory [⟨"é", [.int (-1), .str "", .bool true, .null]⟩, ⟨"weight", []⟩],
    .withColumns [.raw "1", .expr (.binary .add (.str (.slice (-2) (some 3)) (.column "é"))
      (.window (.agg .sum (.column "weight")) ⟨["é"], []⟩))],
    .concat [.readCsv "a.csv" { CsvOptions.default with dtypes := some [] },
      .join [.select [.name "k"], .count] (.on ["k"]), .groupBy [] [.name "k"]]]

theorem encode_canonical_freight : freightPlan.KeysPaired ∧
    PlanRecord.Canonical (encode freightPlan).record ∧
    PlanRecord.Counts (encode freightPlan).record freightPlan ∧
    SpellsPlan (some (encode freightPlan).record) freightPlan.normal := by
  have paired : freightPlan.KeysPaired := by
    simp [freightPlan, Plan.KeysPaired, Plan.throughout_cons, Plan.throughout_nil,
      Operation.HasPairs, Operation.inner, JoinSpec.on]
  exact ⟨paired, encode_canonical freightPlan paired⟩

end FramePlan.Wire
