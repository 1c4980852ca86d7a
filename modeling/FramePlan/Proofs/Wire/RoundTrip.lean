import FramePlan.Proofs.Plan.Within
import FramePlan.Proofs.Text.Utf8
import FramePlan.Proofs.Wire.Reading
import FramePlan.Wire.Encode

/-!
# Reading back a written plan

The writer and the reader are two case analyses over the same trees that share nothing but numbers
and positions. `decode_encode` says that they fit: a plan whose joins all have as many left keys as
right keys is read back from its records as it was, up to an empty list of type overrides, which
reads as none (`Plan.normal`).

There is one lemma for each kind of record, by the recursion of the encoder. Trees of expressions
and plans inside plans go by induction on what was written.
-/
namespace FramePlan.Wire

/-! ## Pinned records -/

namespace Pinned

variable {α β : Type}

@[simp] theorem record_pure (a : α) : (pure a : Pinned α).record = a := rfl

@[simp] theorem record_bind (p : Pinned α) (f : α → Pinned β) :
    (p >>= f).record = (f p.record).record := rfl

@[simp] theorem record_single (a : α) : (single a).record = a := rfl

@[simp] theorem record_each (f : α → Pinned β) (as : List α) :
    (each f as).record = as.map fun a => (f a).record := by
  induction as with
  | nil => rfl
  | cons a as ih => simp [each, ih]

theorem array_cases (as : List α) :
    as = [] ∧ (array as).record = .null 0 ∨ (array as).record = .items as := by
  cases as with
  | nil => exact .inl ⟨rfl, rfl⟩
  | cons a as => exact .inr rfl

@[simp] theorem read_array (as : List α) : (array as).record.read = .ok as := by
  obtain ⟨rfl, h⟩ | h := array_cases as <;> rw [h] <;> rfl

end Pinned

theorem readEach_map {α β γ : Type} {f : β → Reading γ} {g : α → β} {h : α → γ} :
    ∀ {as : List α}, (∀ a ∈ as, f (g a) = .ok (h a)) → readEach f (as.map g) = .ok (as.map h)
  | [], _ => rfl
  | a :: as, hf => by
    simp only [List.map_cons, readEach, hf a List.mem_cons_self, ok_bind, pure_eq_ok,
      readEach_map fun b hb => hf b (List.mem_cons_of_mem _ hb)]

/-! ## Texts and values -/

@[simp] theorem decodeText_borrow (s : String) : decodeText (borrow s) = .ok s := by
  simp [decodeText, borrow, Buffer.read, Text.Utf8.decode?_encode, orFault]

theorem readEach_borrow (names : List String) :
    readEach decodeText (names.map borrow) = .ok names := by
  rw [readEach_map (h := id) fun s _ => decodeText_borrow s, List.map_id]

@[simp] theorem decodeNames_encodeNames (names : List String) :
    decodeNames (encodeNames names).record = .ok names := by
  simp [decodeNames, encodeNames, readEach_borrow]

@[simp] theorem decodeValue_encodeValue (v : Value) : decodeValue (encodeValue v) = .ok v := by
  cases v <;> simp [decodeValue, encodeValue, nullValue, Value.tag]

/-! ## Nodes -/

theorem unsigned32?_ofNat (n : UInt32) : unsigned32? (Int64.ofNat n.toNat) = some n := by
  have hn := n.toNat_lt
  have hi : (Int64.ofNat n.toNat).toInt = n.toNat := Int64.toInt_ofNat_of_lt (by omega)
  simp only [unsigned32?, hi]
  rw [if_pos (by omega), Int.toNat_natCast, UInt32.ofNat_toNat]

theorem char?_val (c : Char) : char? c.val = some c := by
  simp only [char?]
  rw [dif_pos c.valid]

theorem decodeStrOp_encodeStrOp (op : StrOp) : decodeStrOp (encodeStrOp op) = .ok op := by
  cases op with
  | slice offset length =>
    cases length <;>
      simp [decodeStrOp, encodeStrOp, NodeHead.blank, StrOp.code, unsigned32?_ofNat, orFault]
  | _ =>
    simp [decodeStrOp, encodeStrOp, NodeHead.blank, StrOp.code, unsigned32?_ofNat, orFault,
      decodeWidth, decodeFill, char?_val]

theorem kind_encodeStrOp (op : StrOp) : (encodeStrOp op).kind = 5 := by
  unfold encodeStrOp
  dsimp only
  split <;> rfl

theorem records_encodeStrOp (op : StrOp) : (encodeStrOp op).value = nullValue ∧
    (encodeStrOp op).partitionBy = .null 0 ∧ (encodeStrOp op).orderBy = .null 0 := by
  unfold encodeStrOp
  dsimp only
  split <;> exact ⟨rfl, rfl, rfl⟩

theorem decodeNodes_nil : decodeNodes [] = .ok [] := rfl

/-- A written node reads as what its head makes of its children, each of them read. -/
theorem decodeNode_node {h : NodeHead} {children : List Node} {es : List Expr}
    (hc : decodeNodes children = .ok es) :
    decodeNode (node h children).record = assemble h es := by
  simp only [node, Pinned.record_bind, Pinned.record_pure, decodeNode_mk, Pinned.read_array,
    ok_bind, hc]

theorem decodeNodes_single {n : Node} {e : Expr} (h : decodeNode n = .ok e) :
    decodeNodes [n] = .ok [e] := by
  simp [decodeNodes, h]

theorem decodeNodes_pair {n m : Node} {e f : Expr} (hn : decodeNode n = .ok e)
    (hm : decodeNode m = .ok f) : decodeNodes [n, m] = .ok [e, f] := by
  simp [decodeNodes, hn, hm]

theorem decodeNode_encodeExpr (e : Expr) : decodeNode (encodeExpr e).record = .ok e := by
  induction e with
  | column name =>
    rw [encodeExpr, decodeNode_node decodeNodes_nil]
    simp [assemble, NodeHead.blank]
  | literal v =>
    rw [encodeExpr, decodeNode_node decodeNodes_nil]
    simp [assemble, NodeHead.blank]
  | raw text =>
    rw [encodeExpr, decodeNode_node decodeNodes_nil]
    simp [assemble, NodeHead.blank]
  | unary op e ih =>
    rw [encodeExpr, Pinned.record_bind, decodeNode_node (decodeNodes_single ih)]
    simp [assemble, NodeHead.blank, UnaryOp.ofCode?_code, orFault, operand]
  | binary op l r ihl ihr =>
    rw [encodeExpr, Pinned.record_bind, Pinned.record_bind,
      decodeNode_node (decodeNodes_pair ihl ihr)]
    simp [assemble, NodeHead.blank, BinaryOp.ofCode?_code, orFault, operand]
  | cast e target ih =>
    rw [encodeExpr, Pinned.record_bind, decodeNode_node (decodeNodes_single ih)]
    simp [assemble, NodeHead.blank, DataType.ofCode?_code, orFault, operand]
  | str op e ih =>
    rw [encodeExpr, Pinned.record_bind, decodeNode_node (decodeNodes_single ih)]
    simp [assemble, kind_encodeStrOp, decodeStrOp_encodeStrOp, orFault, operand]
  | agg op e ih =>
    rw [encodeExpr, Pinned.record_bind, decodeNode_node (decodeNodes_single ih)]
    simp [assemble, NodeHead.blank, AggOp.ofCode?_code, orFault, operand]
  | offset func e ih =>
    rw [encodeExpr, Pinned.record_bind, decodeNode_node (decodeNodes_single ih)]
    simp [assemble, NodeHead.blank, OffsetFunc.ofCode?_code, orFault, operand]
  | window e spec ih =>
    rw [encodeExpr, Pinned.record_bind, Pinned.record_bind, Pinned.record_bind,
      decodeNode_node (decodeNodes_single ih)]
    simp [assemble, NodeHead.blank, orFault, operand]
  | aliased e name ih =>
    rw [encodeExpr, Pinned.record_bind, decodeNode_node (decodeNodes_single ih)]
    simp [assemble, NodeHead.blank, orFault, operand]

/-! ## Entries, columns and options -/

theorem decodeEntry_encodeEntry (s : Selector) : decodeEntry (encodeEntry s).record = .ok s := by
  cases s <;> simp [encodeEntry, decodeEntry, Selector.tag, decodeNode_encodeExpr]

@[simp] theorem decodeEntries_encodeEntries (items : List Selector) :
    decodeEntries (encodeEntries items).record = .ok items := by
  simp only [decodeEntries, encodeEntries, Pinned.record_bind, Pinned.record_each,
    Pinned.read_array, ok_bind]
  rw [readEach_map (h := id) fun s _ => decodeEntry_encodeEntry s, List.map_id]

theorem decodeColumn_encodeColumn (c : Column) : decodeColumn (encodeColumn c).record = .ok c := by
  simp only [decodeColumn, encodeColumn, Pinned.record_bind, Pinned.record_pure,
    Pinned.read_array, ok_bind]
  rw [readEach_map (h := id) fun v _ => decodeValue_encodeValue v]
  simp

/-- The type overrides come back, none of them as no overrides. -/
theorem decodeTypes_codes (options : CsvOptions) :
    decodeTypes (Pinned.array ((options.dtypes.getD []).map DataType.code)).record =
      .ok options.normal.dtypes := by
  obtain ⟨delimiter, header, dtypes⟩ := options
  match dtypes with
  | none => rfl
  | some [] => rfl
  | some (t :: ts) =>
    have hread : readEach (fun c => orFault (.dataType c) (DataType.ofCode? c))
        ((t :: ts).map DataType.code) = .ok (t :: ts) := by
      rw [readEach_map (h := id) fun t _ => by rw [DataType.ofCode?_code]; rfl, List.map_id]
    have harray : (Pinned.array ((t :: ts).map DataType.code)).record =
        .items ((t :: ts).map DataType.code) := rfl
    rw [Option.getD_some, harray, decodeTypes, if_neg (by simp [Buffer.count]), Buffer.read, ok_bind,
      hread]
    rfl

theorem decodeSortFields (fields : List SortField) :
    readEach decodeSortField (fields.map fun f => ⟨borrow f.column, f.descending⟩) = .ok fields := by
  rw [readEach_map (h := id) fun f _ => by simp [decodeSortField], List.map_id]

/-! ## Joins -/

theorem keyAddress_array (texts : List Text) :
    readCounted (keyAddress (Pinned.array texts).record) texts.length = .ok texts := by
  obtain ⟨rfl, h⟩ | h := Pinned.array_cases texts
  · rfl
  · rw [h, keyAddress]
    cases texts <;> simp [readCounted]

/-- A key array reads back under the count of the left keys, if there are as many. -/
theorem readCounted_encodeNames {names : List String} {count : Nat} (h : names.length = count) :
    readCounted (keyAddress (encodeNames names).record) count = .ok (names.map borrow) := by
  have hk := keyAddress_array (names.map borrow)
  rwa [List.length_map, h] at hk

theorem assembleJoin_encode {spec : JoinSpec} (h : spec.leftOn.length = spec.rightOn.length)
    (other : Plan) :
    assembleJoin spec.how ⟨keyAddress (encodeNames spec.leftOn).record,
      keyAddress (encodeNames spec.rightOn).record, spec.leftOn.length, spec.how.code,
      borrow spec.suffix, spec.coalesce⟩ other = .ok (.join other spec) := by
  simp only [assembleJoin, readCounted_encodeNames rfl, readCounted_encodeNames h.symm, ok_bind,
    readEach_borrow, decodeText_borrow, pure_eq_ok]

/-! ## Operations -/

mutual

theorem decodeOp_encodeOp : ∀ (op : Operation), op.HasPairs → Plan.KeysPaired op.inner →
    decodeOp (encodeOp op).record = .ok op.normal
  | .readCsv path options, _, _ => by
    simp only [encodeOp, Pinned.record_bind, Pinned.record_single, decodeOp, decodeCsv,
      decodeTypes_codes, decodeText_borrow, ok_bind, pure_eq_ok, Operation.normal]
    rw [← CsvOptions.normal_eq]
  | .fromMemory columns, _, _ => by
    simp only [encodeOp, Pinned.record_bind, Pinned.record_each, Pinned.record_single, decodeOp,
      Pinned.read_array, ok_bind]
    rw [readEach_map (h := id) fun c _ => decodeColumn_encodeColumn c, List.map_id]
    rfl
  | .query sql, _, _ => by simp [encodeOp, decodeOp, Operation.normal]
  | .select items, _, _ => by
    simp [encodeOp, encodeRole, decodeOp, assembleRole, Operation.normal]
  | .filter predicate, _, _ => by
    simp [encodeOp, encodeRole, decodeOp, assembleRole, Operation.normal]
  | .withColumns items, _, _ => by
    simp [encodeOp, encodeRole, decodeOp, assembleRole, Operation.normal]
  | .groupBy keys aggs, _, _ => by simp [encodeOp, decodeOp, Operation.normal]
  | .sort fields, _, _ => by simp [encodeOp, decodeOp, decodeSortFields, Operation.normal]
  | .limit rows, _, _ => rfl
  | .count, _, _ => rfl
  | .join other spec, pairs, paired => by
    simp only [encodeOp, Pinned.record_bind, Pinned.record_single, decodeOp_join,
      JoinType.ofCode?_code, orFault, Pinned.read_array, ok_bind,
      decodeOps_encodeOps other paired, assembleJoin_encode pairs, Operation.normal]
  | .concat other, _, paired => by
    simp only [encodeOp, Pinned.record_bind, Pinned.record_single, decodeOp_concat,
      Pinned.read_array, ok_bind, decodeOps_encodeOps other paired, pure_eq_ok, Operation.normal]

theorem decodeOps_encodeOps : ∀ (ops : List Operation), Plan.KeysPaired ops →
    decodeOps (encodeOps ops).record = .ok (Plan.normal ops)
  | [], _ => rfl
  | op :: ops, paired => by
    obtain ⟨⟨pairs, inner⟩, rest⟩ := Plan.throughout_cons.mp paired
    simp only [encodeOps, Pinned.record_bind, Pinned.record_pure, decodeOps,
      decodeOp_encodeOp op pairs inner, decodeOps_encodeOps ops rest, ok_bind, pure_eq_ok,
      Plan.normal]

end

/-- Reading a written plan is reading the records of its operations. -/
theorem decode_record (ops : Plan) :
    decode (some (encode ops).record) = decodeOps (encodeOps ops).record := by
  simp only [encode, Pinned.record_bind, decode, Pinned.read_array, ok_bind]

/-- **A written plan is read back**, with empty lists of type overrides left out, if every join in
it, at every depth, has as many left keys as right keys. -/
theorem decode_encode (ops : Plan) (paired : ops.KeysPaired) :
    decode (some (encode ops).record) = .ok ops.normal := by
  simp only [encode, Pinned.record_bind, decode, Pinned.read_array, ok_bind]
  exact decodeOps_encodeOps ops paired

/-- A plan with a join inside a concatenation, and with empty overrides on both levels. -/
def layeredPlan : Plan :=
  [.readCsv "a.csv" { CsvOptions.default with dtypes := some [] },
    .concat [.readCsv "b.csv" { CsvOptions.default with dtypes := some [] },
      .join [.query "SELECT 1 AS k", .filter (.expr (.str (.padEnd 4294967295 '😀') (.column "é")))]
        (.on ["k"]), .limit 18446744073709551615]]

theorem decode_encode_layered : layeredPlan.KeysPaired ∧
    decode (some (encode layeredPlan).record) = .ok layeredPlan.normal := by
  have paired : layeredPlan.KeysPaired := by
    simp [layeredPlan, Plan.KeysPaired, Plan.throughout_cons, Plan.throughout_nil,
      Operation.HasPairs, Operation.inner, JoinSpec.on]
  exact ⟨paired, decode_encode layeredPlan paired⟩

end FramePlan.Wire
