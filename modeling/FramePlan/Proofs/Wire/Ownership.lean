import FramePlan.Proofs.Wire.Within
import Mathlib.Algebra.GroupWithZero.Nat

/-!
# Buffers and addresses

The writer counts the buffers that it pins while it makes a record. In the record that it has made,
each address leads to a buffer: the address of an array, the address of an operation's arguments, and
that of the root of an expression. `buffers_encode` says that there are as many of the one as of the
other, so each buffer that an engine can reach is pinned, and once.

Addresses are counted on records alone, whoever made them. A null address leads nowhere, whatever
count stands beside it, and a text is not pinned but lent.
-/
namespace FramePlan.Wire

/-! ## Addresses in a record -/

/-- The address of an array, if it is not null, and those in its items. -/
def Buffer.addresses {α : Type} (inside : α → Nat) : Buffer α → Nat
  | .null _ => 0
  | .items as => 1 + (as.map inside).sum

/-- The address of an array whose items hold no address. -/
def Buffer.address {α : Type} (b : Buffer α) : Nat := b.addresses fun _ => 0

/-- The addresses in a node other than that of its children. -/
def NodeHead.addresses (h : NodeHead) : Nat := h.partitionBy.address + h.orderBy.address

mutual

/-- The addresses in a node and in all nodes below it. -/
def Node.addresses : Node → Nat
  | .mk h (.null _) => h.addresses
  | .mk h (.items cs) => h.addresses + (1 + addressesBelow cs)

def addressesBelow : List Node → Nat
  | [] => 0
  | c :: cs => c.addresses + addressesBelow cs

end

def EntryRecord.addresses (r : EntryRecord) : Nat :=
  match r.node with
  | none => 0
  | some n => 1 + n.addresses

def ColumnRecord.addresses (c : ColumnRecord) : Nat := c.values.address

def keyAddresses (address : Option (List Text)) : Nat := if address.isSome then 1 else 0

def JoinRecord.addresses (a : JoinRecord) : Nat := keyAddresses a.leftOn + keyAddresses a.rightOn

mutual

/-- The address of the arguments of an operation, if it has any, and those in them, at every depth. -/
def OpRecord.addresses : OpRecord → Nat
  | .bare _ => 0
  | .readCsv a => 1 + a.dtypes.address
  | .fromMemory columns => 1 + columns.addresses ColumnRecord.addresses
  | .query _ => 1
  | .entries _ es => 1 + es.addresses EntryRecord.addresses
  | .groupBy keys aggs =>
    1 + keys.addresses EntryRecord.addresses + aggs.addresses EntryRecord.addresses
  | .sort fields => 1 + fields.address
  | .limit _ => 1
  | .join (.null _) a => 1 + a.addresses
  | .join (.items rs) a => 1 + a.addresses + (1 + addressesWithin rs)
  | .concat (.null _) => 1
  | .concat (.items rs) => 1 + (1 + addressesWithin rs)

def addressesWithin : List OpRecord → Nat
  | [] => 0
  | r :: rs => r.addresses + addressesWithin rs

end

def PlanRecord.addresses (plan : PlanRecord) : Nat := Buffer.addresses OpRecord.addresses plan

theorem addressesBelow_eq (cs : List Node) : addressesBelow cs = (cs.map Node.addresses).sum := by
  induction cs with
  | nil => rfl
  | cons c cs ih => rw [addressesBelow, ih, List.map_cons, List.sum_cons]

theorem addresses_mk (h : NodeHead) (children : Buffer Node) :
    (Node.mk h children).addresses = h.addresses + children.addresses Node.addresses := by
  cases children with
  | null n => rfl
  | items cs => rw [Node.addresses, Buffer.addresses, addressesBelow_eq]

theorem addressesWithin_eq (rs : List OpRecord) :
    addressesWithin rs = (rs.map OpRecord.addresses).sum := by
  induction rs with
  | nil => rfl
  | cons r rs ih => rw [addressesWithin, ih, List.map_cons, List.sum_cons]

theorem addresses_join (other : PlanRecord) (a : JoinRecord) :
    (OpRecord.join other a).addresses = 1 + a.addresses + PlanRecord.addresses other := by
  cases other with
  | null n => rfl
  | items rs => rw [OpRecord.addresses, PlanRecord.addresses, Buffer.addresses, addressesWithin_eq]

theorem addresses_concat (other : PlanRecord) :
    (OpRecord.concat other).addresses = 1 + PlanRecord.addresses other := by
  cases other with
  | null n => rfl
  | items rs => rw [OpRecord.addresses, PlanRecord.addresses, Buffer.addresses, addressesWithin_eq]

/-! ## Pinned buffers -/

namespace Pinned

variable {α β γ : Type}

theorem bind_assoc (p : Pinned α) (f : α → Pinned β) (g : β → Pinned γ) :
    p >>= f >>= g = p >>= fun a => f a >>= g :=
  congrArg (Pinned.mk _) (Nat.add_assoc _ _ _)

@[simp] theorem buffers_pure (a : α) : (pure a : Pinned α).buffers = 0 := rfl

@[simp] theorem buffers_bind (p : Pinned α) (f : α → Pinned β) :
    (p >>= f).buffers = p.buffers + (f p.record).buffers := rfl

@[simp] theorem buffers_single (a : α) : (single a).buffers = 1 := rfl

theorem buffers_each (f : α → Pinned β) (as : List α) :
    (each f as).buffers = (as.map fun a => (f a).buffers).sum := by
  induction as with
  | nil => rfl
  | cons a as ih => simp [each, ih]

theorem addresses_array (inside : α → Nat) (as : List α) :
    (array as).record.addresses inside = (array as).buffers + (as.map inside).sum := by
  cases as <;> rfl

@[simp] theorem address_array (as : List α) : (array as).record.address = (array as).buffers := by
  simp [Buffer.address, addresses_array]

/-- If each record of a list has as many buffers as addresses, they have so with their array. -/
theorem buffers_array_each {f : α → Pinned β} {inside : β → Nat} {as : List α}
    (h : ∀ a ∈ as, (f a).buffers = inside (f a).record) :
    (each f as >>= array).buffers = (each f as >>= array).record.addresses inside := by
  rw [buffers_bind, record_bind, addresses_array, buffers_each, record_each, List.map_map,
    List.map_congr_left h, Nat.add_comm]
  rfl

end Pinned

/-! ## Nodes -/

theorem address_encodeNames (names : List String) :
    (encodeNames names).record.address = (encodeNames names).buffers :=
  Pinned.address_array _

theorem addresses_node (h : NodeHead) (children : List Node) :
    (node h children).record.addresses =
      h.addresses + ((node h children).buffers + (children.map Node.addresses).sum) := by
  simp only [node, Pinned.record_bind, Pinned.record_pure, addresses_mk, Pinned.addresses_array,
    Pinned.buffers_bind, Pinned.buffers_pure, Nat.add_zero]

theorem addresses_encodeStrOp (op : StrOp) : (encodeStrOp op).addresses = 0 := by
  obtain ⟨-, hpartition, horder⟩ := records_encodeStrOp op
  rw [NodeHead.addresses, hpartition, horder]
  rfl

theorem buffers_wrap {h : NodeHead} {p : Pinned Node} (head : h.addresses = 0)
    (below : p.buffers = p.record.addresses) :
    (p >>= fun c => node h [c]).buffers = (p >>= fun c => node h [c]).record.addresses := by
  simp only [Pinned.buffers_bind, Pinned.record_bind, addresses_node, head, below, List.map_cons,
    List.map_nil, List.sum_cons, List.sum_nil]
  omega

theorem buffers_encodeExpr (e : Expr) :
    (encodeExpr e).buffers = (encodeExpr e).record.addresses := by
  induction e with
  | column name => rfl
  | literal v => rfl
  | raw text => rfl
  | unary op e ih => exact buffers_wrap rfl ih
  | binary op l r ihl ihr =>
    have head : { NodeHead.blank 3 with op := op.code }.addresses = 0 := rfl
    simp only [encodeExpr, Pinned.buffers_bind, Pinned.record_bind, addresses_node, head, ihl, ihr,
      List.map_cons, List.map_nil, List.sum_cons, List.sum_nil]
    omega
  | cast e target ih => exact buffers_wrap rfl ih
  | str op e ih => exact buffers_wrap (addresses_encodeStrOp op) ih
  | agg op e ih => exact buffers_wrap rfl ih
  | offset func e ih => exact buffers_wrap rfl ih
  | window e spec ih =>
    -- The name arrays are pinned before the operand is written.
    have head : { NodeHead.blank 8 with
        partitionBy := (encodeNames spec.partitionBy).record,
        orderBy := (encodeNames spec.orderBy).record }.addresses =
        (encodeNames spec.partitionBy).buffers + (encodeNames spec.orderBy).buffers := by
      rw [NodeHead.addresses, address_encodeNames, address_encodeNames]
    simp only [encodeExpr, Pinned.buffers_bind, Pinned.record_bind, addresses_node, head, ih,
      List.map_cons, List.map_nil, List.sum_cons, List.sum_nil]
    omega
  | aliased e name ih => exact buffers_wrap rfl ih

/-! ## Operations -/

theorem buffers_encodeEntry (s : Selector) :
    (encodeEntry s).buffers = (encodeEntry s).record.addresses := by
  cases s with
  | expr e =>
    simp only [encodeEntry, Pinned.buffers_bind, Pinned.record_bind, Pinned.buffers_single,
      Pinned.record_single, Pinned.buffers_pure, Pinned.record_pure, buffers_encodeExpr,
      EntryRecord.addresses]
    omega
  | name column => rfl
  | raw text => rfl

theorem buffers_encodeEntries (items : List Selector) :
    (encodeEntries items).buffers =
      (encodeEntries items).record.addresses EntryRecord.addresses :=
  Pinned.buffers_array_each fun s _ => buffers_encodeEntry s

theorem buffers_encodeColumn (c : Column) :
    (encodeColumn c).buffers = (encodeColumn c).record.addresses := by
  simp only [encodeColumn, Pinned.buffers_bind, Pinned.record_bind, Pinned.buffers_pure,
    Pinned.record_pure, ColumnRecord.addresses, Pinned.address_array, Nat.add_zero]

theorem keyAddresses_encodeNames (names : List String) :
    keyAddresses (keyAddress (encodeNames names).record) = (encodeNames names).buffers := by
  cases names <;> rfl

theorem buffers_arguments {α : Type} {p : Pinned α} {record : α → OpRecord}
    (h : (record p.record).addresses = 1 + p.buffers) :
    (p >>= fun a => Pinned.single (record a)).buffers =
      (p >>= fun a => Pinned.single (record a)).record.addresses := by
  rw [Pinned.buffers_bind, Pinned.record_bind, Pinned.buffers_single, Pinned.record_single, h,
    Nat.add_comm]

theorem buffers_encodeRole (role : EntriesRole) (items : List Selector) :
    (encodeRole role items).buffers = (encodeRole role items).record.addresses := by
  refine buffers_arguments ?_
  rw [OpRecord.addresses, buffers_encodeEntries]

/-- An operation has as many buffers as addresses if the plan that it holds has. -/
theorem buffers_encodeOp {op : Operation}
    (inner : (encode op.inner).buffers = PlanRecord.addresses (encode op.inner).record) :
    (encodeOp op).buffers = (encodeOp op).record.addresses := by
  cases op with
  | readCsv path options =>
    refine buffers_arguments ?_
    rw [OpRecord.addresses, Pinned.address_array]
  | fromMemory columns =>
    rw [encodeOp, ← Pinned.bind_assoc]
    refine buffers_arguments ?_
    rw [OpRecord.addresses, Pinned.buffers_array_each fun c _ => buffers_encodeColumn c]
  | select items => exact buffers_encodeRole .select items
  | filter predicate => exact buffers_encodeRole .filter [predicate]
  | withColumns items => exact buffers_encodeRole .withColumns items
  | groupBy keys aggs =>
    simp only [encodeOp, Pinned.buffers_bind, Pinned.record_bind, Pinned.buffers_single,
      Pinned.record_single, OpRecord.addresses, buffers_encodeEntries]
    omega
  | sort fields =>
    refine buffers_arguments ?_
    rw [OpRecord.addresses, Pinned.address_array]
  | join other spec =>
    simp only [Operation.inner, encode, Pinned.buffers_bind, Pinned.record_bind] at inner
    simp only [encodeOp, Pinned.buffers_bind, Pinned.record_bind, Pinned.buffers_single,
      Pinned.record_single, addresses_join, JoinRecord.addresses, keyAddresses_encodeNames, ← inner]
    omega
  | concat other =>
    rw [encodeOp, ← Pinned.bind_assoc]
    refine buffers_arguments ?_
    rw [addresses_concat]
    exact congrArg (1 + ·) inner.symm
  | query _ | limit _ | count => rfl

/-- **Each buffer is pinned once.** For every plan there are as many buffers pinned as there are
addresses in its record, at every depth: of arrays, of arguments, and of the roots of expressions. -/
theorem buffers_encode (ops : Plan) :
    (encode ops).buffers = PlanRecord.addresses (encode ops).record := by
  induction ops using Plan.induction with
  | step ops ih =>
    rw [encode, encodeOps_eq_each]
    exact Pinned.buffers_array_each fun op hop => buffers_encodeOp (ih op hop)

/-- The array of the operations; three buffers for the columns, which are arguments, their array and the
cells of one; four for the selection, the last two a root and its child; and the arguments of the
concatenation, above the four buffers of its own plan. -/
example :
    let written := encode [.fromMemory [⟨"id", [.int 1, .int 2]⟩],
      .select [.expr (.agg .sum (.column "id"))], .concat [.fromMemory [⟨"id", [.int 3]⟩], .count]]
    written.buffers = 13 ∧ PlanRecord.addresses written.record = 13 := by decide

end FramePlan.Wire
