import FramePlan.Proofs.Plan.Within
import FramePlan.Proofs.Wire.RoundTrip

/-!
# Records within a plan record

The record of a join and that of a concatenation hold the record of their other plan, so the records
of operations stand at every depth, as the operations do. `OpRecord.Within` is where one stands, and
`PlanRecord.Throughout` is that all of them have a property.

The two trees have one shape: the record of an operation holds the record of the plan that the
operation holds (`inner_encodeOp`). So the records within the record of a plan are those of the
operations within the plan (`within_encode_iff`), and what the record of each operation has, is had
throughout the record of the plan (`throughout_encode`).
-/
namespace FramePlan.Wire

def Buffer.stored {α : Type} : Buffer α → List α
  | .null _ => []
  | .items xs => xs

/-- The records of the plan that an operation holds, none if it holds none. -/
def OpRecord.inner : OpRecord → PlanRecord
  | .join other _ => other
  | .concat other => other
  | _ => .null 0

/-- The record is one of the plan's, or stands within a plan that one of them holds. -/
inductive OpRecord.Within (r : OpRecord) : PlanRecord → Prop
  | here {w : PlanRecord} : r ∈ w.stored → Within r w
  | inside {w : PlanRecord} {a : OpRecord} : a ∈ w.stored → Within r a.inner → Within r w

/-! ## What holds at every depth -/

namespace PlanRecord

/-- Every record of an operation, at every depth, has the property. -/
def Throughout (P : OpRecord → Prop) (w : PlanRecord) : Prop := ∀ r : OpRecord, r.Within w → P r

variable {P : OpRecord → Prop} {w : PlanRecord} {rs : List OpRecord}

theorem throughout_iff : Throughout P w ↔ ∀ r ∈ w.stored, P r ∧ Throughout P r.inner := by
  refine ⟨?_, ?_⟩
  · intro h r hr
    exact ⟨h r (.here hr), fun b hb => h b (.inside hr hb)⟩
  · intro h r hw
    cases hw with
    | here hr => exact (h r hr).1
    | inside ha hb => exact (h _ ha).2 r hb

theorem throughout_null {n : Nat} : Throughout P (.null n) :=
  throughout_iff.mpr fun _ h => absurd h List.not_mem_nil

theorem throughout_items : Throughout P (.items rs) ↔ ∀ r ∈ rs, P r ∧ Throughout P r.inner :=
  throughout_iff

end PlanRecord

/-! ## Written records -/

@[simp] theorem Pinned.stored_array {α : Type} (xs : List α) :
    (Pinned.array xs).record.stored = xs := by
  cases xs <;> rfl

/-- The writer of operations recurses into their list, which is to write each of them. -/
theorem encodeOps_eq_each (ops : List Operation) : encodeOps ops = Pinned.each encodeOp ops := by
  induction ops with
  | nil => rfl
  | cons op ops ih => rw [encodeOps, ih, Pinned.each]

theorem stored_encode (ops : Plan) :
    (encode ops).record.stored = ops.map fun op => (encodeOp op).record := by
  rw [encode, Pinned.record_bind, Pinned.stored_array, encodeOps_eq_each, Pinned.record_each]

theorem inner_encodeOp (op : Operation) :
    (encodeOp op).record.inner = (encode op.inner).record := by
  cases op <;> rfl

/-- The records within the records of a plan are those of the operations within the plan. -/
theorem within_encode_iff {r : OpRecord} {ops : Plan} :
    r.Within (encode ops).record ↔ ∃ op : Operation, op.Within ops ∧ r = (encodeOp op).record := by
  refine ⟨?_, ?_⟩
  · intro h
    generalize hw : (encode ops).record = w at h
    induction h generalizing ops with
    | here hr =>
      rw [← hw, stored_encode] at hr
      obtain ⟨op, hop, rfl⟩ := List.mem_map.mp hr
      exact ⟨op, .here hop, rfl⟩
    | inside ha _ ih =>
      rw [← hw, stored_encode] at ha
      obtain ⟨b, hb, rfl⟩ := List.mem_map.mp ha
      obtain ⟨op, hop, rfl⟩ := ih (inner_encodeOp b).symm
      exact ⟨op, .inside hb hop, rfl⟩
  · rintro ⟨op, hop, rfl⟩
    induction hop with
    | here hm => exact .here (by rw [stored_encode]; exact List.mem_map.mpr ⟨op, hm, rfl⟩)
    | @inside ops a hm _ ih =>
      refine .inside (a := (encodeOp a).record) ?_ (by rw [inner_encodeOp]; exact ih)
      rw [stored_encode]
      exact List.mem_map.mpr ⟨a, hm, rfl⟩

theorem throughout_encode {P : OpRecord → Prop} {Q : Operation → Prop}
    (each : ∀ op, Q op → P (encodeOp op).record) {ops : Plan} (h : ops.Throughout Q) :
    PlanRecord.Throughout P (encode ops).record := by
  intro r hr
  obtain ⟨op, hop, rfl⟩ := within_encode_iff.mp hr
  exact each op (h op hop)

end FramePlan.Wire
