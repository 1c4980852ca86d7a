import FramePlan.Proofs.Frame.Reachable
import FramePlan.Proofs.Wire.Within

/-!
# The records of built plans

A join record has one count for two key arrays, and a reader takes it for both. The count is that of
the left keys, so a record is sound only if there are as many right keys, and nothing in the writer
sees to that: builder calls do, when they check the specification of a join.

Every record within the records of a plan, at every depth, is that of an operation within the plan
(`within_encode_iff`). So what builder calls check of the operations holds of the records
(`built_plan_checked`), and a reader accepts them.
-/
namespace FramePlan.Wire

/-- Both key arrays hold names, and exactly as many as the record counts. -/
def JoinRecord.KeysCounted (r : JoinRecord) : Prop :=
  ∃ left right : List String,
    (r.leftOn.getD [] = left.map borrow ∧ left.length = r.keys) ∧
      r.rightOn.getD [] = right.map borrow ∧ right.length = r.keys

theorem getD_keyAddress (names : List String) :
    (keyAddress (encodeNames names).record).getD [] = names.map borrow := by
  cases names <;> rfl

theorem keysCounted_of_encodeOp {op : Operation} (pairs : op.HasPairs) {other : PlanRecord}
    {args : JoinRecord} (h : .join other args = (encodeOp op).record) : args.KeysCounted := by
  cases op with
  | join plan spec =>
    simp only [encodeOp, Pinned.record_bind, Pinned.record_single, OpRecord.join.injEq] at h
    obtain ⟨-, rfl⟩ := h
    exact ⟨spec.leftOn, spec.rightOn, ⟨getD_keyAddress _, rfl⟩, getD_keyAddress _, pairs.symm⟩
  | _ => cases h

end FramePlan.Wire

namespace FramePlan.Frame

open Wire

/-- **Built plans are sound at every depth, and so are their records.** In the plan of a frame that
builder calls make, every join has a specification that passes the check: as many left keys as right
keys, and no key exactly for a cross join. In-memory columns are there and of one length. In the
records of the plan, the two key arrays of a join hold as many names as the one count says, and a
reader takes the records. -/
theorem built_plan_checked {f : Frame} {ops : Plan} (built : f.Reachable) (hf : f.plan = .ok ops) :
    (∀ other spec, (Operation.join other spec).Within ops →
      spec.check = .ok () ∧ spec.leftOn.length = spec.rightOn.length ∧
        (spec.how = .cross ↔ spec.leftOn = [])) ∧
    (∀ columns, (Operation.fromMemory columns).Within ops →
      columns ≠ [] ∧ ∀ c ∈ columns, ∀ d ∈ columns, c.values.length = d.values.length) ∧
    (∀ other args, (OpRecord.join other args).Within (encode ops).record → args.KeysCounted) ∧
    decode (some (encode ops).record) = .ok ops.normal := by
  have checked := built.checked ops hf
  have paired := built.keysPaired hf
  refine ⟨?_, ?_, ?_, ?_⟩
  · intro other spec hw
    have valid : spec.Valid := checked _ hw
    exact ⟨(JoinSpec.check_eq_ok_iff spec).mpr valid, valid⟩
  · intro columns hw
    exact checked _ hw
  · intro other args hw
    obtain ⟨op, hop, hr⟩ := within_encode_iff.mp hw
    exact keysCounted_of_encodeOp (paired op hop) hr
  · exact (decode_record ops).trans (decodeOps_encodeOps ops paired)

def pairColumn : Frame := ofColumns [⟨"k", [.int 1, .int 2]⟩]

def doubledKey : JoinSpec := { JoinSpec.on ["k", "k"] with how := .outer }

/-- The column under its join with itself. -/
def nestedJoin : Frame := pairColumn.concat (pairColumn.join pairColumn doubledKey)

/-- The join stands inside the concatenation, and so does its record, with two keys on either
    side. -/
theorem built_plan_checked_nested :
    doubledKey.check = .ok () ∧
    (∃ other args, (OpRecord.join other args).Within (encode nestedJoin.operations).record ∧
      args.keys = 2 ∧ args.KeysCounted) ∧
    decode (some (encode nestedJoin.operations).record) = .ok nestedJoin.operations := by
  have column : pairColumn.Reachable := .ofColumns _
  have built : nestedJoin.Reachable := .concat column (.join doubledKey column column)
  have within : (Operation.join pairColumn.operations doubledKey).Within nestedJoin.operations :=
    .inside (a := .concat (pairColumn.join pairColumn doubledKey).operations)
      (List.mem_append_right _ List.mem_cons_self)
      (.here (List.mem_append_right _ List.mem_cons_self))
  have sound : nestedJoin.plan = .ok nestedJoin.operations := rfl
  obtain ⟨joins, -, records, read⟩ := built_plan_checked built sound
  refine ⟨(joins _ _ within).1, ⟨_, _, within_encode_iff.mpr ⟨_, within, rfl⟩, rfl, ?_⟩, read⟩
  exact records _ _ (within_encode_iff.mpr ⟨_, within, rfl⟩)

end FramePlan.Frame
