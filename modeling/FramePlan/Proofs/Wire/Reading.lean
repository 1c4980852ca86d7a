import FramePlan.Proofs.Outcome
import FramePlan.Wire.Decode

/-!
# Readers of arrays

The readers of nodes and of operations recurse into an array, so they take it apart themselves. Here
they are put as what they do: read the array, read each of its records, and put the results together.
-/
namespace FramePlan.Wire

theorem readEach_eq_ok {α β : Type} {f : α → Reading β} : ∀ {as : List α} {bs : List β},
    readEach f as = .ok bs ↔ List.Forall₂ (fun a b => f a = .ok b) as bs
  | [], bs => by simp [readEach, eq_comm]
  | a :: as, bs => by
    rw [List.forall₂_cons_left_iff]
    simp only [readEach, bind_eq_ok, pure_eq_ok, Except.ok.injEq, readEach_eq_ok]
    refine ⟨?_, ?_⟩
    · intro h
      obtain ⟨b, hb, cs, hcs, rfl⟩ := h
      exact ⟨b, cs, hb, hcs, rfl⟩
    · intro h
      obtain ⟨b, cs, hb, hcs, rfl⟩ := h
      exact ⟨b, hb, cs, hcs, rfl⟩

theorem decodeNode_mk (h : NodeHead) (children : Buffer Node) :
    decodeNode (.mk h children) = (do
      let cs ← children.read
      let operands ← decodeNodes cs
      assemble h operands) := by
  cases children with
  | items cs => rw [decodeNode, Buffer.read, ok_bind]
  | null n =>
    rw [decodeNode, Buffer.read]
    split <;> rfl

theorem decodeOp_join (plan : PlanRecord) (a : JoinRecord) :
    decodeOp (.join plan a) = (do
      let how ← orFault (.joinType a.how) (JoinType.ofCode? a.how)
      let records ← plan.read
      let other ← decodeOps records
      assembleJoin how a other) := by
  cases plan with
  | items records => rw [decodeOp, Buffer.read]; rfl
  | null n =>
    rw [decodeOp, Buffer.read]
    congr
    funext how
    split <;> rfl

theorem decodeOp_concat (plan : PlanRecord) :
    decodeOp (.concat plan) = (do
      let records ← plan.read
      let other ← decodeOps records
      pure (.concat other)) := by
  cases plan with
  | items records => rw [decodeOp, Buffer.read, ok_bind]
  | null n =>
    rw [decodeOp, Buffer.read]
    split <;> rfl

end FramePlan.Wire
