import FramePlan.Engine.Client

/-!
# Talking to an engine

How a conversation with an engine unfolds, and what comes of handing in a plan: one lemma for each
way in which the engine can answer. Nothing is assumed of the engine here.

A relation of conversations with two engines that is kept by putting conversations together
(`Composes`) holds of what a client says to the two if it holds of the single calls (`Alike`). A
property of conversations with one engine is such a relation that looks at one side only.
-/
namespace FramePlan.Engine

variable {σ τ α β : Type}

@[simp] theorem talk_pure (a : α) (l : Link σ) : (pure a : Talk σ α) l = (a, l) := rfl

@[simp] theorem talk_bind (x : Talk σ α) (f : α → Talk σ β) (l : Link σ) :
    (x >>= f) l = f (x l).1 (x l).2 := rfl

@[simp] theorem ask_apply (call : Call) (answer : σ → α × σ) (l : Link σ) :
    ask call answer l = ((answer l.state).1, ⟨(answer l.state).2, l.calls ++ [call]⟩) := rfl

/-! ## Handing in a plan -/

theorem submit_of_error (b : Backend σ) {f : Frame} {e : Error} (h : f.plan = .error e)
    (l : Link σ) : submit b f l = (.error e, l) := by
  simp only [submit, h, talk_pure]

theorem submit_of_handle (b : Backend σ) {f : Frame} {ops : Plan} {h : Handle} {slot : Slot}
    {s : σ} {l : Link σ} (hf : f.plan = .ok ops) (hh : h ≠ 0)
    (hc : b.collect l.state (Wire.encode ops).record = (⟨0, h, slot⟩, s)) :
    submit b f l =
      (.ok ⟨h⟩, ⟨s, l.calls ++ [.collect (Wire.encode ops).record.count]⟩) := by
  simp [submit, hf, hc, hh]

theorem submit_of_status (b : Backend σ) {f : Frame} {ops : Plan} {status : Int32} {slot : Slot}
    {s : σ} {l : Link σ} (hf : f.plan = .ok ops) (hs : status ≠ 0)
    (hc : b.collect l.state (Wire.encode ops).record = (⟨status, 0, slot⟩, s)) :
    submit b f l =
      (.error (failure status slot),
        ⟨s, l.calls ++ [.collect (Wire.encode ops).record.count]⟩) := by
  simp [submit, hf, hc, hs]

/-! ## Asking for a result -/

theorem questioned_of_ne {h : Handle} (hh : h ≠ 0) (question : Handle → Talk σ (Except Error α)) :
    questioned ⟨h⟩ question = question h := by
  have hr : Collected.isReleased ⟨h⟩ = false := beq_eq_false_iff_ne.mpr hh
  simp only [questioned, hr, Bool.false_eq_true, if_false]

theorem questioned_of_released {c : Collected} (hc : c.isReleased)
    (question : Handle → Talk σ (Except Error α)) :
    questioned c question = pure (.error .nullHandle) := by
  rw [questioned, if_pos hc]

theorem release_fst (b : Backend σ) (c : Collected) (l : Link σ) : (release b c l).1 = ⟨0⟩ := by
  unfold release
  split <;> rfl

/-! ## Two conversations -/

/-- A relation of conversations with two engines that is kept when conversations are put together. -/
structure Composes (R : (α : Type) → Talk σ α → Talk τ α → Prop) : Prop where
  pure {α : Type} (a : α) : R α (Pure.pure a) (Pure.pure a)
  bind {α β : Type} {x : Talk σ α} {y : Talk τ α} {f : α → Talk σ β} {g : α → Talk τ β} :
    R α x y → (∀ a, R β (f a) (g a)) → R β (x >>= f) (y >>= g)

/-- The questions about a handle are related. -/
structure Asks (R : (α : Type) → Talk σ α → Talk τ α → Prop) (b : Backend σ) (b' : Backend τ)
    (h : Handle) : Prop where
  height : R SizeReply (ask (.height h) (b.height · h)) (ask (.height h) (b'.height · h))
  width : R SizeReply (ask (.width h) (b.width · h)) (ask (.width h) (b'.width · h))
  render : R RenderReply (ask (.render h) (b.render · h)) (ask (.render h) (b'.render · h))

/-- Every call is related, and so is what is put together from calls. -/
structure Alike (R : (α : Type) → Talk σ α → Talk τ α → Prop) (b : Backend σ) (b' : Backend τ) : Prop
    extends Composes R where
  asks (h : Handle) : Asks R b b' h
  collect (plan : Wire.PlanRecord) : R CollectReply
    (ask (.collect plan.count) (b.collect · plan)) (ask (.collect plan.count) (b'.collect · plan))
  release (h : Handle) : R Unit (tell (.release h) (b.release · h)) (tell (.release h) (b'.release · h))

section

variable {R : (α : Type) → Talk σ α → Talk τ α → Prop} {b : Backend σ} {b' : Backend τ}

namespace Composes

variable (hR : Composes R) {c : Collected} (hc : c.isReleased = false → Asks R b b' c.handle)

include hR

theorem questioned {q : Handle → Talk σ (Except Error α)} {q' : Handle → Talk τ (Except Error α)}
    (h : c.isReleased = false → R _ (q c.handle) (q' c.handle)) :
    R _ (Engine.questioned c q) (Engine.questioned c q') := by
  unfold Engine.questioned
  split
  · exact hR.pure _
  · exact h (Bool.eq_false_iff.mpr ‹_›)

include hc

theorem height : R _ (Engine.height b c) (Engine.height b' c) :=
  hR.questioned fun hr => hR.bind (hc hr).height fun _ => hR.pure _

theorem width : R _ (Engine.width b c) (Engine.width b' c) :=
  hR.questioned fun hr => hR.bind (hc hr).width fun _ => hR.pure _

theorem render : R _ (Engine.render b c) (Engine.render b' c) :=
  hR.questioned fun hr => hR.bind (hc hr).render fun _ => hR.pure _

theorem shape : R _ (Engine.shape b c) (Engine.shape b' c) := by
  refine hR.bind (hR.height hc) fun rows => ?_
  cases rows with
  | error e => exact hR.pure _
  | ok rows =>
    refine hR.bind (hR.width hc) fun columns => ?_
    cases columns with
    | error e => exact hR.pure _
    | ok columns => exact hR.pure _

theorem display : R _ (Engine.display b c) (Engine.display b' c) := by
  refine hR.bind (hR.render hc) fun text => ?_
  cases text with
  | error e => exact hR.pure _
  | ok text => exact hR.pure _

end Composes

namespace Alike

variable (h : Alike R b b')

include h

theorem submitted (f : Frame) : R _ (submit b f) (submit b' f) := by
  simp only [submit]
  split
  · exact h.pure _
  refine h.bind (h.collect _) fun reply => ?_
  -- A failure that comes with a handle releases it before it is reported.
  split
  · split
    · exact h.bind (h.release _) fun _ => h.pure _
    · exact h.bind (h.pure _) fun _ => h.pure _
  · split
    · exact h.pure _
    · exact h.pure _

theorem released (c : Collected) : R _ (Engine.release b c) (Engine.release b' c) := by
  unfold Engine.release
  split
  · exact h.bind (h.release _) fun _ => h.pure _
  · exact h.bind (h.pure _) fun _ => h.pure _

end Alike
end
end FramePlan.Engine
