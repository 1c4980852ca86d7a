import FramePlan.Engine.Session
import FramePlan.Proofs.Engine.Client

/-!
# Recording an engine

An engine keeps its own state, and a caller keeps the calls it made; neither shows what the engine
answered earlier. `recording b` is the engine `b` with a record beside its state: every exchange, with
the answer to a plan and the state that the engine was in afterwards, newest first.

Recording does not change what is said. `Mirrors x y` says so of two conversations, and it holds of
all that a client says to the two engines (`alike_recording`), so a session with the recording engine gives the
answers, makes the calls and keeps the results of the session with the engine itself (`run_forget`).
What is shown of the record is therefore shown of `b`, whatever `b` answers.
-/
namespace FramePlan.Engine

variable {σ α β : Type}

structure Exchange (σ : Type) where
  call : Call
  /-- The answer to a plan. -/
  reply : Option CollectReply
  /-- The engine's state after the call. -/
  state : σ

/-- An engine's state with the exchanges that led to it, newest first. -/
structure Recorded (σ : Type) where
  state : σ
  history : List (Exchange σ)

namespace Recorded

def fresh (state : σ) : Recorded σ := ⟨state, []⟩

def note (r : Recorded σ) (call : Call) (reply : Option CollectReply) (state : σ) : Recorded σ :=
  ⟨state, ⟨call, reply, state⟩ :: r.history⟩

end Recorded

/-- An engine that keeps a record of its exchanges. -/
def recording (b : Backend σ) : Backend (Recorded σ) where
  collect r plan :=
    let a := b.collect r.state plan
    (a.1, r.note (.collect plan.count) (some a.1) a.2)
  height r h :=
    let a := b.height r.state h
    (a.1, r.note (.height h) none a.2)
  width r h :=
    let a := b.width r.state h
    (a.1, r.note (.width h) none a.2)
  render r h :=
    let a := b.render r.state h
    (a.1, r.note (.render h) none a.2)
  release r h := r.note (.release h) none (b.release r.state h)

/-! ## Conversations -/

def Link.forget (l : Link (Recorded σ)) : Link σ := ⟨l.state.state, l.calls⟩

/-- The second conversation is the first one without the record. -/
def Mirrors (x : Talk (Recorded σ) α) (y : Talk σ α) : Prop :=
  ∀ l, y l.forget = ((x l).1, (x l).2.forget)

namespace Mirrors

theorem asked (call : Call) {answer : Recorded σ → α × Recorded σ} {answer' : σ → α × σ}
    (h : ∀ r, answer' r.state = ((answer r).1, (answer r).2.state)) :
    Mirrors (ask call answer) (ask call answer') := by
  intro l
  have hl : answer' l.forget.state = _ := h l.state
  rw [ask_apply, hl]
  rfl

theorem told (call : Call) {effect : Recorded σ → Recorded σ} {effect' : σ → σ}
    (h : ∀ r, effect' r.state = (effect r).state) :
    Mirrors (tell call effect) (tell call effect') := by
  intro l
  have hl : effect' l.forget.state = _ := h l.state
  rw [tell, hl]
  rfl

end Mirrors

theorem alike_recording (b : Backend σ) : Alike (fun _ => Mirrors) (recording b) b where
  pure _ _ := rfl
  bind {_ _ x y f g} hx hf := by
    intro l
    rw [talk_bind, hx l]
    exact hf (x l).1 (x l).2
  asks _ := ⟨.asked _ fun _ => rfl, .asked _ fun _ => rfl, .asked _ fun _ => rfl⟩
  collect _ := .asked _ fun _ => rfl
  release _ := .told _ fun _ => rfl

/-! ## Sessions -/

namespace Session

variable {b : Backend σ} {s : Session (Recorded σ)}

def forget (s : Session (Recorded σ)) : Session σ := ⟨s.link.forget, s.results, s.owners, s.destroys⟩

theorem converse_forget {x : Talk (Recorded σ) α} {y : Talk σ α} (h : Mirrors x y) :
    s.forget.converse y = ((s.converse x).1, (s.converse x).2.forget) := by
  have hl : y s.forget.link = _ := h s.link
  rw [converse, hl]
  rfl

theorem settle_forget (s : Session (Recorded σ)) : s.forget.settle = s.settle.forget := by
  have hi : (s.forget.isIdle && s.forget.destroys) = (s.isIdle && s.destroys) := rfl
  have ht : Mirrors (tell .destroy id : Talk (Recorded σ) Unit) (tell .destroy id) :=
    .told .destroy fun _ => rfl
  simp only [settle, hi]
  split
  · rw [converse_forget ht]
  · rfl

theorem drop_forget (s : Session (Recorded σ)) (name : String) :
    s.forget.drop b name = (s.drop (recording b) name).forget := by
  have hr : s.forget.results = s.results := rfl
  simp only [drop, hr]
  split
  · rfl
  · rename_i c _
    rw [converse_forget ((alike_recording b).released c), ← settle_forget]
    rfl

theorem disown_forget (s : Session (Recorded σ)) (owner : String) :
    s.forget.disown owner = (s.disown owner).forget := by
  have ho : s.forget.owners = s.owners := rfl
  simp only [disown, ho]
  split
  · rw [← settle_forget]
    rfl
  · rfl

theorem step_forget (c : Command) :
    s.forget.step b c = ((s.step (recording b) c).1, (s.step (recording b) c).2.forget) := by
  have hs (name) : s.forget.result name = s.result name := rfl
  have alike := alike_recording b
  have asks (name) (_ : (s.result name).isReleased = false) := alike.asks (s.result name).handle
  cases c with
  | collect name owner frame =>
    simp only [step, converse_forget (alike.submitted frame)]
    obtain ⟨e | c, s'⟩ := s.converse (submit (recording b) frame)
    · rfl
    · -- The result that had the name is released after the call that made the new one.
      have hs' : s'.forget.result name = s'.result name := rfl
      simp only [hs', converse_forget (alike.released _)]
      rfl
  | height name =>
    simp only [step, hs, converse_forget (alike.height (asks name))]
  | width name =>
    simp only [step, hs, converse_forget (alike.width (asks name))]
  | shape name =>
    simp only [step, hs, converse_forget (alike.shape (asks name))]
  | render name =>
    simp only [step, hs, converse_forget (alike.render (asks name))]
  | display name =>
    simp only [step, hs, converse_forget (alike.display (asks name))]
  | describe name => rfl
  | inspect name => rfl
  | release name =>
    have hr : s.forget.results = s.results := rfl
    simp only [step, hr]
    split
    · rfl
    · rename_i c _
      rw [converse_forget ((alike_recording b).released c)]
      rfl
  | drop name => exact congrArg (Prod.mk Answer.nothing) (drop_forget s name)
  | share owner copy => rfl
  | disown owner => exact congrArg (Prod.mk Answer.nothing) (disown_forget s owner)

/-- **Recording does not change a session.** -/
theorem run_forget (cs : List Command) (s : Session (Recorded σ)) :
    s.forget.run b cs = ((s.run (recording b) cs).1, (s.run (recording b) cs).2.forget) := by
  induction cs generalizing s with
  | nil => rfl
  | cons c cs ih =>
    rw [run, step_forget]
    simp only [ih]
    rfl

end Session
end FramePlan.Engine
