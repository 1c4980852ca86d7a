import FramePlan.Proofs.Engine.Recording
import Mathlib.Data.List.Nodup
import Mathlib.Data.List.Perm.Basic

/-!
# Custody of handles

Who is responsible for the handles that an engine has handed out. Each is either released or held by
somebody who will release it: `Custody b r₀ l held` says that the engine `b` came from `r₀` to the link
`l`, and that the handles `held` are those that are still to be released.

`Leaves held x left` says that the conversation `x`, begun by somebody who holds `held`, leaves the
handles `left`, which depend on its answer. A plan adds the handle of its result (`submit_leaves`) and a
release uses one up (`release_leaves`). A question about a handle needs it and leaves it (`asks_leaves`),
and so does every conversation that is put together from such questions (`composes_leaves`). The handles
that a conversation does not touch are carried along.

No engine need hand out a handle only once. Where this one did, a handle that is held is not yet
released, and so the calls are disciplined.
-/
namespace FramePlan.Engine

variable {σ α β : Type}

/-! ## What a record shows -/

/-- A handle, unless it stands for no result. -/
def holding (h : Handle) : List Handle := if h = 0 then [] else [h]

def Call.subject? : Call → Option Handle
  | .height h | .width h | .render h | .release h => some h
  | .collect _ | .destroy => none

def Call.released : Call → List Handle
  | .release h => [h]
  | _ => []

def Exchange.handed (e : Exchange σ) : List Handle := e.reply.elim [] fun r => holding r.handle

def handed (history : List (Exchange σ)) : List Handle := history.flatMap Exchange.handed

def released (history : List (Exchange σ)) : List Handle := history.flatMap (·.call.released)

/-- Every call about a handle comes after the handle was handed out and before it is released. -/
def Disciplined (history : List (Exchange σ)) : Prop :=
  ∀ e earlier, e :: earlier <:+ history → ∀ h, e.call.subject? = some h →
    h ≠ 0 ∧ h ∈ handed earlier ∧ h ∉ released earlier

/-- A handle that comes with a failure is released by the next call. -/
def Prompt (history : List (Exchange σ)) : Prop :=
  ∀ e earlier, e :: earlier <:+ history → ∀ r, e.reply = some r → r.status ≠ 0 → r.handle ≠ 0 →
    ∃ e', e'.call = .release r.handle ∧ e' :: e :: earlier <:+ history

@[simp] theorem holding_zero : holding 0 = [] := rfl

theorem holding_of_ne {h : Handle} (hh : h ≠ 0) : holding h = [h] := if_neg hh

theorem mem_holding {h n : Handle} : h ∈ holding n ↔ h = n ∧ n ≠ 0 := by
  unfold holding
  split <;> simp_all

@[simp] theorem handed_cons (e : Exchange σ) (history : List (Exchange σ)) :
    handed (e :: history) = e.handed ++ handed history := rfl

@[simp] theorem released_cons (e : Exchange σ) (history : List (Exchange σ)) :
    released (e :: history) = e.call.released ++ released history := rfl

theorem handed_note (r : Recorded σ) (call : Call) (a : CollectReply) (s : σ) :
    handed (r.note call (some a) s).history = holding a.handle ++ handed r.history := rfl

theorem released_note (r : Recorded σ) {call : Call} (reply : Option CollectReply) (s : σ)
    (h : call.released = []) : released (r.note call reply s).history = released r.history :=
  congrArg (· ++ released r.history) h

theorem ne_zero_of_mem_handed {history : List (Exchange σ)} {h : Handle} (hm : h ∈ handed history) :
    h ≠ 0 := by
  obtain ⟨e, -, he⟩ := List.mem_flatMap.mp hm
  unfold Exchange.handed at he
  cases hr : e.reply with
  | none => simp [hr] at he
  | some r =>
    rw [hr] at he
    obtain ⟨rfl, hn⟩ := mem_holding.mp he
    exact hn

theorem released_subset {past history : List (Exchange σ)} (h : past <:+ history) :
    released past ⊆ released history := by
  intro n hn
  obtain ⟨e, he, hr⟩ := List.mem_flatMap.mp hn
  exact List.mem_flatMap.mpr ⟨e, h.subset he, hr⟩

/-- The calls of a record and those of a link stay the same when both get one more. -/
theorem logged_cons {e : Exchange σ} {history : List (Exchange σ)} {calls : List Call}
    (h : e.call ≠ .destroy)
    (hl : (history.map (·.call)).reverse = calls.filter (· ≠ .destroy)) :
    ((e :: history).map (·.call)).reverse = (calls ++ [e.call]).filter (· ≠ .destroy) := by
  rw [List.filter_append, ← hl, List.map_cons, List.reverse_cons]
  simp [h]

theorem Disciplined.nil : Disciplined ([] : List (Exchange σ)) := by
  intro e earlier he
  cases List.suffix_nil.mp he

theorem Disciplined.cons {history : List (Exchange σ)} {e : Exchange σ} (hd : Disciplined history)
    (he : ∀ h, e.call.subject? = some h → h ≠ 0 ∧ h ∈ handed history ∧ h ∉ released history) :
    Disciplined (e :: history) := by
  intro e' earlier hs
  obtain h | hs := List.suffix_cons_iff.mp hs
  · cases h
    exact he
  · exact hd e' earlier hs

theorem Disciplined.tail {history : List (Exchange σ)} {e : Exchange σ}
    (hd : Disciplined (e :: history)) : Disciplined history :=
  fun e' earlier hs => hd e' earlier (hs.trans (List.suffix_cons e history))

theorem Prompt.nil : Prompt ([] : List (Exchange σ)) := by
  intro e earlier he
  cases List.suffix_nil.mp he

theorem Prompt.cons {history : List (Exchange σ)} {e : Exchange σ} (hp : Prompt history)
    (he : ∀ r, e.reply = some r → r.status = 0 ∨ r.handle = 0) : Prompt (e :: history) := by
  intro e' earlier hs r hr hstatus hhandle
  obtain h | hs := List.suffix_cons_iff.mp hs
  · cases h
    exact ((he r hr).elim hstatus hhandle).elim
  · obtain ⟨n, hn, hsn⟩ := hp e' earlier hs r hr hstatus hhandle
    exact ⟨n, hn, hsn.trans (List.suffix_cons e history)⟩

theorem Prompt.cons_cons {history : List (Exchange σ)} {e e' : Exchange σ} (hp : Prompt history)
    (he : ∀ r, e.reply = some r → e'.call = .release r.handle) (he' : e'.reply = none) :
    Prompt (e' :: e :: history) := by
  intro n earlier hs r hr hstatus hhandle
  obtain h | hs := List.suffix_cons_iff.mp hs
  · cases h
    rw [he'] at hr
    cases hr
  obtain h | hs := List.suffix_cons_iff.mp hs
  · cases h
    exact ⟨e', he r hr, List.suffix_rfl⟩
  · obtain ⟨m, hm, hsm⟩ := hp n earlier hs r hr hstatus hhandle
    exact ⟨m, hm, hsm.trans ((List.suffix_cons e history).trans (List.suffix_cons e' _))⟩

/-- How an engine takes a call: with what answer to a plan, and in which state it is then. -/
inductive Takes (b : Backend σ) (s : σ) : Call → Option CollectReply → σ → Prop
  | collect (plan : Wire.PlanRecord) :
    Takes b s (.collect plan.count) (some (b.collect s plan).1) (b.collect s plan).2
  | height (h : Handle) : Takes b s (.height h) none (b.height s h).2
  | width (h : Handle) : Takes b s (.width h) none (b.width s h).2
  | render (h : Handle) : Takes b s (.render h) none (b.render s h).2
  | release (h : Handle) : Takes b s (.release h) none (b.release s h)

/-- The records that an engine comes to from one of its records. -/
inductive Genuine (b : Backend σ) (r₀ : Recorded σ) : Recorded σ → Prop
  | refl : Genuine b r₀ r₀
  | step {r : Recorded σ} {call : Call} {reply : Option CollectReply} {s : σ} :
    Genuine b r₀ r → Takes b r.state call reply s → Genuine b r₀ (r.note call reply s)

theorem Genuine.grows {b : Backend σ} {r₀ r : Recorded σ} (h : Genuine b r₀ r) :
    r₀.history <:+ r.history := by
  induction h with
  | refl => exact List.suffix_rfl
  | step _ _ ih => exact ih.trans (List.suffix_cons _ _)

/-! ## Custody -/

/-- An engine came to a link, where some handles are still to be released. -/
structure Custody (b : Backend σ) (r₀ : Recorded σ) (l : Link (Recorded σ)) (held : List Handle) :
    Prop where
  genuine : Genuine b r₀ l.state
  /-- The record has the calls that were made. -/
  logged : (l.state.history.map (·.call)).reverse = l.calls.filter (· ≠ .destroy)
  shared : (handed l.state.history).Perm (released l.state.history ++ held)
  disciplined : (handed l.state.history).Nodup → Disciplined l.state.history
  prompt : Prompt l.state.history

namespace Custody

variable {b : Backend σ} {r₀ : Recorded σ} {l : Link (Recorded σ)} {held : List Handle}

theorem fresh (b : Backend σ) (state : σ) : Custody b (.fresh state) ⟨.fresh state, []⟩ [] :=
  ⟨.refl, rfl, .refl [], fun _ => .nil, .nil⟩

theorem perm {held' : List Handle} (c : Custody b r₀ l held) (h : held.Perm held') :
    Custody b r₀ l held' :=
  { c with shared := c.shared.trans (h.append_left _) }

/-- Where every handle is handed out once, those that are held can still be asked for. -/
theorem of_mem {h : Handle} (c : Custody b r₀ l held) (hn : (handed l.state.history).Nodup)
    (hm : h ∈ held) :
    h ≠ 0 ∧ h ∈ handed l.state.history ∧ h ∉ released l.state.history := by
  have hh : h ∈ handed l.state.history := c.shared.mem_iff.mpr (List.mem_append_right _ hm)
  have hd := (List.nodup_append'.mp (c.shared.nodup_iff.mp hn)).2.2
  exact ⟨ne_zero_of_mem_handed hh, hh, fun hr => hd hr hm⟩

theorem question {call : Call} {h : Handle} {s : σ} (c : Custody b r₀ l held) (hm : h ∈ held)
    (hc : call.subject? = some h) (hr : call.released = [])
    (ht : Takes b l.state.state call none s) :
    Custody b r₀ ⟨l.state.note call none s, l.calls ++ [call]⟩ held where
  genuine := c.genuine.step ht
  logged := logged_cons (by rintro rfl; cases hc) c.logged
  shared := by simpa [Recorded.note, Exchange.handed, hr] using c.shared
  disciplined := by
    intro hn
    refine (c.disciplined hn).cons fun n hs => ?_
    obtain rfl : h = n := Option.some.inj (hc.symm.trans hs)
    exact c.of_mem hn hm
  prompt := c.prompt.cons fun r hr => nomatch hr

theorem release {h : Handle} (c : Custody b r₀ l (h :: held)) :
    Custody b r₀ ⟨(recording b).release l.state h, l.calls ++ [.release h]⟩ held where
  genuine := c.genuine.step (.release h)
  logged := logged_cons (fun h => nomatch h) c.logged
  shared := c.shared.trans List.perm_middle
  disciplined := by
    intro hn
    refine (c.disciplined hn).cons fun n hs => ?_
    obtain rfl : h = n := Option.some.inj hs
    exact c.of_mem hn (List.mem_cons_self ..)
  prompt := c.prompt.cons fun r hr => nomatch hr

theorem collect {plan : Wire.PlanRecord} {a : CollectReply × Recorded σ} (c : Custody b r₀ l held)
    (ha : (recording b).collect l.state plan = a) (h : a.1.status = 0 ∨ a.1.handle = 0) :
    Custody b r₀ ⟨a.2, l.calls ++ [.collect plan.count]⟩ (holding a.1.handle ++ held) := by
  subst ha
  constructor
  case genuine => exact c.genuine.step (.collect plan)
  case logged => exact logged_cons (fun h => nomatch h) c.logged
  case shared => exact (c.shared.append_left _).trans (List.perm_append_comm_assoc ..)
  case disciplined =>
    intro hn
    exact (c.disciplined (List.Nodup.of_append_right hn)).cons fun n hs => nomatch hs
  case prompt => exact c.prompt.cons fun r hr => by cases hr; exact h

theorem collect_release {plan : Wire.PlanRecord} {a : CollectReply × Recorded σ}
    (c : Custody b r₀ l held) (ha : (recording b).collect l.state plan = a) (h : a.1.handle ≠ 0) :
    Custody b r₀ ⟨(recording b).release a.2 a.1.handle,
      l.calls ++ [.collect plan.count] ++ [.release a.1.handle]⟩ held := by
  have hh : handed a.2.history = a.1.handle :: handed l.state.history := by
    subst ha
    exact congrArg (· ++ handed l.state.history) (holding_of_ne h)
  subst ha
  constructor
  case genuine => exact (c.genuine.step (.collect plan)).step (.release _)
  case logged => exact logged_cons (fun h => nomatch h) (logged_cons (fun h => nomatch h) c.logged)
  case shared =>
    have hs := c.shared.cons ((recording b).collect l.state plan).1.handle
    rwa [← hh] at hs
  case disciplined =>
    intro hn
    obtain ⟨hnew, hn⟩ := List.nodup_cons.mp (hh ▸ hn)
    have hd : Disciplined ((recording b).collect l.state plan).2.history :=
      (c.disciplined hn).cons fun n hs => nomatch hs
    refine hd.cons fun n hs => ?_
    obtain rfl : _ = n := Option.some.inj hs
    -- The handle is none of those released before, which were all handed out before.
    refine ⟨h, hh ▸ List.mem_cons_self, fun hr => hnew ?_⟩
    exact c.shared.mem_iff.mpr (List.mem_append_left _ hr)
  case prompt => exact c.prompt.cons_cons (fun r hr => by cases hr; rfl) rfl

/-- Word to the engine that it is no longer in use is not part of the record. -/
theorem destroy (c : Custody b r₀ l held) :
    Custody b r₀ ⟨l.state, l.calls ++ [.destroy]⟩ held :=
  { c with logged := by simpa using c.logged }

end Custody

/-! ## Conversations -/

/-- A conversation that is begun by a holder of some handles and leaves others. -/
def Leaves (b : Backend σ) (r₀ : Recorded σ) (held : List Handle) (x : Talk (Recorded σ) α)
    (left : α → List Handle) : Prop :=
  ∀ l, Custody b r₀ l held → Custody b r₀ (x l).2 (left (x l).1)

theorem Leaves.asked {b : Backend σ} {r₀ : Recorded σ} {held : List Handle} {call : Call} {h : Handle}
    {answer : Recorded σ → α × Recorded σ} (hm : h ∈ held) (hc : call.subject? = some h)
    (hr : call.released = [])
    (ha : ∀ r, ∃ s, (answer r).2 = r.note call none s ∧ Takes b r.state call none s) :
    Leaves b r₀ held (ask call answer) fun _ => held := by
  intro l hl
  obtain ⟨s, hn, ht⟩ := ha l.state
  rw [ask_apply, hn]
  exact hl.question hm hc hr ht

section Client

variable {b : Backend σ} {r₀ : Recorded σ} {held : List Handle} {c : Collected}

/-- What is held of the answer to a plan. -/
def holdingOf : Except Error Collected → List Handle
  | .ok c => holding c.handle
  | .error _ => []

theorem submit_leaves (b : Backend σ) (r₀ : Recorded σ) (held : List Handle) (f : Frame) :
    Leaves b r₀ held (submit (recording b) f) fun r => holdingOf r ++ held := by
  simp only [submit]
  split
  · exact fun _ hl => hl
  rename_i ops _
  intro l hl
  rw [talk_bind, ask_apply]
  generalize ha : (recording b).collect l.state (Wire.encode ops).record = a
  by_cases hs : a.1.status = 0 <;> by_cases hh : a.1.handle = 0
  · -- Success without a handle.
    rw [if_neg (not_not.mpr hs), if_pos hh]
    have hc := hl.collect ha (.inl hs)
    rw [hh] at hc
    exact hc
  · -- Success.
    rw [if_neg (not_not.mpr hs), if_neg hh]
    exact hl.collect ha (.inl hs)
  · -- A failure without a handle.
    rw [if_pos hs, if_neg (not_not.mpr hh)]
    have hc := hl.collect ha (.inr hh)
    rw [hh] at hc
    exact hc
  · -- A failure with a handle.
    rw [if_pos hs, if_pos hh]
    exact hl.collect_release ha hh

theorem release_leaves (b : Backend σ) (r₀ : Recorded σ) (held : List Handle) (c : Collected) :
    Leaves b r₀ (holding c.handle ++ held) (release (recording b) c) fun _ => held := by
  by_cases hh : c.handle = 0
  · have hr : c.isReleased = true := beq_iff_eq.mpr hh
    intro l hl
    rw [hh] at hl
    simpa [release, hr] using hl
  · have hr : c.isReleased = false := beq_eq_false_iff_ne.mpr hh
    intro l hl
    rw [holding_of_ne hh] at hl
    have hl' := hl.release
    simp only [release, hr, Bool.not_false, if_true, talk_bind, talk_pure]
    exact hl'

theorem mem_released_release (hc : c.handle ≠ 0) (l : Link (Recorded σ)) :
    c.handle ∈ released (release (recording b) c l).2.state.history := by
  have hr : c.isReleased = false := beq_eq_false_iff_ne.mpr hc
  simp only [release, hr]
  exact List.mem_append_left _ (List.mem_singleton_self _)

/-- What asks about handles that are held leaves what is held. -/
theorem composes_leaves (b : Backend σ) (r₀ : Recorded σ) (held : List Handle) :
    Composes fun α (x _ : Talk (Recorded σ) α) => Leaves b r₀ held x fun _ => held where
  pure _ _ hl := hl
  bind hx hf l hl := hf _ _ (hx l hl)

theorem asks_leaves (hc : holding c.handle ⊆ held) (hr : c.isReleased = false) :
    Asks (fun α (x _ : Talk (Recorded σ) α) => Leaves b r₀ held x fun _ => held) (recording b)
      (recording b) c.handle := by
  have hm : c.handle ∈ held := hc (mem_holding.mpr ⟨rfl, beq_eq_false_iff_ne.mp hr⟩)
  exact ⟨.asked hm rfl rfl fun _ => ⟨_, rfl, .height _⟩, .asked hm rfl rfl fun _ => ⟨_, rfl, .width _⟩,
    .asked hm rfl rfl fun _ => ⟨_, rfl, .render _⟩⟩

end Client
end FramePlan.Engine
