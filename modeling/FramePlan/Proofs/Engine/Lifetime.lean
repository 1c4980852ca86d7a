import FramePlan.Proofs.Engine.Release

/-!
# How long an engine is kept

An engine is in use as long as it has an owner or a result. It is told once that it is no longer in
use (`Call.destroy`), and nothing is said to it afterwards.

1. Conversations with an engine never say so themselves (`Quiet`): only the end of the last user does.
2. A session is `Timely` if the engine was told just when nothing uses it, with the last call of all.
   A command keeps this (`Timely.step`), and so does a run (`Timely.run`).
3. A session without users is at its end: what could still be said changes nothing (`run_of_idle`).

The commands are those of a program that has what it uses: who collects a frame, or makes another
owner, is an owner (`Owned`). Results need no such condition, since a result that does not exist
counts as released.
-/
namespace FramePlan.Engine

variable {σ α β : Type}

/-! ## Owners -/

namespace Command

def ownersAfter (owners : List String) : Command → List String
  | .share _ copy => copy :: owners.filter (· != copy)
  | .disown owner => owners.filter (· != owner)
  | _ => owners

def OwnedBy (owners : List String) : Command → Prop
  | .collect _ owner _ => owner ∈ owners
  | .share owner _ => owner ∈ owners
  | _ => True

instance (owners : List String) : (c : Command) → Decidable (c.OwnedBy owners)
  | .collect _ owner _ => inferInstanceAs (Decidable (owner ∈ owners))
  | .share owner _ => inferInstanceAs (Decidable (owner ∈ owners))
  | .height _ | .width _ | .shape _ | .render _ | .display _ | .describe _ | .inspect _ | .release _
  | .drop _ | .disown _ => inferInstanceAs (Decidable True)

def Owned : List String → List Command → Prop
  | _, [] => True
  | owners, c :: cs => c.OwnedBy owners ∧ Owned (c.ownersAfter owners) cs

instance decidableOwned : (owners : List String) → (cs : List Command) → Decidable (Owned owners cs)
  | _, [] => inferInstanceAs (Decidable True)
  | owners, c :: cs =>
    have := decidableOwned (c.ownersAfter owners) cs
    inferInstanceAs (Decidable (c.OwnedBy owners ∧ Owned (c.ownersAfter owners) cs))

end Command

open Command

/-! ## Conversations -/

/-- The conversation does not tell the engine that it is no longer in use. -/
def Quiet (x : Talk σ α) : Prop := ∀ l, .destroy ∉ l.calls → .destroy ∉ (x l).2.calls

theorem quiet_ask {call : Call} (h : call ≠ .destroy) (answer : σ → α × σ) : Quiet (ask call answer) := by
  intro l hl
  rw [ask_apply]
  simp [hl, h.symm]

theorem alike_quiet (b : Backend σ) : Alike (fun _ x _ => Quiet x) b b where
  pure _ _ h := h
  bind hx hf l h := hf _ _ (hx l h)
  asks _ := ⟨quiet_ask (by simp) _, quiet_ask (by simp) _, quiet_ask (by simp) _⟩
  collect _ := quiet_ask (by simp) _
  release h := by
    intro l hl
    rw [tell]
    simp [hl]

namespace Session

variable {b : Backend σ} {s : Session σ} {c : Command} {cs : List Command}

/-! ## Users -/

theorem isIdle_iff : s.isIdle = true ↔ s.results = [] ∧ s.owners = [] := by
  simp [isIdle]

theorem settle_owners (s : Session σ) : s.settle.owners = s.owners := by
  unfold settle
  split <;> rfl

theorem drop_owners (s : Session σ) (name : String) : (s.drop b name).owners = s.owners := by
  unfold drop
  split
  · rfl
  · exact settle_owners _

theorem disown_owners (s : Session σ) (owner : String) :
    (s.disown owner).owners = s.owners.filter (· != owner) := by
  unfold disown
  split
  · exact settle_owners _
  · rename_i h
    refine (List.filter_eq_self.mpr fun o ho => bne_iff_ne.mpr ?_).symm
    rintro rfl
    exact h ho

/-- The owners after a command do not depend on the engine. -/
theorem step_owners (s : Session σ) (c : Command) :
    (s.step b c).2.owners = c.ownersAfter s.owners := by
  cases c with
  | collect name owner frame =>
    simp only [step, converse]
    generalize submit b frame s.link = r
    obtain ⟨e | c, l⟩ := r <;> rfl
  | release name =>
    simp only [step]
    split <;> rfl
  | drop name => exact drop_owners s name
  | disown owner => exact disown_owners s owner
  | height _ | width _ | shape _ | render _ | display _ | describe _ | inspect _ | share _ _ => rfl

/-- The commands of a run that are still to come have their owners, if all commands do. -/
theorem owned_append {ds : List Command} (hcs : Owned s.owners (cs ++ ds)) :
    Owned s.owners cs ∧ Owned (s.run b cs).2.owners ds := by
  induction cs generalizing s with
  | nil => exact ⟨trivial, hcs⟩
  | cons c cs ih =>
    obtain ⟨hc, hcs⟩ := hcs
    rw [← step_owners (b := b)] at hcs
    obtain ⟨hfirst, hrest⟩ := ih hcs
    rw [step_owners] at hfirst
    exact ⟨⟨hc, hfirst⟩, hrest⟩

/-! ## A session without users -/

theorem step_of_idle (idle : s.isIdle = true) (hc : c.OwnedBy s.owners) : (s.step b c).2 = s := by
  obtain ⟨hr, ho⟩ := isIdle_iff.mp idle
  have hlookup (name : String) : s.results.lookup name = none := by rw [hr]; rfl
  have hresult (name : String) : s.result name = ⟨0⟩ := by rw [result, hlookup]; rfl
  have released (name : String) : (s.result name).isReleased := by rw [hresult]; rfl
  have asking (name : String) {question : Command} (hq : question ∈ Command.questions name) :
      (s.step b question).2 = s := by
    rw [step_question_of_released (released name) question hq]
  cases c with
  | collect name owner frame =>
    rw [OwnedBy, ho] at hc
    cases hc
  | share owner copy =>
    rw [OwnedBy, ho] at hc
    cases hc
  | height name => exact asking name (by simp [Command.questions])
  | width name => exact asking name (by simp [Command.questions])
  | shape name => exact asking name (by simp [Command.questions])
  | render name => exact asking name (by simp [Command.questions])
  | display name =>
    simp only [step, display, render, questioned_of_released (released name)]
    rfl
  | describe name => rfl
  | inspect name => rfl
  | release name => simp only [step, hlookup]
  | drop name => simp only [step, drop, hlookup]
  | disown owner =>
    have hno : owner ∉ s.owners := by simp [ho]
    simp only [step, disown, if_neg hno]

theorem run_of_idle (idle : s.isIdle = true) (hcs : Owned s.owners cs) : (s.run b cs).2 = s := by
  induction cs with
  | nil => rfl
  | cons c cs ih =>
    obtain ⟨hc, hcs⟩ := hcs
    have hstep : (s.step b c).2 = s := step_of_idle idle hc
    have howners : c.ownersAfter s.owners = s.owners := by rw [← step_owners (b := b), hstep]
    rw [howners] at hcs
    calc (s.run b (c :: cs)).2
      _ = ((s.step b c).2.run b cs).2 := rfl
      _ = (s.run b cs).2 := by rw [hstep]
      _ = s := ih hcs

/-! ## The last call -/

/-- The engine wants to be told that it is no longer in use. It was told just when nothing uses it, and
    with the last call that it got. -/
structure Timely (s : Session σ) : Prop where
  wanted : s.destroys = true
  used : s.isIdle = false → .destroy ∉ s.link.calls
  unused : s.isIdle = true → ∃ before, s.link.calls = before ++ [.destroy] ∧ .destroy ∉ before

theorem timely_start (state : σ) (owner : String) : Timely (start state owner true) :=
  ⟨rfl, fun _ => List.not_mem_nil, fun h => nomatch h⟩

theorem timely_of_used (wanted : s.destroys = true) (used : s.isIdle = false)
    (h : .destroy ∉ s.link.calls) : Timely s := by
  refine ⟨wanted, fun _ => h, ?_⟩
  intro hi
  rw [used] at hi
  cases hi

theorem timely_settle (wanted : s.destroys = true) (h : .destroy ∉ s.link.calls) :
    Timely s.settle := by
  unfold settle
  rw [wanted, Bool.and_true]
  cases hi : s.isIdle with
  | true =>
    refine ⟨wanted, ?_, fun _ => ⟨s.link.calls, rfl, h⟩⟩
    intro hn
    exact absurd (hi.symm.trans hn) (by decide)
  | false => exact timely_of_used wanted hi h

namespace Timely

theorem converse {x : Talk σ α} (h : Timely s) (used : s.isIdle = false) (hx : Quiet x) :
    Timely (s.converse x).2 :=
  timely_of_used h.wanted used (hx s.link (h.used used))

theorem drop (h : Timely s) (name : String) : Timely (s.drop b name) := by
  unfold Session.drop
  split
  · exact h
  · -- The result was in use, so the engine was not told before.
    rename_i r hr
    have hne : s.results ≠ [] := by
      intro hnil
      rw [hnil] at hr
      cases hr
    have used : s.isIdle = false := by simp [isIdle, hne]
    exact timely_settle h.wanted ((alike_quiet b).released r s.link (h.used used))

theorem disown (h : Timely s) (owner : String) : Timely (s.disown owner) := by
  unfold Session.disown
  split
  · rename_i ho
    have used : s.isIdle = false := by simp [isIdle, List.ne_nil_of_mem ho]
    exact timely_settle h.wanted (h.used used)
  · exact h

/-- **A command keeps the engine as long as it is used.** -/
theorem step (h : Timely s) (hc : c.OwnedBy s.owners) : Timely (s.step b c).2 := by
  cases used : s.isIdle with
  | true =>
    rw [step_of_idle used hc]
    exact h
  | false =>
    have alike := alike_quiet b
    have asks (name) (_ : (s.result name).isReleased = false) := alike.asks (s.result name).handle
    cases c with
    | collect name owner frame =>
      have hquiet := alike.submitted frame s.link (h.used used)
      simp only [Session.step, Session.converse]
      generalize submit b frame s.link = r at hquiet ⊢
      obtain ⟨e | c, l⟩ := r
      · exact timely_of_used h.wanted used hquiet
      · -- The new result is a user, whatever became of the one that had the name.
        exact timely_of_used h.wanted rfl (alike.released _ l hquiet)
    | release name =>
      simp only [Session.step]
      split
      · exact h
      · exact timely_of_used h.wanted rfl (alike.released _ s.link (h.used used))
    | share owner copy => exact timely_of_used h.wanted (Bool.and_false _) (h.used used)
    | drop name => exact h.drop name
    | disown owner => exact h.disown owner
    | height name => exact h.converse used (alike.height (asks name))
    | width name => exact h.converse used (alike.width (asks name))
    | shape name => exact h.converse used (alike.shape (asks name))
    | render name => exact h.converse used (alike.render (asks name))
    | display name => exact h.converse used (alike.display (asks name))
    | describe name => exact h
    | inspect name => exact h

/-- **A run keeps the engine as long as it is used.** -/
theorem run (h : Timely s) (hcs : Owned s.owners cs) : Timely (s.run b cs).2 := by
  induction cs generalizing s with
  | nil => exact h
  | cons c cs ih =>
    obtain ⟨hc, hcs⟩ := hcs
    rw [← step_owners (b := b)] at hcs
    exact ih (h.step hc) hcs

theorem idle_of_told (h : Timely s) (told : .destroy ∈ s.link.calls) : s.isIdle = true := by
  cases hi : s.isIdle with
  | true => rfl
  | false => exact absurd told (h.used hi)

theorem count_destroy (h : Timely s) :
    s.link.calls.count .destroy = if s.results = [] ∧ s.owners = [] then 1 else 0 := by
  by_cases hi : s.isIdle = true
  · obtain ⟨before, hcalls, hnot⟩ := h.unused hi
    rw [if_pos (isIdle_iff.mp hi), hcalls, List.count_append, List.count_eq_zero_of_not_mem hnot]
    rfl
  · rw [if_neg (mt isIdle_iff.mpr hi)]
    exact List.count_eq_zero_of_not_mem (h.used (Bool.eq_false_iff.mpr hi))

end Timely

/-! ## The end of a session -/

theorem foldl_disown_owners (owners : List String) (s : Session σ) :
    (owners.foldl disown s).owners = s.owners.filter (· ∉ owners) := by
  induction owners generalizing s with
  | nil => simp
  | cons owner owners ih =>
    rw [List.foldl_cons, ih, disown_owners, List.filter_filter]
    apply List.filter_congr
    intro o _
    by_cases ho : o = owner <;> simp [ho]

theorem finish_owners (s : Session σ) : (s.finish b).owners = [] := by
  rw [finish, foldl_disown_owners]
  apply List.filter_eq_nil_iff.mpr
  intro o ho
  have hm : o ∈ inOrder ((inOrder (s.results.map (·.1))).foldl (Session.drop b) s).owners :=
    List.mem_mergeSort.mpr ho
  simpa using hm

theorem Timely.finish (h : Timely s) : Timely (s.finish b) := by
  have hdrops (names : List String) {s : Session σ} (h : Timely s) :
      Timely (names.foldl (Session.drop b) s) := by
    induction names generalizing s with
    | nil => exact h
    | cons name names ih => exact ih (h.drop name)
  have hdisowns (owners : List String) {s : Session σ} (h : Timely s) :
      Timely (owners.foldl Session.disown s) := by
    induction owners generalizing s with
    | nil => exact h
    | cons owner owners ih => exact ih (h.disown owner)
  exact hdisowns _ (hdrops _ h)

/-- The calls of a session of which the engine was told the end: those on the record, where every
    handle that was handed out was released, and then the word of the end. -/
theorem Settled.calls_of_told {b : Backend σ} {r₀ : Recorded σ} {s : Session (Recorded σ)}
    (settled : Settled b r₀ s) (timely : Timely s) (told : .destroy ∈ s.link.calls) :
    s.link.calls = (s.history.map (·.call)).reverse ++ [.destroy] ∧
      (handed s.history).Perm (released s.history) := by
  have idle := timely.idle_of_told told
  obtain ⟨before, hcalls, hnot⟩ := timely.unused idle
  have hrecord : (s.history.map (·.call)).reverse = before := by
    have hfilter : before.filter (· ≠ .destroy) = before := by
      apply List.filter_eq_self.mpr
      intro call hm
      exact decide_eq_true (ne_of_mem_of_not_mem hm hnot)
    calc (s.history.map (·.call)).reverse
      _ = s.link.calls.filter (· ≠ .destroy) := settled.custody.logged
      _ = before := by rw [hcalls, List.filter_append, hfilter]; simp
  have shared : (handed s.history).Perm (released s.history ++ heldBy s.results) :=
    settled.custody.shared
  rw [(isIdle_iff.mp idle).1, heldBy, List.flatMap_nil, List.append_nil] at shared
  exact ⟨hrecord ▸ hcalls, shared⟩

/-- **An engine outlives its users.** Commands that have their owners are given to a new engine that
wants to be told when it is no longer in use. At every moment of the run it was told so once, if it has
neither an owner nor a result, and otherwise never. Every handle that it had handed out was released
before it was told, and the rest of the run says nothing more to it. At the end of the session it was
told. The record, by which this is said, is that of the session with the engine itself. -/
theorem engine_outlives_users (b : Backend σ) (state : σ) (owner : String) (cs : List Command)
    (owned : Owned [owner] cs) :
    let session := recorded b state owner true
    (start state owner true).run b cs =
        (((start (.fresh state) owner true).run (recording b) cs).1, (session cs).forget) ∧
      (∀ xs ys, cs = xs ++ ys →
        ((session xs).link.calls.count .destroy =
            if (session xs).results = [] ∧ (session xs).owners = [] then 1 else 0) ∧
          (.destroy ∈ (session xs).link.calls →
            session cs = session xs ∧
            (session xs).link.calls = ((session xs).history.map (·.call)).reverse ++ [.destroy] ∧
            (handed (session xs).history).Perm (released (session xs).history))) ∧
      ((session cs).finish (recording b)).link.calls.count .destroy = 1 := by
  intro session
  have moment {xs : List Command} (hxs : Owned [owner] xs) : Timely (session xs) :=
    (timely_start _ owner).run hxs
  refine ⟨run_forget cs (start (.fresh state) owner true), ?_, ?_⟩
  · rintro xs ys rfl
    obtain ⟨hxs, hys⟩ := owned_append (b := recording b)
      (s := start (.fresh state) owner true) owned
    have timely := moment hxs
    refine ⟨timely.count_destroy, ?_⟩
    intro told
    have hrest : session (xs ++ ys) = session xs := by
      rw [show session (xs ++ ys) = _ from recorded_append b state owner true xs ys]
      exact run_of_idle (timely.idle_of_told told) hys
    exact ⟨hrest, (settled_recorded b state owner true xs).calls_of_told timely told⟩
  · have timely : Timely ((session cs).finish (recording b)) := (moment owned).finish
    rw [timely.count_destroy, if_pos ⟨finish_results _, finish_owners _⟩]

def twoResults : List Reply := [{ Reply.blank with handle := 7 }, { Reply.blank with handle := 9 }]

/-- A second owner outlives the first one, and two results outlive both owners. One of them is released
    before it is dropped, and is the last user. -/
def lastUserRun : List Command :=
  [.share "e" "f", .collect "p" "e" countedPair, .disown "e", .collect "q" "f" countedPair,
    .disown "f", .height "q", .release "p", .drop "q", .drop "p", .height "q"]

/-- The engine is told with the second drop, and the question behind that is not put. -/
theorem engine_outlives_users_lastUser :
    let session := recorded scripted twoResults "e" true
    Owned ["e"] lastUserRun ∧
    (session (lastUserRun.take 8)).link.calls.count .destroy = 0 ∧
    (session lastUserRun).link.calls =
      [.collect 2, .collect 2, .height 9, .release 7, .release 9, .destroy] ∧
    session lastUserRun = session (lastUserRun.take 9) ∧
    (handed (session lastUserRun).history).Perm (released (session lastUserRun).history) ∧
    handed (session lastUserRun).history = [9, 7] := by
  intro session
  have owned : Owned ["e"] lastUserRun := by decide
  obtain ⟨-, moments, -⟩ := engine_outlives_users scripted twoResults "e" lastUserRun owned
  have told : Call.destroy ∈ (session (lastUserRun.take 9)).link.calls := by decide
  obtain ⟨-, after⟩ := moments (lastUserRun.take 9) [.height "q"] rfl
  obtain ⟨same, -, shared⟩ := after told
  refine ⟨owned, ?_, rfl, same, ?_, rfl⟩
  · rw [(moments (lastUserRun.take 8) [.drop "p", .height "q"] rfl).1]
    rfl
  · rw [show session lastUserRun = session (lastUserRun.take 9) from same]
    exact shared

end Session
end FramePlan.Engine
