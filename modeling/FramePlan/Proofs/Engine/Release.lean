import FramePlan.Engine.Scripted
import FramePlan.Frame.Source
import FramePlan.Proofs.Engine.Balance
import FramePlan.Proofs.Engine.Settled
import FramePlan.Sql.Parser.Statement

/-!
# Results are released once

What the record of a session shows, for any engine and any commands. The only thing that is asked of
the engine is that it does not hand out a handle again: `results_released_once` says what then becomes
of the handles, of the results under their names, and of the in-memory engine's store.
-/
namespace FramePlan.Engine

variable {σ : Type}

/-- The commands that put a question about a result to its engine. -/
def Command.questions (name : String) : List Command :=
  [.height name, .width name, .shape name, .render name]

namespace Session

/-- The session after commands to a new engine, with the record of its exchanges. -/
def recorded (b : Backend σ) (state : σ) (owner : String) (destroys : Bool) (cs : List Command) :
    Session (Recorded σ) :=
  ((start (.fresh state) owner destroys).run (recording b) cs).2

def history (s : Session (Recorded σ)) : List (Exchange σ) := s.link.state.history

/-- How a session treats the handles of its engine. -/
structure ReleasesOnce (b : Backend σ) (s : Session (Recorded σ)) : Prop where
  /-- A call about a handle stands between the plan that handed it out and its release. -/
  disciplined : Disciplined s.history
  /-- No handle is released again. -/
  once : (released s.history).Nodup
  /-- A handle that came with a failure is released in the same command. -/
  prompt : Prompt s.history
  /-- A released result is not asked for. -/
  refused : ∀ name, (s.result name).isReleased → ∀ question ∈ Command.questions name,
    s.step (recording b) question = (.error .nullHandle, s)
  /-- A frame with an error is not handed in. -/
  withheld : ∀ name owner frame e, frame.plan = .error e →
    s.step (recording b) (.collect name owner frame) = (.error e, s)
  /-- With the last result released, every handle was released once. -/
  complete : (∀ r ∈ s.results, r.2.isReleased) → ∀ h ∈ handed s.history,
    (released s.history).count h = 1

variable {b : Backend σ} {r₀ : Recorded σ} {s : Session (Recorded σ)}

theorem heldBy_eq_nil {results : List (String × Collected)} (h : ∀ r ∈ results, r.2.isReleased) :
    heldBy results = [] := by
  refine List.flatMap_eq_nil_iff.mpr fun r hr => ?_
  have h0 : r.2.handle = 0 := beq_iff_eq.mp (h r hr)
  rw [h0, holding_zero]

theorem step_question_of_released {b : Backend σ} {s : Session σ} {name : String}
    (hc : (s.result name).isReleased) :
    ∀ question ∈ Command.questions name, s.step b question = (.error .nullHandle, s) := by
  intro question hq
  simp only [Command.questions, List.mem_cons, List.not_mem_nil, or_false] at hq
  obtain rfl | rfl | rfl | rfl := hq
  · simp only [step, height, questioned_of_released hc]
    rfl
  · simp only [step, width, questioned_of_released hc]
    rfl
  · simp only [step, shape, height, questioned_of_released hc]
    rfl
  · simp only [step, render, questioned_of_released hc]
    rfl

theorem step_collect_of_error {b : Backend σ} {s : Session σ} {name owner : String} {f : Frame}
    {e : Error} (hf : f.plan = .error e) : s.step b (.collect name owner f) = (.error e, s) := by
  simp only [step, converse, submit_of_error b hf]

/-- **A session whose handles are distinct releases each of them once.** -/
theorem Settled.releasesOnce (h : Settled b r₀ s) (distinct : (handed s.history).Nodup) :
    ReleasesOnce b s := by
  have shared := h.custody.shared
  have once := (List.nodup_append'.mp (shared.nodup_iff.mp distinct)).1
  constructor
  case disciplined => exact h.custody.disciplined distinct
  case once => exact once
  case prompt => exact h.custody.prompt
  case refused => exact fun name hr => step_question_of_released hr
  case withheld => exact fun name owner frame e hf => step_collect_of_error hf
  case complete =>
    intro hall n hn
    rw [heldBy_eq_nil hall, List.append_nil] at shared
    exact List.count_eq_one_of_mem once (shared.mem_iff.mp hn)

theorem Settled.follows {name : String} {n : Handle} (h : Settled b r₀ s)
    (distinct : (handed s.history).Nodup) (hf : Follows name n s) :
    (n ∉ released s.history ∧ s.result name = ⟨n⟩) ∨
      (n ∈ released s.history ∧ s.result name = ⟨0⟩) := by
  obtain hk | ⟨hz, hr⟩ := hf
  · left
    refine ⟨fun hr => ?_, hk⟩
    have hh : n ∈ handed s.history := h.custody.shared.mem_iff.mpr (List.mem_append_left _ hr)
    have hm : n ∈ holding (s.result name).handle :=
      mem_holding.mpr (hk ▸ ⟨rfl, ne_zero_of_mem_handed hh⟩)
    have hheld := (heldBy_perm h.names name).mem_iff.mpr (List.mem_append_left _ hm)
    exact (h.custody.of_mem distinct hheld).2.2 hr
  · exact .inr ⟨hr, hz⟩

theorem settled_recorded (b : Backend σ) (state : σ) (owner : String) (destroys : Bool)
    (cs : List Command) : Settled b (.fresh state) (recorded b state owner destroys cs) :=
  (Settled.start b state owner destroys).run cs

theorem recorded_append (b : Backend σ) (state : σ) (owner : String) (destroys : Bool)
    (cs ds : List Command) : recorded b state owner destroys (cs ++ ds) =
      ((recorded b state owner destroys cs).run (recording b) ds).2 :=
  run_append _ cs ds

/-- **Results are released once.** The first part is about any engine and any commands. The record of
the session is that of the session with the engine itself: it gives the same answers, makes the calls
on the record and keeps the same results. If the engine hands out no handle twice, the session releases
each of them once, and the name of a result has its handle until the handle is released. At the end
of the session no result is left.

The second part is about the in-memory engine in any modes. It hands out no handle twice, and after
every exchange, and so at the end, it keeps as many results as it handed out and did not release. -/
theorem results_released_once [Sql.Reader] (b : Backend σ) (state : σ) (modes : Nat → Mode) (files : Files)
    (owner : String) (destroys : Bool) (cs : List Command) :
    (let s := recorded b state owner destroys cs
     (start state owner destroys).run b cs =
          (((start (.fresh state) owner destroys).run (recording b) cs).1, s.forget) ∧
        (s.history.map (·.call)).reverse = s.link.calls.filter (· ≠ .destroy) ∧
        ((handed s.history).Nodup → s.ReleasesOnce b ∧
          ∀ xs name engine frame ys n, cs = xs ++ .collect name engine frame :: ys →
            ((recorded b state owner destroys xs).step (recording b)
              (.collect name engine frame)).1 = .handle n →
            (∀ c ∈ ys, c.collectsAs name = false) →
            (n ∉ released s.history ∧ s.result name = ⟨n⟩) ∨
              (n ∈ released s.history ∧ s.result name = ⟨0⟩)) ∧
        (∃ ds, s.finish (recording b) = recorded b state owner destroys (cs ++ ds)) ∧
        (s.finish (recording b)).results = []) ∧
    (let s := recorded (behaving modes) (.fresh files) owner destroys cs
     s.link.state.state.collects < UInt64.size →
        (handed s.history).Nodup ∧
        Store.Tallies s.link.state ∧
        ∀ e earlier, e :: earlier <:+ s.history → Store.Tallies ⟨e.state, e :: earlier⟩) := by
  constructor
  · intro s
    have settled := settled_recorded b state owner destroys cs
    refine ⟨run_forget cs (start (.fresh state) owner destroys), settled.custody.logged, ?_, ?_,
      finish_results s⟩
    · intro distinct
      refine ⟨settled.releasesOnce distinct, ?_⟩
      rintro xs name engine frame ys n rfl answered others
      -- The name has the handle after the command, and follows it through those behind.
      have before := settled_recorded b state owner destroys xs
      have after := Follows.run (before.step _) (.inl (result_of_collect answered)) others
      refine settled.follows distinct ?_
      rw [recorded_append]
      exact after
    · obtain ⟨ds, hd⟩ := finish_eq_run (b := recording b) s
      exact ⟨ds, hd.trans (recorded_append b state owner destroys cs ds).symm⟩
  · intro s room
    have settled := settled_recorded (behaving modes) (.fresh files) owner destroys cs
    have genuine := settled.custody.genuine
    have distinct := (Store.numbered genuine room).distinct
    have disciplined := settled.custody.disciplined distinct
    refine ⟨distinct, (Store.balanced genuine room disciplined).tallies, ?_⟩
    intro e earlier hs
    exact (Store.balanced_moments genuine room disciplined e earlier hs).tallies

def countedPair : Frame := (Frame.ofColumns [⟨"a", [.int 1, .int 2]⟩]).count

/-- A result that is asked for, released and asked for again, and between these a plan that fails
    with a handle and a frame with an error. -/
def failingRun : List Command :=
  [.collect "r" "e" countedPair, .height "r", .collect "q" "e" countedPair, .release "r",
    .collect "p" "e" (Frame.concatAll []), .height "r", .drop "r"]

def failingScript : List Reply :=
  [{ Reply.blank with handle := 7 }, { Reply.blank with size := 1 },
    { Reply.blank with status := 3, handle := 9 }]

def failingSession : Session (Recorded (List Reply)) :=
  recorded scripted failingScript "e" true failingRun

/-- A failure for the second plan, with a handle. -/
def secondFails (plans : Nat) : Mode := if plans = 1 then .failWithHandle else .normal

def misbehavingSession [Sql.Reader] : Session (Recorded Store) :=
  recorded (behaving secondFails) (.fresh []) "e" true failingRun

attribute [local instance] Sql.dialect

/-- Both handles are released once, that of the failure first, and a name that had one has none. The
    in-memory engine has two results at most, and none at the end. -/
theorem results_released_once_failing :
    (handed failingSession.history = [9, 7] ∧ released failingSession.history = [7, 9] ∧
      failingSession.ReleasesOnce scripted ∧ failingSession.result "r" = ⟨0⟩) ∧
    misbehavingSession.link.state.state.collects < UInt64.size ∧
      (handed misbehavingSession.history).Nodup ∧
      Store.Tallies misbehavingSession.link.state ∧
      misbehavingSession.history.map (·.state.live) = [0, 1, 2, 1, 1] := by
  have handles : handed failingSession.history = [9, 7] := rfl
  have distinct : (handed failingSession.history).Nodup := by
    rw [handles]
    decide
  have room : misbehavingSession.link.state.state.collects < UInt64.size := by
    change 2 < UInt64.size
    decide
  obtain ⟨⟨-, -, once, -⟩, balance⟩ :=
    results_released_once scripted failingScript secondFails [] "e" true failingRun
  obtain ⟨releases, names⟩ := once distinct
  obtain ⟨numbered, tallies, -⟩ := balance room
  refine ⟨⟨handles, rfl, releases, ?_⟩, room, numbered, tallies, rfl⟩
  obtain ⟨held, -⟩ | ⟨-, gone⟩ := names [] "r" "e" countedPair failingRun.tail 7 rfl rfl (by decide)
  · exact (held (by decide)).elim
  · exact gone

end Session
end FramePlan.Engine
