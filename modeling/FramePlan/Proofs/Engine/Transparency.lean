import FramePlan.Proofs.Engine.Client
import FramePlan.Proofs.Engine.InMemory
import FramePlan.Proofs.Engine.Slot
import FramePlan.Proofs.Frame.Reachable
import FramePlan.Sql.Parser.Statement

/-!
# Collecting is evaluating

Collecting a frame with the in-memory engine gives what its operations give when they are run
directly. Between the two stand the records of the plan, the handle of the result, and the code and
the slot of an error, and none of them shows: `submit_transparent` puts their lemmas together.

What is lost is the end of a long error message, and what stands behind a zero character in one.
-/
namespace FramePlan.Engine

/-! ## Questions to the in-memory engine -/

theorem size_of_lookup {l : Link Store} {h : Handle} {t : Table} (call : Handle → Call)
    (measure : Table → Nat) (hh : h ≠ 0) (hl : l.state.results.lookup h = some t) :
    questioned ⟨h⟩ (fun h => do
        let reply ← ask (call h) (Store.size measure · h)
        pure (checked reply.status reply.slot reply.size)) l =
      (.ok (UInt64.ofNat (measure t)), ⟨l.state, l.calls ++ [call h]⟩) := by
  simp only [questioned_of_ne hh, talk_bind, ask_apply, Store.size_of_lookup _ hl, checked, if_true,
    talk_pure]

theorem shape_of_lookup [Sql.Reader] {l : Link Store} {h : Handle} {t : Table} (hh : h ≠ 0)
    (hl : l.state.results.lookup h = some t) :
    (shape inMemory ⟨h⟩ l).1 = .ok (UInt64.ofNat t.height, UInt64.ofNat t.width) := by
  have hrows : height inMemory ⟨h⟩ l = _ := size_of_lookup .height Table.height hh hl
  have hcolumns : width inMemory ⟨h⟩ ⟨l.state, l.calls ++ [.height h]⟩ = _ :=
    size_of_lookup .width Table.width hh hl
  simp only [shape, talk_bind, hrows, hcolumns]
  rfl

theorem render_of_lookup [Sql.Reader] {l : Link Store} {h : Handle} {t : Table} (hh : h ≠ 0)
    (hl : l.state.results.lookup h = some t) : (render inMemory ⟨h⟩ l).1 = .ok t.render := by
  simp only [render, questioned_of_ne hh, inMemory, talk_bind, ask_apply, Store.render_of_lookup hl,
    checked, if_true, talk_pure, ok_bind, readText, Text.Utf8.decodeLossy_encode]

/-! ## Errors -/

theorem code_ne_zero (kind : EngineErrorKind) : kind.code ≠ 0 := by cases kind <;> decide

theorem failure_reported (kind : EngineErrorKind) (message : String) :
    ∃ seen, Slot.Delivers message seen ∧
      failure kind.code (Slot.zeroed.set kind.code message) = .engine kind seen := by
  refine ⟨_, Slot.delivers_message_set .zeroed kind.code message, ?_⟩
  rw [failure, EngineErrorKind.ofCode_code]

/-! ## Transparency -/

/-- **Collecting a frame is running its plan.** A frame with an error gives that error, and the
engine is not asked. Otherwise, for a frame that builder calls make and an in-memory engine in use
whose count of plans has room for one more: a table of the plan can be asked for its shape and its
text, and an engine error of the plan is the error of the call, with the part of its message that the
slot delivers. -/
theorem submit_transparent [Sql.Reader] (f : Frame) (l : Link Store) :
    (∀ e, f.plan = .error e → submit inMemory f l = (.error e, l)) ∧
      ∀ (files : Files) (ops : Plan), f.Reachable → f.plan = .ok ops →
        l.state.Reached files → l.state.mode = .normal → l.state.collects + 1 < UInt64.size →
        (∀ t, Plan.run files ops = .ok t →
          ∃ c l', submit inMemory f l = (.ok c, l') ∧
            (shape inMemory c l').1 = .ok (UInt64.ofNat t.height, UInt64.ofNat t.width) ∧
            (render inMemory c l').1 = .ok t.render) ∧
        ∀ kind message, Plan.run files ops = .error (.engine kind message) →
          ∃ seen l', Slot.Delivers message seen ∧
            submit inMemory f l = (.error (.engine kind seen), l') := by
  refine ⟨fun e he => submit_of_error inMemory he l, ?_⟩
  intro files ops built hf reached normal room
  have paired := built.keysPaired hf
  have hn := reached.nextHandle_ne_zero room
  obtain rfl := reached.files_eq
  refine ⟨?_, ?_⟩
  · intro t ht
    -- The result is kept under the handle that is handed out, so both questions find it.
    have hs := submit_of_handle inMemory hf hn (Store.collect_of_ok normal paired ht)
    have hl := Store.lookup_keep { l.state with collects := l.state.collects + 1 } t
    exact ⟨_, _, hs, shape_of_lookup hn hl, render_of_lookup hn hl⟩
  · intro kind message he
    -- Status and slot are made by the engine of the error, and read back by the caller.
    obtain ⟨seen, hseen, hfail⟩ := failure_reported kind message
    have hc := Store.collect_of_error normal paired he
    have hs := submit_of_status inMemory hf (code_ne_zero kind) hc
    exact ⟨seen, _, hseen, hs.trans (by rw [← hfail]; rfl)⟩

def pairCounted : Frame := (Frame.ofColumns [⟨"a", [.int 1, .int 2]⟩]).count

attribute [local instance] Sql.dialect

/-- A fresh engine collects the count, reports a plan without a source, and is not asked about a
    frame with an error. -/
theorem submit_transparent_fresh :
    (∃ c l', submit inMemory pairCounted ⟨.fresh [], []⟩ = (.ok c, l') ∧
      (shape inMemory c l').1 = .ok (1, 1) ∧
      (render inMemory c l').1 = .ok (Table.render ⟨[⟨"count", .u32, [.int 2]⟩], 1⟩)) ∧
    (∃ seen l', Slot.Delivers "plan must start with a source, got count" seen ∧
      submit inMemory Frame.empty.count ⟨.fresh [], []⟩ = (.error (.engine .plan seen), l')) ∧
    submit inMemory (Frame.concatAll []) ⟨.fresh [], []⟩ = (.error .noFrames, ⟨.fresh [], []⟩) := by
  refine ⟨?_, ?_, (submit_transparent (Frame.concatAll []) ⟨.fresh [], []⟩).1 .noFrames rfl⟩
  · exact ((submit_transparent pairCounted ⟨.fresh [], []⟩).2 [] _ (.count (.ofColumns _)) rfl
      .fresh rfl (by decide)).1 ⟨[⟨"count", .u32, [.int 2]⟩], 1⟩ rfl
  · exact ((submit_transparent Frame.empty.count ⟨.fresh [], []⟩).2 [] _ (.count .empty) rfl
      .fresh rfl (by decide)).2 .plan _ rfl

end FramePlan.Engine
