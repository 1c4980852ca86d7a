import FramePlan.Engine.InMemory
import FramePlan.Proofs.Eval.Normal
import FramePlan.Proofs.Wire.RoundTrip

/-!
# The store of the in-memory engine

What the in-memory engine answers, one lemma for each call. A plan in records is run as the plan that
was written (`evaluate_encode`): it is read back up to empty type overrides, which do not matter to
evaluation.

`Store.Reached` are the states of an engine in use. A result takes the next handle, so an engine has
handed out no more handles than it was given plans, and as long as its count of plans has not run
out of its sixty-four bits the next handle is not the one that stands for no result.
-/
namespace FramePlan.Engine.Store

open Wire

variable {s : Store} {files : Files}

/-- The states of an engine over the given files: fresh, or after a plan, a release or a change of
    mode. Questions about a result leave the state as it is. -/
inductive Reached [Sql.Reader] (files : Files) : Store → Prop
  | fresh : Reached files (fresh files)
  | collect {s : Store} (plan : PlanRecord) : Reached files s → Reached files (s.collect plan).2
  | release {s : Store} (h : Handle) : Reached files s → Reached files (s.release h)
  | behave {s : Store} (mode : Mode) : Reached files s → Reached files { s with mode := mode }

/-! ## Handles -/

/-- A plan is counted. It hands out no handle and leaves the rest of the store, or it hands out the next handle
    and a table is kept under it. -/
theorem collect_cases [Sql.Reader] (s : Store) (plan : PlanRecord) :
    (s.collect plan).1.handle = 0 ∧ (s.collect plan).2 = { s with collects := s.collects + 1 } ∨
      (s.collect plan).1.handle = s.nextHandle ∧
        ∃ t, (s.collect plan).2 = { s with collects := s.collects + 1 }.keep t := by
  simp only [collect]
  split
  · exact .inr ⟨rfl, _, rfl⟩
  · exact .inl ⟨rfl, rfl⟩
  · exact .inr ⟨rfl, _, rfl⟩
  · exact .inl ⟨rfl, rfl⟩

theorem nextHandle_le (s : Store) : s.nextHandle.toNat ≤ s.lastHandle.toNat + 1 := by
  rw [nextHandle, UInt64.toNat_add]
  exact Nat.mod_le _ _

theorem Reached.files_eq [Sql.Reader] (h : Reached files s) : s.files = files := by
  induction h with
  | fresh => rfl
  | @collect s plan _ ih =>
    obtain ⟨-, hs⟩ | ⟨-, t, hs⟩ := collect_cases s plan
    · exact hs ▸ ih
    · exact hs ▸ ih
  | release _ _ ih => exact ih
  | behave _ _ ih => exact ih

theorem Reached.lastHandle_le [Sql.Reader] (h : Reached files s) : s.lastHandle.toNat ≤ s.collects := by
  induction h with
  | fresh => exact Nat.le_refl 0
  | @collect s plan _ ih =>
    obtain ⟨-, hs⟩ | ⟨-, t, hs⟩ := collect_cases s plan
    · exact hs ▸ Nat.le_succ_of_le ih
    · exact hs ▸ Nat.le_trans (nextHandle_le s) (Nat.succ_le_succ ih)
  | release _ _ ih => exact ih
  | behave _ _ ih => exact ih

/-- An engine whose count of plans has room for one more has a handle for its result. -/
theorem Reached.nextHandle_ne_zero [Sql.Reader] (h : Reached files s) (room : s.collects + 1 < UInt64.size) :
    s.nextHandle ≠ 0 := by
  intro h0
  -- The sum of the last handle and one does not wrap around.
  have hl := h.lastHandle_le
  have hz : s.nextHandle.toNat = 0 := congrArg UInt64.toNat h0
  have hlt : s.lastHandle.toNat + 1 < 2 ^ 64 := Nat.lt_of_le_of_lt (Nat.succ_le_succ hl) room
  rw [nextHandle, UInt64.toNat_add, UInt64.toNat_one, Nat.mod_eq_of_lt hlt] at hz
  omega

/-! ## Answers -/

theorem evaluate_encode [Sql.Reader] (s : Store) {ops : Plan} (paired : ops.KeysPaired) :
    s.evaluate (encode ops).record = Plan.run s.files ops := by
  have hd := (decode_record ops).trans (decodeOps_encodeOps ops paired)
  simp only [evaluate, hd, Except.mapError, ok_bind, Plan.run, Eval.run_normal]

theorem collect_of_ok [Sql.Reader] {ops : Plan} {t : Table} (normal : s.mode = .normal)
    (paired : ops.KeysPaired) (h : Plan.run s.files ops = .ok t) :
    s.collect (encode ops).record =
      (⟨0, s.nextHandle, .zeroed⟩, { s with collects := s.collects + 1 }.keep t) := by
  obtain ⟨files, mode, results, lastHandle, collects, releases⟩ := s
  cases normal
  -- The plan is counted before it is run, and what it gives depends on the files alone.
  have he := (evaluate_encode ⟨files, .normal, results, lastHandle, collects + 1, releases⟩
    paired).trans h
  simp only [collect, he]
  rfl

theorem collect_of_error [Sql.Reader] {ops : Plan} {e : Error} (normal : s.mode = .normal)
    (paired : ops.KeysPaired) (h : Plan.run s.files ops = .error e) :
    s.collect (encode ops).record =
      (⟨(reported e).1, 0, (reported e).2⟩, { s with collects := s.collects + 1 }) := by
  obtain ⟨files, mode, results, lastHandle, collects, releases⟩ := s
  cases normal
  have he := (evaluate_encode ⟨files, .normal, results, lastHandle, collects + 1, releases⟩
    paired).trans h
  simp only [collect, he]

theorem lookup_keep (s : Store) (t : Table) : (s.keep t).results.lookup s.nextHandle = some t := by
  simp [keep]

theorem size_of_lookup {h : Handle} {t : Table} (measure : Table → Nat)
    (hl : s.results.lookup h = some t) :
    size measure s h = (⟨0, UInt64.ofNat (measure t), .zeroed⟩, s) := by
  simp only [size, hl]

theorem render_of_lookup {h : Handle} {t : Table} (hl : s.results.lookup h = some t) :
    s.render h = (⟨0, .items (Text.Utf8.encode t.render), .zeroed⟩, s) := by
  simp only [render, hl]

end FramePlan.Engine.Store
