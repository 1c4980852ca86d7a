import FramePlan.Engine.InMemory
import FramePlan.Proofs.Engine.Custody
import FramePlan.Proofs.Engine.InMemory

/-!
# The balance of the in-memory engine

What the in-memory engine keeps, told from the record of its exchanges. It may misbehave in any way it
can: `behaving` puts it into a mode before every plan.

As long as its count of plans has not run out of its sixty-four bits, no handle is handed out twice
(`numbered`), whatever is asked of it. Where the calls are disciplined besides, the results that it
keeps are those handed out and not released (`balanced`), after every exchange (`balanced_moments`).
-/
namespace FramePlan.Engine

/-- The in-memory engine in a mode for every plan, by the number of plans before it. -/
def behaving [Sql.Reader] (modes : Nat → Mode) : Backend Store :=
  { inMemory with collect := fun s plan => { s with mode := modes s.collects }.collect plan }

namespace Store

variable {s s' : Store} {modes : Nat → Mode} {call : Call} {reply : Option CollectReply}

theorem Reached.nextHandle_toNat [Sql.Reader] {files : Files} (h : Reached files s)
    (room : s.collects + 1 < UInt64.size) : s.nextHandle.toNat = s.lastHandle.toNat + 1 := by
  rw [nextHandle, UInt64.toNat_add, UInt64.toNat_one]
  exact Nat.mod_eq_of_lt (Nat.lt_of_le_of_lt (Nat.succ_le_succ h.lastHandle_le) room)

theorem size_snd (measure : Table → Nat) (s : Store) (h : Handle) : (size measure s h).2 = s := by
  simp only [size]
  split <;> rfl

theorem render_snd (s : Store) (h : Handle) : (s.render h).2 = s := by
  simp only [render]
  split <;> rfl

/-- What a call does to the store: a plan is counted and may get the next handle, a question leaves
    everything, and a release removes what was kept under the handle. -/
theorem takes_behaving [Sql.Reader] (h : Takes (behaving modes) s call reply s') :
    (call.released = [] ∧ s'.collects = s.collects + 1 ∧ s'.releases = s.releases ∧
      ∃ r, reply = some r ∧
        (r.handle = 0 ∧ s'.lastHandle = s.lastHandle ∧ s'.results = s.results ∨
          r.handle = s.nextHandle ∧ s'.lastHandle = s.nextHandle ∧
            ∃ t, s'.results = (s.nextHandle, t) :: s.results)) ∨
    (call.released = [] ∧ reply = none ∧ s' = s) ∨
    ∃ n, call = .release n ∧ reply = none ∧ s' = s.release n := by
  cases h with
  | collect plan =>
    left
    obtain ⟨hnone, hs⟩ | ⟨hnext, t, hs⟩ := collect_cases { s with mode := modes s.collects } plan
    · exact ⟨rfl, hs ▸ rfl, hs ▸ rfl, _, rfl, .inl ⟨hnone, hs ▸ rfl, hs ▸ rfl⟩⟩
    · exact ⟨rfl, hs ▸ rfl, hs ▸ rfl, _, rfl, .inr ⟨hnext, hs ▸ rfl, t, hs ▸ rfl⟩⟩
  | height n => exact .inr (.inl ⟨rfl, rfl, size_snd Table.height s n⟩)
  | width n => exact .inr (.inl ⟨rfl, rfl, size_snd Table.width s n⟩)
  | render n => exact .inr (.inl ⟨rfl, rfl, render_snd s n⟩)
  | release n => exact .inr (.inr ⟨n, rfl, rfl, rfl⟩)

/-! ## Handles are distinct -/

section Genuine
open scoped List

variable {files : Files} {r : Recorded Store}

theorem reached [Sql.Reader] (h : Genuine (behaving modes) (.fresh (.fresh files)) r) :
    r.state.Reached files := by
  induction h with
  | refl => exact .fresh
  | step _ ht ih =>
    cases ht with
    | collect plan => exact .collect plan (.behave _ ih)
    | height n => exact (size_snd Table.height _ n).symm ▸ ih
    | width n => exact (size_snd Table.width _ n).symm ▸ ih
    | render n => exact (render_snd _ n).symm ▸ ih
    | release n => exact .release n ih

/-- The handles handed out are different ones, up to the last. -/
structure Numbered (r : Recorded Store) : Prop where
  bounded : ∀ h ∈ handed r.history, h.toNat ≤ r.state.lastHandle.toNat
  distinct : (handed r.history).Nodup

/-- **No handle is handed out twice**, however the engine is used. -/
theorem numbered [Sql.Reader] (h : Genuine (behaving modes) (.fresh (.fresh files)) r)
    (room : r.state.collects < UInt64.size) : Numbered r := by
  induction h with
  | refl => exact ⟨fun h hm => (List.not_mem_nil hm).elim, List.nodup_nil⟩
  | @step r call reply s' hg ht ih =>
    obtain ⟨-, hc, -, a, rfl, hcase⟩ | ⟨-, rfl, rfl⟩ | ⟨n, -, rfl, rfl⟩ := takes_behaving ht
    · have hroom : r.state.collects + 1 < UInt64.size := hc ▸ room
      obtain ⟨bounded, distinct⟩ := ih (Nat.lt_of_succ_lt hroom)
      have hh := handed_note r call a s'
      obtain ⟨h0, hl, -⟩ | ⟨hn, hl, -⟩ := hcase
      · rw [h0, holding_zero, List.nil_append] at hh
        exact ⟨fun h hm => hl ▸ bounded h (hh ▸ hm), hh ▸ distinct⟩
      · -- The next handle is above all the others, so it is new.
        have hs := (reached hg).nextHandle_toNat hroom
        rw [hn, holding_of_ne ((reached hg).nextHandle_ne_zero hroom), List.singleton_append] at hh
        have hl' : (r.note call (some a) s').state.lastHandle = r.state.nextHandle := hl
        constructor
        · intro h hm
          rw [hl', hs]
          obtain rfl | hm := List.mem_cons.mp (hh ▸ hm)
          · exact Nat.le_of_eq hs
          · exact Nat.le_succ_of_le (bounded h hm)
        · rw [hh]
          refine List.nodup_cons.mpr ⟨fun hm => ?_, distinct⟩
          have hb := bounded _ hm
          omega
    · exact ⟨(ih room).bounded, (ih room).distinct⟩
    · exact ⟨(ih room).bounded, (ih room).distinct⟩

/-! ## What is kept -/

/-- The results kept are those handed out and not released. -/
structure Balanced (r : Recorded Store) : Prop where
  kept : (handed r.history).Perm (released r.history ++ r.state.results.map (·.1))
  counted : r.state.releases = (released r.history).length

/-- As many results are live as handles were handed out and not released, by the count of the
    engine, which is the count of the record. -/
def Tallies (r : Recorded Store) : Prop :=
  r.state.live + r.state.releases = (handed r.history).length ∧
    r.state.releases = (released r.history).length

theorem Balanced.tallies (h : Balanced r) : Tallies r := by
  have hl := h.kept.length_eq
  rw [List.length_append, List.length_map] at hl
  refine ⟨?_, h.counted⟩
  rw [live, h.counted, hl, Nat.add_comm]

theorem perm_release {n : Handle} (hn : (s.results.map (·.1)).Nodup)
    (hm : n ∈ s.results.map (·.1)) :
    (s.results.map (·.1)).Perm (n :: (s.release n).results.map (·.1)) := by
  have hf : (s.release n).results.map (·.1) = (s.results.map (·.1)).filter (· != n) := by
    rw [List.filter_map]
    rfl
  rw [hf, ← hn.erase_eq_filter]
  exact List.perm_cons_erase hm

theorem collects_le [Sql.Reader] (ht : Takes (behaving modes) s call reply s') : s.collects ≤ s'.collects := by
  obtain ⟨-, hc, -⟩ | ⟨-, -, rfl⟩ | ⟨n, -, -, rfl⟩ := takes_behaving ht
  · omega
  · exact Nat.le_refl _
  · exact Nat.le_refl _

theorem balanced [Sql.Reader] (h : Genuine (behaving modes) (.fresh (.fresh files)) r)
    (room : r.state.collects < UInt64.size) (hd : Disciplined r.history) : Balanced r := by
  induction h with
  | refl => exact ⟨.refl [], rfl⟩
  | @step r call reply s' hg ht ih =>
    have hr : r.state.collects < UInt64.size := Nat.lt_of_le_of_lt (collects_le ht) room
    obtain ⟨kept, counted⟩ := ih hr hd.tail
    obtain ⟨hcall, hc, hrel, a, rfl, hcase⟩ | ⟨hcall, rfl, rfl⟩ | ⟨n, rfl, rfl, rfl⟩ :=
      takes_behaving ht
    · have hh := handed_note r call a s'
      have hrr := released_note r (some a) s' hcall
      refine ⟨?_, hrr ▸ hrel.trans counted⟩
      rw [hh, hrr]
      obtain ⟨h0, -, hres⟩ | ⟨hn, -, t, hres⟩ := hcase
      · have hres' : (r.note call (some a) s').state.results = r.state.results := hres
        rw [h0, holding_zero, List.nil_append, hres']
        exact kept
      · have hres' : (r.note call (some a) s').state.results =
          (r.state.nextHandle, t) :: r.state.results := hres
        rw [hn, holding_of_ne ((reached hg).nextHandle_ne_zero (hc ▸ room)), hres']
        exact (kept.cons _).trans List.perm_middle.symm
    · have hrr := released_note r none r.state hcall
      exact ⟨hrr ▸ kept, hrr ▸ counted⟩
    · -- The handle was handed out and is not yet released, so its result is still kept.
      obtain ⟨-, hm, hnot⟩ := hd _ _ List.suffix_rfl n rfl
      have hkeys : n ∈ r.state.results.map (·.1) :=
        (List.mem_append.mp (kept.mem_iff.mp hm)).resolve_left hnot
      have hdistinct := List.Nodup.of_append_right (kept.nodup_iff.mp (numbered hg hr).distinct)
      have hkept := perm_release hdistinct hkeys
      refine ⟨?_, congrArg Nat.succ counted⟩
      calc handed r.history
        _ ~ released r.history ++ r.state.results.map (·.1) := kept
        _ ~ released r.history ++ n :: (r.state.release n).results.map (·.1) := hkept.append_left _
        _ ~ n :: (released r.history ++ (r.state.release n).results.map (·.1)) := List.perm_middle

/-- **The engine is balanced at every moment.** -/
theorem balanced_moments [Sql.Reader] (h : Genuine (behaving modes) (.fresh (.fresh files)) r)
    (room : r.state.collects < UInt64.size) (hd : Disciplined r.history) :
    ∀ e earlier, e :: earlier <:+ r.history → Balanced ⟨e.state, e :: earlier⟩ := by
  have whole := balanced h room hd
  induction h with
  | refl => exact fun e earlier hs => nomatch List.suffix_nil.mp hs
  | @step r call reply s' hg ht ih =>
    intro e earlier hs
    obtain hs | hs := List.suffix_cons_iff.mp hs
    · cases hs
      exact whole
    · have hr : r.state.collects < UInt64.size := Nat.lt_of_le_of_lt (collects_le ht) room
      exact ih hr hd.tail (balanced hg hr hd.tail) e earlier hs

end Genuine
end Store
end FramePlan.Engine
