import FramePlan.Proofs.Engine.Custody

/-!
# Sessions keep custody

A session holds the handles of its results and nothing else (`Settled`). Every command keeps this, so
a run of any commands does, and the end of a session leaves nothing to be released.

A name follows the handle of its result: as long as nothing else is collected under the name, the
result has that handle, or it was released or dropped and the handle is on the record as released
(`Follows`).
-/
namespace FramePlan.Engine

variable {σ α : Type}

def Command.collectsAs (name : String) : Command → Bool
  | .collect other _ _ => other == name
  | _ => false

namespace Session

open scoped List

/-! ## Results by name -/

section Results
variable {results : List (String × Collected)} {name other : String}

def heldBy (results : List (String × Collected)) : List Handle :=
  results.flatMap fun r => holding r.2.handle

theorem lookup_without (h : other ≠ name) :
    (without other results).lookup name = results.lookup name := by
  induction results with
  | nil => rfl
  | cons r rest ih =>
    obtain ⟨n, c⟩ := r
    by_cases hn : n = other
    · subst hn
      have hl : (name == n) = false := beq_eq_false_iff_ne.mpr h.symm
      simpa [without, List.lookup_cons, hl] using ih
    · have hk : (n != other) = true := bne_iff_ne.mpr hn
      simp only [without, List.filter_cons, hk, if_true, List.lookup_cons]
      split
      · rfl
      · exact ih

theorem notMem_without : name ∉ (without name results).map (·.1) := by
  simp [without]

theorem lookup_without_self : (without name results).lookup name = none := by
  refine List.lookup_eq_none_iff.mpr fun r hr => ?_
  have hn : r.1 ≠ name := bne_iff_ne.mp (List.mem_filter.mp hr).2
  exact bne_iff_ne.mpr hn.symm

theorem nodup_without (h : (results.map (·.1)).Nodup) :
    ((without name results).map (·.1)).Nodup :=
  h.sublist (List.filter_sublist.map _)

theorem heldBy_perm (h : (results.map (·.1)).Nodup) (name : String) :
    (heldBy results).Perm
      (holding ((results.lookup name).getD ⟨0⟩).handle ++ heldBy (without name results)) := by
  induction results with
  | nil => exact .refl []
  | cons r rest ih =>
    obtain ⟨n, c⟩ := r
    obtain ⟨hn, hr⟩ := List.nodup_cons.mp h
    by_cases hk : n = name
    · -- No other result has the name.
      subst hk
      have hw : without n rest = rest := by
        refine List.filter_eq_self.mpr fun r hr => bne_iff_ne.mpr fun he => hn ?_
        exact he ▸ List.mem_map_of_mem (f := (·.1)) hr
      have hw' : without n ((n, c) :: rest) = rest := by simpa [without] using hw
      rw [List.lookup_cons_self, hw']
      exact .refl _
    · have hw : without name ((n, c) :: rest) = (n, c) :: without name rest := by
        simp [without, hk]
      have hl : ((n, c) :: rest).lookup name = rest.lookup name := by
        rw [List.lookup_cons, beq_eq_false_iff_ne.mpr (Ne.symm hk)]
      rw [hl, hw]
      calc heldBy ((n, c) :: rest)
        _ ~ holding c.handle ++ (holding ((rest.lookup name).getD ⟨0⟩).handle ++
              heldBy (without name rest)) := (ih hr).append_left _
        _ ~ holding ((rest.lookup name).getD ⟨0⟩).handle ++
              (holding c.handle ++ heldBy (without name rest)) := List.perm_append_comm_assoc ..

end Results

/-! ## Commands -/

variable {b : Backend σ} {r₀ : Recorded σ} {s : Session (Recorded σ)}

theorem custody_release (extra : List Handle) {l : Link (Recorded σ)}
    (names : (s.results.map (·.1)).Nodup) (hl : Custody b r₀ l (extra ++ heldBy s.results))
    (name : String) :
    Custody b r₀ (Engine.release (recording b) (s.result name) l).2
      (extra ++ heldBy (without name s.results)) := by
  refine release_leaves b r₀ _ _ l (hl.perm ?_)
  calc extra ++ heldBy s.results
    _ ~ extra ++ (holding (s.result name).handle ++ heldBy (without name s.results)) :=
      (heldBy_perm names name).append_left extra
    _ ~ holding (s.result name).handle ++ (extra ++ heldBy (without name s.results)) :=
      List.perm_append_comm_assoc ..

/-- The handles still to be released are those of the results, whose names are distinct. -/
structure Settled (b : Backend σ) (r₀ : Recorded σ) (s : Session (Recorded σ)) : Prop where
  custody : Custody b r₀ s.link (heldBy s.results)
  names : (s.results.map (·.1)).Nodup

namespace Settled

theorem start (b : Backend σ) (state : σ) (owner : String) (destroys : Bool) :
    Settled b (.fresh state) (.start (.fresh state) owner destroys) :=
  ⟨.fresh b state, .nil⟩

theorem question (h : Settled b r₀ s) (name : String) {x : Talk (Recorded σ) α}
    (hx : holding (s.result name).handle ⊆ heldBy s.results →
      Leaves b r₀ (heldBy s.results) x fun _ => heldBy s.results) :
    Settled b r₀ (s.converse x).2 := by
  refine ⟨hx ?_ s.link h.custody, h.names⟩
  intro n hn
  exact (heldBy_perm h.names name).mem_iff.mpr (List.mem_append_left _ hn)

/-- A result that is stored takes the place of the one that had the name. -/
theorem store {name : String} {c : Collected} (names : (s.results.map (·.1)).Nodup)
    (hl : Custody b r₀ s.link (holding c.handle ++ heldBy (without name s.results))) :
    Settled b r₀ (s.store name c) :=
  ⟨hl, List.nodup_cons.mpr ⟨notMem_without, nodup_without names⟩⟩

theorem settle (h : Settled b r₀ s) : Settled b r₀ s.settle := by
  unfold Session.settle
  split
  · exact ⟨h.custody.destroy, h.names⟩
  · exact h

theorem drop (h : Settled b r₀ s) (name : String) : Settled b r₀ (s.drop (recording b) name) := by
  have hr := custody_release [] h.names h.custody name
  unfold Session.drop
  split
  · exact h
  · rename_i c hc
    rw [result, hc] at hr
    exact settle ⟨hr, nodup_without h.names⟩

theorem disown (h : Settled b r₀ s) (owner : String) : Settled b r₀ (s.disown owner) := by
  unfold Session.disown
  split
  · exact settle ⟨h.custody, h.names⟩
  · exact h

/-- **A command keeps custody.** -/
theorem step (h : Settled b r₀ s) (c : Command) : Settled b r₀ (s.step (recording b) c).2 := by
  have composes := composes_leaves b r₀ (heldBy s.results)
  cases c with
  | collect name owner frame =>
    have hl := submit_leaves b r₀ _ frame s.link h.custody
    simp only [Session.step, converse]
    generalize submit (recording b) frame s.link = r at hl ⊢
    obtain ⟨e | c, l⟩ := r
    · exact ⟨hl, h.names⟩
    · -- The new result is held along with all others until the one of the same name is released.
      exact store (s := ⟨_, s.results, s.owners, s.destroys⟩) h.names
        (custody_release _ h.names hl name)
  | height name => exact h.question name fun hn => composes.height (asks_leaves hn)
  | width name => exact h.question name fun hn => composes.width (asks_leaves hn)
  | shape name => exact h.question name fun hn => composes.shape (asks_leaves hn)
  | render name => exact h.question name fun hn => composes.render (asks_leaves hn)
  | display name => exact h.question name fun hn => composes.display (asks_leaves hn)
  | describe name => exact h
  | inspect name => exact h
  | release name =>
    have hr := custody_release [] h.names h.custody name
    simp only [Session.step]
    split
    · exact h
    · rename_i c hc
      rw [result, hc] at hr
      simp only [converse, release_fst]
      exact store (s := ⟨_, s.results, s.owners, s.destroys⟩) h.names hr
  | drop name => exact h.drop name
  | share owner copy => exact ⟨h.custody, h.names⟩
  | disown owner => exact h.disown owner

/-- **A run keeps custody.** -/
theorem run (h : Settled b r₀ s) (cs : List Command) :
    Settled b r₀ (s.run (recording b) cs).2 := by
  induction cs generalizing s with
  | nil => exact h
  | cons c cs ih => exact ih (h.step c)

end Settled

/-! ## What becomes of a result -/

/-- The result of a name has the handle, or the handle is released and the result with it. -/
def Follows (name : String) (h : Handle) (s : Session (Recorded σ)) : Prop :=
  s.result name = ⟨h⟩ ∨ s.result name = ⟨0⟩ ∧ h ∈ released s.link.state.history

theorem result_store (s : Session σ) (name : String) (c : Collected) :
    (s.store name c).result name = c := by
  simp [result, store]

theorem result_store_of_ne {name other : String} (h : other ≠ name) (c : Collected) :
    (s.store other c).result name = s.result name := by
  have hl : (name == other) = false := beq_eq_false_iff_ne.mpr h.symm
  simp only [result, store, List.lookup_cons, hl, lookup_without h]

theorem settle_link_state (s : Session (Recorded σ)) : s.settle.link.state = s.link.state := by
  unfold settle
  split <;> rfl

theorem settle_results (s : Session σ) : s.settle.results = s.results := by
  unfold settle
  split <;> rfl

theorem Settled.grows (h : Settled b r₀ s) (c : Command) :
    s.link.state.history <:+ (s.step (recording b) c).2.link.state.history := by
  have hs : Settled b s.link.state s := ⟨{ h.custody with genuine := .refl }, h.names⟩
  exact (hs.step c).custody.genuine.grows

/-- Unless something else is collected under the name, a command leaves the result of a name or
    releases it. -/
theorem step_result {name : String} {c : Command} (hc : c.collectsAs name = false) :
    (s.step (recording b) c).2.result name = s.result name ∨
      (s.step (recording b) c).2.result name = ⟨0⟩ ∧ ((s.result name).handle ≠ 0 →
        (s.result name).handle ∈ released (s.step (recording b) c).2.link.state.history) := by
  cases c with
  | collect other owner frame =>
    have hn : other ≠ name := beq_eq_false_iff_ne.mp hc
    simp only [step, converse]
    generalize submit (recording b) frame s.link = r
    obtain ⟨e | c, l⟩ := r
    · exact .inl rfl
    · exact .inl (result_store_of_ne hn c)
  | release other =>
    simp only [step]
    split
    · exact .inl rfl
    rename_i c hl
    by_cases hn : other = name
    · subst hn
      have hr : s.result other = c := by rw [result, hl, Option.getD_some]
      refine .inr ⟨?_, fun h0 => ?_⟩
      · rw [result_store, converse, release_fst]
      · rw [hr] at h0 ⊢
        exact mem_released_release h0 s.link
    · exact .inl (result_store_of_ne hn _)
  | drop other =>
    simp only [step, drop]
    split
    · exact .inl rfl
    rename_i c hl
    by_cases hn : other = name
    · subst hn
      have hr : s.result other = c := by rw [result, hl, Option.getD_some]
      refine .inr ⟨?_, fun h0 => ?_⟩
      · rw [result, settle_results, lookup_without_self, Option.getD_none]
      · rw [hr] at h0 ⊢
        rw [settle_link_state]
        exact mem_released_release h0 s.link
    · left
      rw [result, settle_results, lookup_without hn]
      rfl
  | disown owner =>
    simp only [step, disown]
    split
    · left
      rw [result, settle_results]
      rfl
    · exact .inl rfl
  | height _ | width _ | shape _ | render _ | display _ | describe _ | inspect _ | share _ _ =>
    exact .inl rfl

theorem Follows.step {name : String} {h : Handle} {c : Command} (hs : Settled b r₀ s)
    (hf : Follows name h s) (hc : c.collectsAs name = false) :
    Follows name h (s.step (recording b) c).2 := by
  obtain hk | ⟨hz, hm⟩ := step_result (s := s) (b := b) hc
  · -- The result is what it was, and what was on the record still is.
    rw [Follows, hk]
    exact hf.imp_right fun ⟨h0, hr⟩ => ⟨h0, released_subset (hs.grows c) hr⟩
  · obtain hh | ⟨-, hr⟩ := hf
    · by_cases h0 : h = 0
      · exact .inl (by rw [hz, h0])
      · rw [hh] at hm
        exact .inr ⟨hz, hm h0⟩
    · exact .inr ⟨hz, released_subset (hs.grows c) hr⟩

/-- **A name follows its handle through a run.** -/
theorem Follows.run {name : String} {h : Handle} {cs : List Command} (hs : Settled b r₀ s)
    (hf : Follows name h s) (hc : ∀ c ∈ cs, c.collectsAs name = false) :
    Follows name h (s.run (recording b) cs).2 := by
  induction cs generalizing s with
  | nil => exact hf
  | cons c cs ih =>
    have hfirst := hf.step hs (hc c List.mem_cons_self)
    exact ih (hs.step c) hfirst fun c hm => hc c (List.mem_cons_of_mem _ hm)

theorem result_of_collect {b : Backend σ} {s : Session σ} {name owner : String} {f : Frame}
    {h : Handle} (ha : (s.step b (.collect name owner f)).1 = .handle h) :
    (s.step b (.collect name owner f)).2.result name = ⟨h⟩ := by
  simp only [step, converse] at ha ⊢
  generalize submit b f s.link = r at ha ⊢
  obtain ⟨e | c, l⟩ := r
  · cases ha
  · cases ha
    exact result_store ⟨(release b (s.result name) l).2, s.results, s.owners, s.destroys⟩ name c

/-! ## The end of a session -/

section Ending
variable {b : Backend σ}

theorem run_append (s : Session σ) (cs ds : List Command) :
    (s.run b (cs ++ ds)).2 = ((s.run b cs).2.run b ds).2 := by
  induction cs generalizing s with
  | nil => rfl
  | cons c cs ih => exact ih _

theorem run_drops (s : Session σ) (names : List String) :
    (s.run b (names.map .drop)).2 = names.foldl (drop b) s := by
  induction names generalizing s with
  | nil => rfl
  | cons name names ih => exact ih _

theorem run_disowns (s : Session σ) (owners : List String) :
    (s.run b (owners.map .disown)).2 = owners.foldl disown s := by
  induction owners generalizing s with
  | nil => rfl
  | cons owner owners ih => exact ih _

/-- The end of a session is a run of commands. -/
theorem finish_eq_run (s : Session σ) : ∃ ds, s.finish b = (s.run b ds).2 := by
  refine ⟨(inOrder (s.results.map (·.1))).map .drop ++
    (inOrder ((inOrder (s.results.map (·.1))).foldl (drop b) s).owners).map .disown, ?_⟩
  rw [run_append, run_drops, run_disowns]
  rfl

theorem drop_results (s : Session σ) (name : String) :
    (s.drop b name).results = without name s.results := by
  unfold drop
  split
  · rename_i hl
    refine (List.filter_eq_self.mpr fun r hr => bne_iff_ne.mpr fun hn => ?_).symm
    exact bne_iff_ne.mp (List.lookup_eq_none_iff.mp hl r hr) hn.symm
  · rw [settle_results]
    rfl

theorem disown_results (s : Session σ) (owner : String) : (s.disown owner).results = s.results := by
  unfold disown
  split
  · rw [settle_results]
  · rfl

theorem foldl_drop_results (names : List String) (s : Session σ) :
    (names.foldl (drop b) s).results = s.results.filter fun r => r.1 ∉ names := by
  induction names generalizing s with
  | nil => simp
  | cons name names ih =>
    rw [List.foldl_cons, ih, drop_results, without, List.filter_filter]
    refine List.filter_congr fun r _ => ?_
    by_cases hn : r.1 = name <;> simp [hn]

theorem foldl_disown_results (owners : List String) (s : Session σ) :
    (owners.foldl disown s).results = s.results := by
  induction owners generalizing s with
  | nil => rfl
  | cons owner owners ih => rw [List.foldl_cons, ih, disown_results]

theorem finish_results (s : Session σ) : (s.finish b).results = [] := by
  have hd := foldl_drop_results (b := b) (inOrder (s.results.map (·.1))) s
  rw [finish, foldl_disown_results, hd]
  refine List.filter_eq_nil_iff.mpr fun r hr => ?_
  have hm : r.1 ∈ inOrder (s.results.map (·.1)) := List.mem_mergeSort.mpr (List.mem_map_of_mem hr)
  simpa using hm

end Ending
end Session
end FramePlan.Engine
