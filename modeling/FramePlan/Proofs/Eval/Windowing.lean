import FramePlan.Eval.Window
import FramePlan.Proofs.Eval.Grouping
import FramePlan.Proofs.Table.Selection

/-!
# What a window asks for

A window evaluates its inner expression on partitions. None of them is empty, and there are none only
if the table has no rows (`groups_spec`), so over a table with rows the inner expression is evaluated
at least once, and never on a table without rows. The name of the window's column is that of the
last of these evaluations: what the inner expression is called on every partition, the window is
called (`window_name`).
-/
namespace FramePlan.Eval

open Table Series

variable {t : Table} {keys : List Series} {height : Nat} {group : List Nat}
  {inner : Table → Outcome Series} {spec : WindowSpec}

/-! ## Partitions -/

theorem ne_nil_of_mem_partition (h : group ∈ partition keys height) : group ≠ [] := by
  obtain ⟨⟨key, rows⟩, hm, rfl⟩ := List.mem_map.mp h
  exact ((mem_groupRows _).mp hm).2

theorem partition_eq_nil_iff : partition keys height = [] ↔ height = 0 := by
  refine ⟨?_, ?_⟩
  · intro h
    -- A first row would stand in a group with itself.
    by_contra hne
    have h0 : 0 < height := Nat.pos_of_ne_zero hne
    obtain ⟨g, hg, -⟩ := (same_group_iff h0 h0).mpr rfl
    rw [h] at hg
    exact List.not_mem_nil hg
  · rintro rfl
    rfl

theorem length_orderPartition (orderBy : List String) (rows : List Nat) :
    Yields (orderPartition t orderBy rows) fun ordered => ordered.length = rows.length := by
  refine Yields.after ?_
  intro columns _
  refine Yields.ok ?_
  rw [List.length_map, sortedRows, List.length_mergeSort, List.length_range, height_take]

theorem groups_spec : Yields (windowGroups t spec) fun groups =>
    (∀ g ∈ groups, g ≠ []) ∧ (groups = [] ↔ t.height = 0) := by
  refine Yields.after ?_
  intro columns _
  refine Yields.ite ?_ ?_
  · intro _ groups hg
    refine ⟨?_, ?_⟩
    · -- An ordered partition has as many rows as the partition it comes from.
      refine Yields.mapM (fun p hp => ?_) groups hg
      refine (length_orderPartition spec.orderBy p).mono ?_
      intro ordered hlen hnil
      rw [hnil, List.length_nil] at hlen
      exact ne_nil_of_mem_partition hp (List.eq_nil_of_length_eq_zero hlen.symm)
    · have hlen := (mapM_eq_ok.mp hg).length_eq
      have hpart : partition columns t.height = [] ↔ t.height = 0 := partition_eq_nil_iff
      rw [← hpart, ← List.length_eq_zero_iff, ← List.length_eq_zero_iff, hlen]
  · intro _
    exact Yields.ok ⟨fun g hg => ne_nil_of_mem_partition hg, partition_eq_nil_iff⟩

theorem groups_ne_nil (filled : 0 < t.height) : Yields (windowGroups t spec) fun groups => groups ≠ [] := by
  refine groups_spec.mono ?_
  rintro groups ⟨-, hnil⟩ h
  exact Nat.ne_of_gt filled (hnil.mp h)

/-! ## Names -/

section

variable {P : String → Prop} {rows : List Nat} {groups : List (List Nat)} {before : Series}

theorem windowName_of_ne (hne : groups ≠ []) (whole : Outcome Series) (last : Series) :
    windowName groups whole last = .ok last.name :=
  if_neg (by simpa using hne)

theorem fillPartition_name (h : Yields (inner (t.take rows)) fun s => P s.name) :
    Yields (fillPartition t inner before rows) fun s => P s.name := by
  refine Yields.bind h ?_
  intro s hs
  refine Yields.after ?_
  intro d _
  refine Yields.after ?_
  intro full _
  exact Yields.ok hs

/-- Over at least one group the name comes from the groups, whatever it was before them. -/
theorem foldlM_fillPartition_name (hne : groups ≠ [])
    (h : ∀ g ∈ groups, Yields (inner (t.take g)) fun s => P s.name) :
    Yields (groups.foldlM (fillPartition t inner) before) fun s => P s.name := by
  cases groups with
  | nil => exact absurd rfl hne
  | cons g gs =>
    obtain ⟨hg, hgs⟩ := List.forall_mem_cons.mp h
    rw [List.foldlM_cons]
    refine Yields.bind (fillPartition_name hg) ?_
    intro first hfirst
    exact Yields.foldlM (fun _ _ rows hr => fillPartition_name (hgs rows hr)) hfirst

/-- Over a table with rows a window is called what its inner expression is called on every part of
    the table that has rows. -/
theorem window_name (ht : 0 < t.height)
    (h : ∀ rows, rows ≠ [] → Yields (inner (t.take rows)) fun s => P s.name) :
    Yields (window t spec inner) fun s => P s.name := by
  refine Yields.bind groups_spec ?_
  intro groups hg
  obtain ⟨hrows, hnil⟩ := hg
  have hne : groups ≠ [] := fun hn => absurd (hnil.mp hn) (Nat.ne_of_gt ht)
  refine Yields.bind (foldlM_fillPartition_name hne fun g hm => h g (hrows g hm)) ?_
  intro s hs
  rw [windowName_of_ne hne]
  exact Yields.ok hs

end

end FramePlan.Eval
