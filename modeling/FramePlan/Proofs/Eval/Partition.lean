import FramePlan.Proofs.Eval.Windowing

/-!
# Partitions of rows

`partition` goes through the rows once and puts each behind those of its key text. What comes of it is
a partition of the rows into ascending parts, in the order in which the parts begin (`PartitionsBy`):

1. the parts are the rows of each key text (`mem_partition_iff`), so they are disjoint and cover all rows;
2. they stand in the order of their first rows, since a row that begins a part goes behind all parts
   that have begun before it (`firsts_sublist`).
-/
namespace FramePlan.Eval

variable {keyOf : Nat → Option String} {keys : List Series} {height : Nat} {group : List Nat}

theorem cells_noGroups {o : Outcome Series} : Yields (noGroups o) fun c => c.cells = [] := by
  intro c hc
  obtain ⟨r, -, rfl⟩ := map_eq_ok.mp hc
  cases r <;> rfl

theorem aggregateGroups_nil {t : Table} {item : Table → Outcome Series} {s : Series}
    (h : item (t.take []) = .ok s) : aggregateGroups t [] item = .ok ⟨s.name, s.dtype, []⟩ := by
  rw [aggregateGroups, h]
  rfl

/-! ## The order of groups -/

namespace Grouping

/-- The first row of each group. -/
def firsts (g : Grouping) : List Nat := g.map fun p => p.2.head?.getD 0

/-- A row begins a group if its key is new, and else the groups begin as they did. -/
theorem firsts_add (g : Grouping) (hne : ∀ p ∈ g, p.2 ≠ []) (key : String) (row : Nat) :
    (g.add key row).firsts = if key ∈ g.map (·.1) then g.firsts else g.firsts ++ [row] := by
  induction g with
  | nil => rfl
  | cons p rest ih =>
    obtain ⟨first, rows⟩ := p
    obtain ⟨hrows, hrest⟩ := List.forall_mem_cons.mp hne
    have ih := ih hrest
    by_cases hf : first = key
    · obtain ⟨row', rows, rfl⟩ := List.exists_cons_of_ne_nil hrows
      simp [firsts, add, hf]
    · simp only [firsts] at ih
      simp only [firsts, add, hf, if_false, List.map_cons, ih, List.mem_cons, Ne.symm hf, false_or]
      split <;> rfl

end Grouping

/-- The groups stand in the order in which the rows that begin them stand among the rows. -/
theorem firsts_sublist (rows : List Nat) : (groupRows keyOf rows).firsts.Sublist rows := by
  induction rows using List.reverseRecOn with
  | nil => exact List.Sublist.refl _
  | append_singleton rows row ih =>
    have hne : ∀ p ∈ groupRows keyOf rows, p.2 ≠ [] := fun p hp => ((mem_groupRows keyOf).mp hp).2
    have hold := ih.trans (List.sublist_append_left rows [row])
    rw [groupRows_append]
    cases keyOf row with
    | none => exact hold
    | some key =>
      simp only [Grouping.firsts_add _ hne]
      split
      · exact hold
      · exact ih.append (List.Sublist.refl [row])

/-! ## Partitions -/

def firstRows (groups : List (List Nat)) : List Nat := groups.map fun g => g.head?.getD 0

/-- The lists are a partition of the rows below `height` by what `key` says of them, each in ascending
    order and all in the order of their first rows. -/
structure PartitionsBy {α : Type} (key : Nat → α) (height : Nat) (groups : List (List Nat)) :
    Prop where
  nonempty : ∀ g ∈ groups, g ≠ []
  disjoint : groups.Pairwise List.Disjoint
  ascending : ∀ g ∈ groups, g.Pairwise (· < ·)
  covers : ∀ i, (∃ g ∈ groups, i ∈ g) ↔ i < height
  together : ∀ i j, i < height → j < height → ((∃ g ∈ groups, i ∈ g ∧ j ∈ g) ↔ key i = key j)
  ordered : (firstRows groups).Pairwise (· < ·)

theorem mem_partition_iff : group ∈ partition keys height ↔
    group ≠ [] ∧ ∃ key, group = members (fun row => some (rowKey keys row)) (List.range height) key := by
  rw [partition, List.mem_map]
  constructor
  · rintro ⟨⟨key, rows⟩, hm, rfl⟩
    obtain ⟨hrows, hne⟩ := (mem_groupRows _).mp hm
    exact ⟨hne, key, hrows⟩
  · rintro ⟨hne, key, rfl⟩
    exact ⟨(key, _), (mem_groupRows _).mpr ⟨rfl, hne⟩, rfl⟩

theorem ascending_of_mem_partition (h : group ∈ partition keys height) : group.Pairwise (· < ·) := by
  obtain ⟨-, key, rfl⟩ := mem_partition_iff.mp h
  exact List.pairwise_lt_range.filter _

theorem lt_of_mem_partition (h : group ∈ partition keys height) {i : Nat} (hi : i ∈ group) :
    i < height := by
  obtain ⟨-, key, rfl⟩ := mem_partition_iff.mp h
  exact List.mem_range.mp ((mem_members _).mp hi).1

theorem disjoint_partition (keys : List Series) (height : Nat) :
    (partition keys height).Pairwise List.Disjoint := by
  have hkeys : (groupRows (fun row => some (rowKey keys row)) (List.range height)).Pairwise
      fun p q => p.1 ≠ q.1 :=
    List.pairwise_map.mp (nodup_groupRows _ _)
  rw [partition, List.pairwise_map]
  refine hkeys.imp_of_mem ?_
  rintro ⟨k, rows⟩ ⟨l, rows'⟩ hp hq hne i hi hj
  obtain ⟨rfl, -⟩ := (mem_groupRows _).mp hp
  obtain ⟨rfl, -⟩ := (mem_groupRows _).mp hq
  have hk := ((mem_members _).mp hi).2
  have hl := ((mem_members _).mp hj).2
  exact hne (Option.some.inj (hk.symm.trans hl))

theorem partitionsBy_partition (keys : List Series) (height : Nat) :
    PartitionsBy (rowKey keys) height (partition keys height) where
  nonempty _ h := ne_nil_of_mem_partition h
  disjoint := disjoint_partition keys height
  ascending _ h := ascending_of_mem_partition h
  covers i := by
    constructor
    · rintro ⟨g, hg, hi⟩
      exact lt_of_mem_partition hg hi
    · intro hi
      obtain ⟨g, hg, hig, -⟩ := (same_group_iff hi hi).mpr rfl
      exact ⟨g, hg, hig⟩
  together _ _ hi hj := same_group_iff hi hj
  ordered := by
    have hfirsts : firstRows (partition keys height) =
        (groupRows (fun row => some (rowKey keys row)) (List.range height)).firsts := by
      simp [firstRows, partition, Grouping.firsts]
    rw [hfirsts]
    exact List.pairwise_lt_range.sublist (firsts_sublist _)

/-- All parts together have every row once. -/
theorem flatten_partition_perm (keys : List Series) (height : Nat) :
    (partition keys height).flatten.Perm (List.range height) := by
  have hparts := partitionsBy_partition keys height
  have hnodup : (partition keys height).flatten.Nodup :=
    List.nodup_flatten.mpr ⟨fun g hg => (hparts.ascending g hg).imp Nat.ne_of_lt, hparts.disjoint⟩
  refine (List.perm_ext_iff_of_nodup hnodup List.nodup_range).mpr ?_
  intro i
  rw [List.mem_flatten, List.mem_range]
  exact hparts.covers i

end FramePlan.Eval
