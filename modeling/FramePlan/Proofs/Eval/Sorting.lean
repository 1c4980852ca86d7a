import FramePlan.Eval.Plan
import FramePlan.Proofs.Eval.Order
import FramePlan.Proofs.Table.Selection

/-!
# Sorting

Rows that are level in all sort columns stay as they stand, so a sort is by the sort columns first and
by the place of the row last (`rowOrder`). That is a strict order of all rows, in which there is one way
to arrange them: the sorted rows are the arrangement of the rows in which each stands before those
behind it (`eq_sortedRows_iff`). From this:

1. `sort_stable`: what a sort gives, with the comparison of rows replaced by the lexicographic order of
   their keys.
2. `sort_sort`: a sort after another one is one sort, by the later fields first. The rows of the two
   sorts, one selected from the other, are arranged by the fields together (`pickRows_sortedRows`).
-/
namespace FramePlan.Eval

open Table Series Std

variable {t : Table} {keys more : List (Series × Bool)} {rows : List Nat} {n i j : Nat}
  {fields xs ys : List SortField}

/-! ## The order of all rows -/

/-- The order of two rows by their keys, and of rows with one key by their places. -/
def rowOrder (keys : List (Series × Bool)) : Nat → Nat → Ordering := compareLex (compareRows keys) compare

/-- One row stands before the other one in a sorted table. -/
def Precedes (keys : List (Series × Bool)) (i j : Nat) : Prop := rowOrder keys i j = .lt

instance (keys : List (Series × Bool)) (i j : Nat) : Decidable (Precedes keys i j) :=
  inferInstanceAs (Decidable (_ = _))

theorem transCmp_rowOrder (h : TypedKeys keys) : TransCmp (rowOrder keys) := by
  have := transCmp_compareRows h
  exact inferInstanceAs (TransCmp (compareLex (compareRows keys) compare))

theorem precedes_iff :
    Precedes keys i j ↔ compareRows keys i j = .lt ∨ compareRows keys i j = .eq ∧ i < j := by
  rw [Precedes, rowOrder, compareLex, Ordering.then_eq_lt, Nat.compare_eq_lt]

/-- One row stands before the other one by its key, or, if they have one key, by its place. -/
theorem precedes_iff_rowBefore (h : TypedKeys keys) : Precedes keys i j ↔
    (RowBefore keys i j ∨ sortKey keys i = sortKey keys j) ∧ (sortKey keys i = sortKey keys j → i < j) := by
  rw [precedes_iff]
  constructor
  · rintro (hlt | ⟨heq, hlt⟩)
    · refine ⟨.inl ((compareRows_eq_lt h).mp hlt), fun hsame => ?_⟩
      rw [(compareRows_eq_eq h).mpr hsame] at hlt
      cases hlt
    · exact ⟨.inr ((compareRows_eq_eq h).mp heq), fun _ => hlt⟩
  · rintro ⟨hbefore | hsame, hplaces⟩
    · exact .inl ((compareRows_eq_lt h).mpr hbefore)
    · exact .inr ⟨(compareRows_eq_eq h).mpr hsame, hplaces hsame⟩

theorem eq_of_rowOrder_eq (h : rowOrder keys i j = .eq) : i = j := by
  rw [rowOrder, compareLex, Ordering.then_eq_eq] at h
  exact Nat.compare_eq_eq.mp h.2

theorem Precedes.asymm (hk : TypedKeys keys) (h : Precedes keys i j) : ¬Precedes keys j i := by
  have := transCmp_rowOrder hk
  intro h'
  have hgt : rowOrder keys i j = .gt := OrientedCmp.gt_of_lt h'
  rw [h] at hgt
  cases hgt

theorem precedes_append : Precedes (keys ++ more) i j ↔
    compareRows keys i j = .lt ∨ compareRows keys i j = .eq ∧ Precedes more i j := by
  simp only [Precedes, rowOrder, compareLex, compareRows_append, Ordering.then_assoc,
    Ordering.then_eq_lt]

def takeKeys (keys : List (Series × Bool)) (rows : List Nat) : List (Series × Bool) :=
  keys.map fun k => (k.1.take rows, k.2)

theorem TypedKeys.take (h : TypedKeys keys) (rows : List Nat) : TypedKeys (takeKeys keys rows) := by
  intro k hk
  obtain ⟨k, hm, rfl⟩ := List.mem_map.mp hk
  exact typed_take (h k hm) rows

theorem compareRows_takeKeys (keys : List (Series × Bool)) (hi : i < rows.length)
    (hj : j < rows.length) : compareRows (takeKeys keys rows) i j = compareRows keys rows[i] rows[j] := by
  induction keys with
  | nil => rfl
  | cons k rest ih =>
    have htake : takeKeys (k :: rest) rows = (k.1.take rows, k.2) :: takeKeys rest rows := rfl
    rw [htake, compareRows, compareRows, cellAt_take k.1 hi, cellAt_take k.1 hj, ih]

/-! ## Sorted rows -/

/-- A sort that keeps level rows as they stand is one by the order of all rows. -/
theorem sortedRows_eq (h : TypedKeys keys) (n : Nat) :
    sortedRows keys n = (List.range n).mergeSort fun i j => (rowOrder keys i j).isLE := by
  have := transCmp_compareRows h
  -- The sort of numbered rows, where the number of a row is the row.
  have hnumbered : (List.range n).zipIdx = (List.range n).map fun i => (i, i) := by
    apply List.ext_getElem
    · simp
    · intro i hi _
      simp
  have hle (i j : Nat) : (rowOrder keys i j).isLE =
      List.zipIdxLE (fun i j => compareRows keys i j != .gt) (i, i) (j, j) := by
    have hswap : compareRows keys j i = (compareRows keys i j).swap := OrientedCmp.eq_swap
    simp only [rowOrder, compareLex, List.zipIdxLE, hswap]
    cases compareRows keys i j with
    | lt => rfl
    | gt => rfl
    | eq =>
      show (compare i j).isLE = decide (i ≤ j)
      rw [Bool.eq_iff_iff, Nat.isLE_compare, decide_eq_true_eq]
  rw [sortedRows, ← List.mergeSort_zipIdx, hnumbered, ← List.map_mergeSort fun i _ j _ => hle i j,
    List.map_map]
  exact List.map_id _

theorem sortedRows_perm (keys : List (Series × Bool)) (n : Nat) :
    (sortedRows keys n).Perm (List.range n) :=
  List.mergeSort_perm _ _

theorem lt_of_mem_sortedRows (h : i ∈ sortedRows keys n) : i < n :=
  List.mem_range.mp ((sortedRows_perm keys n).mem_iff.mp h)

@[simp] theorem length_sortedRows (keys : List (Series × Bool)) (n : Nat) :
    (sortedRows keys n).length = n := by
  rw [(sortedRows_perm keys n).length_eq, List.length_range]

theorem pairwise_sortedRows (h : TypedKeys keys) (n : Nat) :
    (sortedRows keys n).Pairwise (Precedes keys) := by
  have := transCmp_rowOrder h
  have hsorted : (sortedRows keys n).Pairwise fun i j => (rowOrder keys i j).isLE = true := by
    rw [sortedRows_eq h]
    apply List.pairwise_mergeSort
    · intro i j k
      exact TransCmp.isLE_trans
    · intro i j
      have hswap : rowOrder keys j i = (rowOrder keys i j).swap := OrientedCmp.eq_swap
      rw [hswap]
      cases rowOrder keys i j <;> rfl
  have hnodup : (sortedRows keys n).Nodup := (sortedRows_perm keys n).nodup_iff.mpr List.nodup_range
  refine (hsorted.and hnodup).imp ?_
  rintro i j ⟨hle, hne⟩
  cases ho : rowOrder keys i j with
  | lt => exact ho
  | eq => exact absurd (eq_of_rowOrder_eq ho) hne
  | gt => rw [ho] at hle; cases hle

/-- There is one arrangement of the rows in which each stands before those behind it. -/
theorem eq_sortedRows_iff (h : TypedKeys keys) :
    rows = sortedRows keys n ↔ rows.Perm (List.range n) ∧ rows.Pairwise (Precedes keys) := by
  refine ⟨?_, ?_⟩
  · rintro rfl
    exact ⟨sortedRows_perm keys n, pairwise_sortedRows h n⟩
  · rintro ⟨hperm, hpairs⟩
    apply List.Perm.eq_of_pairwise _ hpairs (pairwise_sortedRows h n)
    · exact hperm.trans (sortedRows_perm keys n).symm
    · intro i j _ _ hij hji
      exact absurd hji (hij.asymm h)

theorem sortedRows_append_self (keys : List (Series × Bool)) (n : Nat) :
    sortedRows (keys ++ keys) n = sortedRows keys n := by
  have hsame : ∀ i j, compareRows (keys ++ keys) i j = compareRows keys i j := by
    intro i j
    rw [compareRows_append]
    cases compareRows keys i j <;> rfl
  simp only [sortedRows, hsame]

/-- Rows that are sorted, and then sorted by other columns at the sorted rows, are sorted by the other
    columns and then by the first ones. -/
theorem pickRows_sortedRows (hk : TypedKeys keys) (hm : TypedKeys more) (n : Nat) :
    pickRows (sortedRows keys n) (sortedRows (takeKeys more (sortedRows keys n)) n) =
      sortedRows (more ++ keys) n := by
  have hboth : TypedKeys (more ++ keys) := List.forall_mem_append.mpr ⟨hm, hk⟩
  have hsorted := pairwise_sortedRows hk n
  generalize hrows : sortedRows keys n = rows at hsorted
  have hlen : rows.length = n := by rw [← hrows, length_sortedRows]
  have hperm : rows.Perm (List.range n) := hrows ▸ sortedRows_perm keys n
  rw [eq_sortedRows_iff hboth]
  refine ⟨?_, ?_⟩
  · have hpick := (sortedRows_perm (takeKeys more rows) n).map fun i => (rows[i]?).getD 0
    have hall : (List.range n).map (fun i => (rows[i]?).getD 0) = rows := by
      rw [← hlen]
      exact pickRows_range rows
    rw [hall] at hpick
    exact hpick.trans hperm
  · rw [pickRows, List.pairwise_map]
    refine (pairwise_sortedRows (hm.take rows) n).imp_of_mem ?_
    intro i j hi hj hij
    have hi : i < rows.length := hlen.symm ▸ lt_of_mem_sortedRows hi
    have hj : j < rows.length := hlen.symm ▸ lt_of_mem_sortedRows hj
    rw [precedes_iff, compareRows_takeKeys more hi hj] at hij
    rw [List.getElem?_eq_getElem hi, List.getElem?_eq_getElem hj, Option.getD_some, Option.getD_some,
      precedes_append]
    -- Rows that are level in the second sort stand as the first one has put them.
    obtain hlt | ⟨heq, hlt⟩ := hij
    · exact .inl hlt
    · exact .inr ⟨heq, List.pairwise_iff_getElem.mp hsorted i j hi hj hlt⟩

/-! ## Sorted tables -/

/-- The columns that the fields name in a table, with their directions. -/
def SortColumns (t : Table) (fields : List SortField) (keys : List (Series × Bool)) : Prop :=
  List.Forall₂ (fun f k => t.column f.column = .ok k.1 ∧ k.2 = f.descending) fields keys

def Resolve (t : Table) (fields : List SortField) : Prop :=
  ∀ f ∈ fields, ∃ s, t.column f.column = .ok s

theorem Resolve.exists_columns (h : Resolve t fields) : ∃ keys, SortColumns t fields keys := by
  induction fields with
  | nil => exact ⟨[], .nil⟩
  | cons f rest ih =>
    obtain ⟨⟨s, hs⟩, hrest⟩ := List.forall_mem_cons.mp h
    obtain ⟨keys, hkeys⟩ := ih hrest
    exact ⟨(s, f.descending) :: keys, .cons ⟨hs, rfl⟩ hkeys⟩

namespace SortColumns

theorem sortBy_eq (h : SortColumns t fields keys) :
    sortBy t fields = .ok (t.take (sortedRows keys t.height)) := by
  have hkeys : (fields.map fun f => (f.column, f.descending)).mapM (fun f => do
      let s ← t.column f.1
      pure (s, f.2)) = .ok keys := by
    rw [mapM_eq_ok, List.forall₂_map_left_iff]
    refine h.imp ?_
    rintro f ⟨s, descending⟩ ⟨hs, hd⟩
    have hs : t.column f.column = .ok s := hs
    have hd : descending = f.descending := hd
    rw [hs, hd]
    rfl
  rw [sortBy, sort, hkeys]
  rfl

theorem typed (ht : t.WellFormed) (h : SortColumns t fields keys) : TypedKeys keys := by
  induction h with
  | nil => exact fun k hk => absurd hk List.not_mem_nil
  | cons hfk _ ih => exact List.forall_mem_cons.mpr ⟨(ht.column _ _ hfk.1).typed, ih⟩

theorem append (hx : SortColumns t xs keys) (hy : SortColumns t ys more) :
    SortColumns t (xs ++ ys) (keys ++ more) :=
  List.rel_append hx hy

theorem take (h : SortColumns t fields keys) (rows : List Nat) :
    SortColumns (t.take rows) fields (takeKeys keys rows) := by
  rw [SortColumns, takeKeys, List.forall₂_map_right_iff]
  refine h.imp ?_
  rintro f k ⟨hcol, hd⟩
  rw [column_take, hcol]
  exact ⟨rfl, hd⟩

theorem sortBy_arranged (ht : t.WellFormed) (h : SortColumns t fields keys)
    (hperm : rows.Perm (List.range t.height)) (hpairs : rows.Pairwise (Precedes keys)) :
    sortBy t fields = .ok (t.take rows) := by
  rw [h.sortBy_eq, (eq_sortedRows_iff (h.typed ht)).mpr ⟨hperm, hpairs⟩]

theorem sortBy_sorted (ht : t.WellFormed) (hx : SortColumns t xs keys) (hy : SortColumns t ys more) :
    sortBy (t.take (sortedRows keys t.height)) ys =
      .ok (t.take (sortedRows (more ++ keys) t.height)) := by
  have hlt : ∀ i ∈ sortedRows (takeKeys more (sortedRows keys t.height)) t.height,
      i < (sortedRows keys t.height).length := by
    intro i hi
    rw [length_sortedRows]
    exact lt_of_mem_sortedRows hi
  rw [(hy.take (sortedRows keys t.height)).sortBy_eq, height_take, length_sortedRows, take_take t hlt,
    pickRows_sortedRows (hx.typed ht) (hy.typed ht)]

end SortColumns

/-- **A sort is by the keys of the rows, and it is stable.** Let sort fields name columns of a
well-formed table. Then the sort takes all rows of the table, each of them once, in an order in which the
keys ascend lexicographically: in each column nulls stand behind the other cells, whatever its
direction, and the other cells ascend or descend. Rows of one key stand as they stood before. -/
theorem sort_stable (ht : t.WellFormed) (resolve : Resolve t fields) :
    ∃ keys rows, SortColumns t fields keys ∧ sortBy t fields = .ok (t.take rows) ∧
      rows.Perm (List.range t.height) ∧
      rows.Pairwise fun i j => (RowBefore keys i j ∨ sortKey keys i = sortKey keys j) ∧
        (sortKey keys i = sortKey keys j → i < j) := by
  obtain ⟨keys, hkeys⟩ := resolve.exists_columns
  have htyped := hkeys.typed ht
  refine ⟨keys, sortedRows keys t.height, hkeys, hkeys.sortBy_eq, sortedRows_perm keys t.height, ?_⟩
  exact (pairwise_sortedRows htyped t.height).imp (precedes_iff_rowBefore htyped).mp

/-- Entrants of two teams. Those of the first team have no points yet. -/
def entrants : Table :=
  ⟨[⟨"name", .str, [.str "Uma", .str "Eli", .str "Ivo", .str "Ada"]⟩,
    ⟨"team", .str, [.str "b", .str "a", .str "b", .str "a"]⟩,
    ⟨"points", .i64, [.int 1, .null, .int 3, .null]⟩], 4⟩

def byTeam : List SortField := [⟨"team", false⟩]

def byPoints : List SortField := [⟨"points", true⟩]

def teamKey : Series × Bool := (⟨"team", .str, [.str "b", .str "a", .str "b", .str "a"]⟩, false)

def pointsKey : Series × Bool := (⟨"points", .i64, [.int 1, .null, .int 3, .null]⟩, true)

theorem wellFormed_entrants : entrants.WellFormed := by
  simp [WellFormed, SeriesTyped, CellHas, Series.length, names, entrants]

theorem resolve_byTeam : Resolve entrants byTeam := by
  intro f hf
  rw [List.mem_singleton.mp hf]
  exact ⟨_, rfl⟩

theorem resolve_byPoints : Resolve entrants byPoints := by
  intro f hf
  rw [List.mem_singleton.mp hf]
  exact ⟨_, rfl⟩

/-- The entrants by their points, the highest first. The two without points are last, as they stood. -/
theorem sort_stable_entrants : SortColumns entrants byPoints [pointsKey] ∧
    sortBy entrants byPoints = .ok (entrants.take [2, 0, 1, 3]) ∧
    entrants.take [2, 0, 1, 3] =
      ⟨[⟨"name", .str, [.str "Ivo", .str "Uma", .str "Eli", .str "Ada"]⟩,
        ⟨"team", .str, [.str "b", .str "b", .str "a", .str "a"]⟩,
        ⟨"points", .i64, [.int 3, .int 1, .null, .null]⟩], 4⟩ ∧
    [2, 0, 1, 3].Perm (List.range 4) ∧
    [2, 0, 1, 3].Pairwise fun i j =>
      (RowBefore [pointsKey] i j ∨ sortKey [pointsKey] i = sortKey [pointsKey] j) ∧
        (sortKey [pointsKey] i = sortKey [pointsKey] j → i < j) := by
  obtain ⟨keys, rows, hkeys, hsort, hperm, horder⟩ := sort_stable wellFormed_entrants resolve_byPoints
  -- There is one key, the column of points, and by it one arrangement of the rows.
  obtain rfl : keys = [pointsKey] := by
    obtain ⟨⟨s, descending⟩, _, ⟨hcolumn, rfl⟩, hnone, rfl⟩ := List.forall₂_cons_left_iff.mp hkeys
    cases hnone
    cases hcolumn
    rfl
  have htyped := hkeys.typed wellFormed_entrants
  have hsorted : rows = sortedRows [pointsKey] 4 :=
    (eq_sortedRows_iff htyped).mpr ⟨hperm, horder.imp (precedes_iff_rowBefore htyped).mpr⟩
  have hrows : [2, 0, 1, 3] = sortedRows [pointsKey] 4 :=
    (eq_sortedRows_iff htyped).mpr ⟨by decide, by decide⟩
  obtain rfl : rows = [2, 0, 1, 3] := hsorted.trans hrows.symm
  exact ⟨hkeys, hsort, rfl, hperm, horder⟩

/-- **Sorts compose.** A table that is sorted by some fields, and then by others, is the table sorted by
the others first and then by the former; and to sort it twice by the same fields is to sort it once. -/
theorem sort_sort (ht : t.WellFormed) (hx : Resolve t xs) (hy : Resolve t ys) :
    ∃ u v, sortBy t xs = .ok u ∧ sortBy u ys = .ok v ∧ sortBy t (ys ++ xs) = .ok v ∧
      sortBy u xs = .ok u := by
  obtain ⟨kx, hkx⟩ := hx.exists_columns
  obtain ⟨ky, hky⟩ := hy.exists_columns
  refine ⟨_, _, hkx.sortBy_eq, hkx.sortBy_sorted ht hky, (hky.append hkx).sortBy_eq, ?_⟩
  rw [hkx.sortBy_sorted ht hkx, sortedRows_append_self]

/-- Sorted by points and then by teams, the entrants stand by teams, and in each team by points. -/
theorem sort_sort_entrants :
    sortBy entrants byPoints = .ok (entrants.take [2, 0, 1, 3]) ∧
    sortBy (entrants.take [2, 0, 1, 3]) byTeam = .ok (entrants.take [1, 3, 2, 0]) ∧
    sortBy entrants (byTeam ++ byPoints) = .ok (entrants.take [1, 3, 2, 0]) ∧
    sortBy (entrants.take [2, 0, 1, 3]) byPoints = .ok (entrants.take [2, 0, 1, 3]) ∧
    entrants.take [1, 3, 2, 0] =
      ⟨[⟨"name", .str, [.str "Eli", .str "Ada", .str "Ivo", .str "Uma"]⟩,
        ⟨"team", .str, [.str "a", .str "a", .str "b", .str "b"]⟩,
        ⟨"points", .i64, [.null, .null, .int 3, .int 1]⟩], 4⟩ := by
  obtain ⟨u, v, hu, hv, hboth, hagain⟩ := sort_sort wellFormed_entrants resolve_byPoints resolve_byTeam
  have hkey : SortColumns entrants byPoints [pointsKey] := .cons ⟨rfl, rfl⟩ .nil
  have hkeys : SortColumns entrants (byTeam ++ byPoints) [teamKey, pointsKey] := .cons ⟨rfl, rfl⟩ hkey
  have hpoints : sortBy entrants byPoints = .ok (entrants.take [2, 0, 1, 3]) :=
    hkey.sortBy_arranged wellFormed_entrants (by decide) (by decide)
  have hteams : sortBy entrants (byTeam ++ byPoints) = .ok (entrants.take [1, 3, 2, 0]) :=
    hkeys.sortBy_arranged wellFormed_entrants (by decide) (by decide)
  obtain rfl : u = entrants.take [2, 0, 1, 3] := Except.ok.inj (hu.symm.trans hpoints)
  obtain rfl : v = entrants.take [1, 3, 2, 0] := Except.ok.inj (hboth.symm.trans hteams)
  exact ⟨hpoints, hv, hteams, hagain, rfl⟩

end FramePlan.Eval
