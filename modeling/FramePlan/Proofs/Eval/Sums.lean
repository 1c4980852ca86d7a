import FramePlan.Proofs.Eval.WindowedGroups
import FramePlan.Proofs.Integer.Sum
import FramePlan.Sql.Parser.Statement

/-!
# Sums of integers over rows in another order

The sum of a series of integers is exact if no running sum leaves the range of words, and null
otherwise. So rows in another order can turn a sum into null or back, and nothing else; where the integers
are order-free (`Integer.OrderFree`), they do not even do this.

Windows and groupings evaluate a sum on the rows of each group. Put the rows of a table in another order:
the groups are the same rows, in another order (`pickRows_part_perm`), so a row-wise expression has the
same integers on a group, in another order (`intsOver_group_perm`). Each group's sum is one of these integers then,
added in two orders (`sums_of_perm`), and `integer_sums` puts together what this means for a series, for
windows and for groupings.
-/
namespace FramePlan.Eval

open Table Series
open Integer (OrderFree StaysInRange)

variable {t : Table} {e : Expr} {s : Series} {spec : WindowSpec} {columns : List Series}
  {cells cells' : List Cell} {xs ys zs : List Int64} {rows g g' p q : List Nat} {i j : Nat}

/-! ## The integers of a series -/

def isInt : Cell → Bool
  | .int _ => true
  | _ => false

theorem filter_isInt (cells : List Cell) : cells.filter isInt = (ints cells).map .int := by
  induction cells with
  | nil => rfl
  | cons c cs ih =>
    unfold ints at *
    cases c with
    | int i => exact congrArg (Cell.int i :: ·) ih
    | _ => exact ih

theorem present_eq_ints (h : s.dtype.isInteger = true) (hs : SeriesTyped s) :
    present s.cells = (ints s.cells).map .int := by
  rw [present, ← filter_isInt]
  apply List.filter_congr
  intro c hc
  have hc : CellHas s.dtype c := hs c hc
  revert h hc
  cases s.dtype <;> cases c <;> simp [CellHas, isInt, Cell.isNull, Dtype.isInteger]

theorem ints_present (cells : List Cell) : ints (present cells) = ints cells := by
  rw [ints, present, List.filterMap_filter]
  apply List.filterMap_congr
  intro c _
  cases c <;> rfl

theorem ints_perm (h : cells'.Perm cells) : (ints cells').Perm (ints cells) := h.filterMap _

/-- The integers can be put in any order by putting the cells in some order, all others last. -/
theorem exists_ints_of_perm (h : ys.Perm (ints cells)) :
    ∃ cells', cells'.Perm cells ∧ ints cells' = ys := by
  refine ⟨ys.map .int ++ cells.filter fun c => !isInt c, ?_, ?_⟩
  · have hints : (ys.map Cell.int).Perm (cells.filter isInt) := by
      rw [filter_isInt]
      exact h.map _
    exact (hints.append_right _).trans (List.filter_append_perm isInt cells)
  · have hother : ints (cells.filter fun c => !isInt c) = [] := by
      rw [ints, List.filterMap_eq_nil_iff]
      intro c hc
      have hc := (List.mem_filter.mp hc).2
      cases c <;> simp_all [isInt]
    rw [ints, List.filterMap_append, ← ints, ← ints, hother, List.append_nil, ints, List.filterMap_map]
    exact List.filterMap_some

/-! ## The sum of a series -/

/-- The cell of a sum of integers. -/
def sumOf (xs : List Int64) : Cell := Cell.ofInt? (Integer.sum? xs)

theorem sumCell_of_isInteger {d : Dtype} (h : d.isInteger = true) (cells : List Cell) :
    sumCell d cells = (d, sumOf (ints cells)) := by
  cases d with
  | i64 => rfl
  | u32 => rfl
  | _ => cases h

theorem aggregate_sum (h : s.dtype.isInteger = true) :
    aggregate .sum s = .ok (.scalar s.name s.dtype (sumOf (ints s.cells))) := by
  have haddable : isAddable s.dtype = true := by simp [isAddable, Dtype.isNumeric, h]
  simp [aggregate, aggregateCell, haddable, sumCell_of_isInteger h, ints_present]

/-- The cell is the exact sum of the integers if adding them in order leaves the range of words at no step,
    and null otherwise. -/
def IsSum (xs : List Int64) (c : Cell) : Prop :=
  (StaysInRange 0 xs → ∃ x, c = .int x ∧ x.toInt = Integer.total xs) ∧ (¬StaysInRange 0 xs → c = .null)

theorem isSum_sumOf (xs : List Int64) : IsSum xs (sumOf xs) := by
  constructor
  · intro hstays
    obtain ⟨x, hx, htotal⟩ := Integer.exists_sum? hstays
    exact ⟨x, by rw [sumOf, hx]; rfl, htotal⟩
  · intro hout
    rw [sumOf, Integer.sum?_eq_none.mpr hout]
    rfl

theorem IsSum.exact_or_null {c : Cell} (h : IsSum xs c) :
    c = .null ∨ ∃ x, c = .int x ∧ x.toInt = Integer.total xs := by
  by_cases hstays : StaysInRange 0 xs
  · exact .inr (h.1 hstays)
  · exact .inl (h.2 hstays)

/-- The cells are sums of the integers in two orders: each is the exact sum or null, and they are the same
    if the integers are order-free. -/
structure SumsOf (xs : List Int64) (c d : Cell) : Prop where
  first : c = .null ∨ ∃ x, c = .int x ∧ x.toInt = Integer.total xs
  second : d = .null ∨ ∃ x, d = .int x ∧ x.toInt = Integer.total xs
  same : OrderFree xs → d = c

theorem sums_of_perm (hy : ys.Perm xs) (hz : zs.Perm xs) : SumsOf xs (sumOf ys) (sumOf zs) where
  first := by
    rw [← Integer.total_perm hy]
    exact (isSum_sumOf ys).exact_or_null
  second := by
    rw [← Integer.total_perm hz]
    exact (isSum_sumOf zs).exact_or_null
  same h := by rw [sumOf, sumOf, h.sum? hy, h.sum? hz]

theorem sumOf_inj : sumOf ys = sumOf xs ↔ Integer.sum? ys = Integer.sum? xs := by
  unfold sumOf Cell.ofInt?
  cases Integer.sum? ys <;> cases Integer.sum? xs <;> simp

/-- The sum of a series is the same in all orders of its rows exactly if its integers are order-free. -/
theorem aggregate_sum_take_iff (h : s.dtype.isInteger = true) :
    (∀ rows, rows.Perm (List.range s.length) → aggregate .sum (s.take rows) = aggregate .sum s) ↔
      OrderFree (ints s.cells) := by
  have hsame (rows : List Nat) : aggregate .sum (s.take rows) = aggregate .sum s ↔
      Integer.sum? (ints (s.take rows).cells) = Integer.sum? (ints s.cells) := by
    rw [aggregate_sum h, aggregate_sum (s := s.take rows) h, ← sumOf_inj]
    simp [scalar, Series.take]
  simp only [hsame, Integer.orderFree_iff]
  constructor
  · intro hrows ys hys
    obtain ⟨cells, hcells, rfl⟩ := exists_ints_of_perm hys
    obtain ⟨rows, hperm, rfl⟩ := exists_take_of_perm hcells
    exact hrows rows hperm
  · intro hall rows hrows
    exact hall _ (ints_perm (cells_take_perm hrows))

/-! ## Groups of rows in another order -/

theorem rowKey_take (columns : List Series) (h : rows[j]? = some i) :
    rowKey (columns.map (·.take rows)) j = rowKey columns i := by
  obtain ⟨hj, rfl⟩ := List.getElem?_eq_some_iff.mp h
  simp [rowKey, cellAt_take _ hj, Function.comp_def]

theorem pickRows_part_perm {height : Nat} (hrows : rows.Perm (List.range height))
    (hg : g ∈ partition columns height) (hi : i ∈ g)
    (hg' : g' ∈ partition (columns.map (·.take rows)) rows.length) (hj : j ∈ g')
    (hij : rows[j]? = some i) : (pickRows rows g').Perm g := by
  obtain ⟨-, key, rfl⟩ := mem_partition_iff.mp hg
  obtain ⟨-, key', rfl⟩ := mem_partition_iff.mp hg'
  obtain rfl : key = key' := by
    have hkey := Option.some.inj ((mem_members _).mp hi).2
    have hkey' := Option.some.inj ((mem_members _).mp hj).2
    rw [← hkey, ← hkey', rowKey_take columns hij]
  -- The members of the key in the new order are the places at which its members stand.
  have hmembers : members (fun row => some (rowKey (columns.map (·.take rows)) row))
      (List.range rows.length) key = (List.range rows.length).filter fun place =>
        some (rowKey columns ((rows[place]?).getD 0)) == some key := by
    apply List.filter_congr
    intro place hplace
    have hlt : place < rows.length := List.mem_range.mp hplace
    have hget : rows[place]? = some rows[place] := List.getElem?_eq_getElem hlt
    show (some (rowKey (columns.map (·.take rows)) place) == some key) = _
    rw [rowKey_take columns hget, hget, Option.getD_some]
  rw [hmembers, pickRows_filter rows fun row => some (rowKey columns row) == some key]
  exact hrows.filter _

def intsOver [Sql.Reader] (e : Expr) (t : Table) : List Int64 :=
  match e.eval t with
  | .ok s => ints s.cells
  | .error _ => []

theorem intsOver_eq [Sql.Reader] (h : e.eval t = .ok s) : intsOver e t = ints s.cells := by rw [intsOver, h]

section

variable [Sql.Reader] (ht : t.WellFormed) (rowwise : e.Made Expr.isRowWise)

include ht rowwise

theorem intsOver_perm (h : e.eval t = .ok s) (hrows : rows.Perm (List.range t.height)) :
    (intsOver e (t.take rows)).Perm (intsOver e t) := by
  have hlt : ∀ i ∈ rows, i < t.height := fun _ => lt_of_perm_range hrows
  obtain ⟨s', hs', hpicked⟩ := picked_eval rowwise ht hlt s h
  rw [intsOver_eq h, intsOver_eq hs']
  cases hpicked with
  | constant _ => exact List.Perm.refl _
  | column hlen =>
    rw [← hlen] at hrows
    exact ints_perm (cells_take_perm hrows)

theorem intsOver_group_perm (h : e.eval t = .ok s) (hg : ∀ i ∈ g, i < t.height) (hp : p.Perm g) :
    (intsOver e (t.take p)).Perm (intsOver e (t.take g)) := by
  obtain ⟨s', hs', -⟩ := picked_eval rowwise ht hg s h
  obtain ⟨places, hplaces, rfl⟩ := exists_pickRows_of_perm hp
  have hlt : ∀ j ∈ places, j < g.length := fun _ => lt_of_perm_range hplaces
  rw [← Table.take_take t hlt]
  exact intsOver_perm (ht.take g) rowwise hs' hplaces

/-! ## Sums of groups -/

section

variable (h : e.eval t = .ok s) (hd : s.dtype.isInteger = true)

include h hd

theorem eval_sum_take (hg : ∀ i ∈ g, i < t.height) : (Expr.agg .sum e).eval (t.take g) =
    .ok (.scalar s.name s.dtype (sumOf (intsOver e (t.take g)))) := by
  obtain ⟨s', hs', hpicked⟩ := picked_eval rowwise ht hg s h
  have hd' : s'.dtype.isInteger = true := by rwa [hpicked.dtype_eq]
  rw [intsOver_eq hs', ← hpicked.name_eq, ← hpicked.dtype_eq, ← aggregate_sum hd']
  show (e.eval (t.take g) >>= aggregate .sum) = _
  rw [hs', ok_bind]

theorem aggregateGroups_sum {groups : List (List Nat)} (hgroups : ∀ g ∈ groups, ∀ i ∈ g, i < t.height) :
    aggregateGroups t groups (Expr.agg .sum e).eval =
      .ok ⟨s.name, s.dtype, groups.map fun g => sumOf (intsOver e (t.take g))⟩ := by
  have hsum (g : List Nat) (hg : g ∈ groups) := eval_sum_take ht rowwise h hd (hgroups g hg)
  by_cases hnil : groups = []
  · subst hnil
    have hsum := eval_sum_take ht rowwise h hd (g := []) fun _ hi => absurd hi List.not_mem_nil
    exact aggregateGroups_nil (s := .scalar s.name s.dtype _) hsum
  · refine (aggregateGroups_eq_ok hnil).mpr
      ⟨groups.map fun g => .scalar s.name s.dtype (sumOf (intsOver e (t.take g))), ?_, ?_, ?_⟩
    · rw [List.forall₂_map_right_iff, List.forall₂_same]
      exact fun g hg => ⟨hsum g hg, rfl⟩
    · have hne : groups.map (fun g => Series.scalar s.name s.dtype (sumOf (intsOver e (t.take g)))) ≠ [] :=
        mt List.map_eq_nil_iff.mp hnil
      intro _
      exact ⟨unifyAll_null_const hne (List.forall_mem_map.mpr fun _ _ => rfl),
        (lastName_const hne (List.forall_mem_map.mpr fun _ _ => rfl) "").symm⟩
    · have hcoerce (xs : List Int64) : coerceCell s.dtype (sumOf xs) = sumOf xs :=
        coerceCell_of_has (has_ofInt? _ (by revert hd; cases s.dtype <;> simp [Dtype.isInteger]))
      simp [cellAt, scalar, hcoerce]

/-- A window of sums has at each row the sum of the row's group, added in some order. -/
theorem exists_window_sum (named : spec.partitionBy.mapM t.column = .ok columns)
    (ho : ∀ k ∈ spec.orderBy, ∃ c, t.column k = .ok c) :
    ∃ w, (Expr.window (.agg .sum e) spec).eval t = .ok w ∧ w.length = t.height ∧
      w.name = s.name ∧ w.dtype = (if t.height = 0 then .null else s.dtype) ∧
      ∀ g ∈ partition columns t.height, ∀ i ∈ g, ∃ p, p.Perm g ∧
        w.cellAt i = sumOf (intsOver e (t.take p)) := by
  by_cases filled : 0 < t.height
  · obtain ⟨groups, hgroups⟩ := exists_windowGroups (exists_mapM_eq_ok.mp ⟨columns, named⟩) ho
    have arranged : Arranges t.height groups := arranges_windowGroups groups hgroups
    have hne : groups ≠ [] := groups_ne_nil filled groups hgroups
    -- The column of the groups' sums tells what the window has at the rows of each group.
    have hvalues := (aggregateGroups_eq_ok hne).mp
      (aggregateGroups_sum ht rowwise h hd fun g hg i hi => arranged.lt hg hi)
    have single : ∀ g ∈ groups, Yields ((Expr.agg .sum e).eval (t.take g)) fun s => s.length = 1 :=
      fun g _ => length_eval_agg .sum e _
    obtain ⟨w, hw⟩ := (exists_holdsParts_iff single arranged hne).mpr ⟨_, hvalues⟩
    obtain ⟨hn, hdtype, hcells⟩ := value_at_row hne hw hvalues
    refine ⟨w, (window_eq_ok filled hgroups).mpr hw, ?_, hn, ?_, ?_⟩
    · obtain ⟨-, -, -, -, hl, -⟩ := hw
      exact hl
    · rw [if_neg (Nat.ne_of_gt filled)]
      exact hdtype
    · intro g hg i hi
      obtain ⟨columns', named', hperm⟩ := windowGroups_spec groups hgroups
      obtain rfl : columns = columns' := Except.ok.inj (named.symm.trans named')
      obtain ⟨j, hj, rfl⟩ := List.getElem_of_mem hg
      have hj' : j < groups.length := hperm.length_eq ▸ hj
      have hsame : groups[j].Perm (partition columns t.height)[j] :=
        (List.forall₂_iff_get.mp hperm).2 j hj' hj
      refine ⟨groups[j], hsame, ?_⟩
      rw [hcells i j groups[j] (List.getElem?_eq_getElem hj') (hsame.mem_iff.mpr hi)]
      simp [cellAt, hj']
  · have empty : t.height = 0 := Nat.eq_zero_of_not_pos filled
    have hsum : (Expr.agg .sum e).eval t = .ok (.scalar s.name s.dtype (sumOf (ints s.cells))) := by
      rw [Expr.eval, h, ok_bind, aggregate_sum hd]
    have hwindow : window t spec (Expr.agg .sum e).eval = .ok ⟨s.name, .null, []⟩ := by
      rw [window_of_empty empty named, hsum]
      rfl
    refine ⟨_, hwindow, empty.symm, rfl, (if_pos empty).symm, ?_⟩
    rw [partition_eq_nil_iff.mpr empty]
    exact fun g hg => absurd hg List.not_mem_nil

end

/-! ## All rows in another order -/

theorem sums_of_places (h : e.eval t = .ok s) (hg : ∀ i ∈ g, i < t.height) (hp : p.Perm g)
    (hq : ∀ j ∈ q, j < rows.length) (hpick : (pickRows rows q).Perm g) :
    SumsOf (intsOver e (t.take g)) (sumOf (intsOver e (t.take p)))
      (sumOf (intsOver e ((t.take rows).take q))) := by
  rw [Table.take_take t hq]
  exact sums_of_perm (intsOver_group_perm ht rowwise h hg hp)
    (intsOver_group_perm ht rowwise h hg hpick)

section

variable (h : e.eval t = .ok s) (hd : s.dtype.isInteger = true)
  (hrows : rows.Perm (List.range t.height))

include h hd hrows

theorem exists_eval_take : rows.length = t.height ∧
    ∃ s', e.eval (t.take rows) = .ok s' ∧ s'.name = s.name ∧ s'.dtype = s.dtype ∧
      s'.dtype.isInteger = true := by
  have hlt : ∀ i ∈ rows, i < t.height := fun _ => lt_of_perm_range hrows
  obtain ⟨s', hs', hpicked⟩ := picked_eval rowwise ht hlt s h
  exact ⟨hrows.length_eq.trans List.length_range, s', hs', hpicked.name_eq, hpicked.dtype_eq,
    by rwa [hpicked.dtype_eq]⟩

theorem window_sum_perm (named : spec.partitionBy.mapM t.column = .ok columns)
    (ho : ∀ k ∈ spec.orderBy, ∃ c, t.column k = .ok c) :
    ∃ w w', (Expr.window (.agg .sum e) spec).eval t = .ok w ∧
      (Expr.window (.agg .sum e) spec).eval (t.take rows) = .ok w' ∧
      w'.name = w.name ∧ w'.dtype = w.dtype ∧ w.length = t.height ∧ w'.length = t.height ∧
      ∀ i j g, rows[j]? = some i → g ∈ partition columns t.height → i ∈ g →
        SumsOf (intsOver e (t.take g)) (w.cellAt i) (w'.cellAt j) := by
  obtain ⟨hlen, s', hs', hn, hdtype, hd'⟩ := exists_eval_take ht rowwise h hd hrows
  have ho' : ∀ k ∈ spec.orderBy, ∃ c, (t.take rows).column k = .ok c := by
    intro k hk
    obtain ⟨c, hc⟩ := ho k hk
    rw [column_take, hc]
    exact ⟨_, rfl⟩
  obtain ⟨w, hw, hl, hwn, hwd, hcells⟩ := exists_window_sum ht rowwise h hd named ho
  obtain ⟨w', hw', hl', hwn', hwd', hcells'⟩ :=
    exists_window_sum (ht.take rows) rowwise hs' hd' (mapM_column_take named rows) ho'
  rw [height_take, hlen] at hl' hwd'
  refine ⟨w, w', hw, hw', ?_, ?_, hl, hl', ?_⟩
  · rw [hwn, hwn', hn]
  · rw [hwd, hwd', hdtype]
  · intro i j g hij hg hi
    have hj : j < rows.length := (List.getElem?_eq_some_iff.mp hij).1
    obtain ⟨g', hg', hjg'⟩ := ((partitionsBy_partition (columns.map (·.take rows)) _).covers j).mpr hj
    obtain ⟨p, hp, hcell⟩ := hcells g hg i hi
    obtain ⟨q, hq, hcell'⟩ := hcells' g' hg' j hjg'
    rw [hcell, hcell']
    refine sums_of_places ht rowwise h (fun i hi => lt_of_mem_partition hg hi) hp ?_ ?_
    · exact fun j hj => lt_of_mem_partition hg' (hq.mem_iff.mp hj)
    · exact (hq.map _).trans (pickRows_part_perm hrows hg hi hg' hjg' hij)

theorem grouped_sum_perm (columns : List Series) :
    ∃ a a', aggregateGroups t (partition columns t.height) (Expr.agg .sum e).eval = .ok a ∧
      aggregateGroups (t.take rows) (partition (columns.map (·.take rows)) t.height)
        (Expr.agg .sum e).eval = .ok a' ∧
      a'.name = a.name ∧ a'.dtype = a.dtype ∧
      ∀ i j m n g g', rows[j]? = some i → (partition columns t.height)[m]? = some g → i ∈ g →
        (partition (columns.map (·.take rows)) t.height)[n]? = some g' → j ∈ g' →
        SumsOf (intsOver e (t.take g)) (a.cellAt m) (a'.cellAt n) := by
  obtain ⟨hlen, s', hs', hn, hdtype, hd'⟩ := exists_eval_take ht rowwise h hd hrows
  rw [← hlen]
  have ha : aggregateGroups t (partition columns rows.length) (Expr.agg .sum e).eval = .ok _ :=
    aggregateGroups_sum ht rowwise h hd fun g hg i hi => hlen ▸ lt_of_mem_partition hg hi
  have ha' : aggregateGroups (t.take rows) (partition (columns.map (·.take rows)) rows.length)
      (Expr.agg .sum e).eval = .ok _ :=
    aggregateGroups_sum (ht.take rows) rowwise hs' hd' fun g hg i hi => lt_of_mem_partition hg hi
  refine ⟨_, _, ha, ha', hn, hdtype, ?_⟩
  intro i j m n g g' hij hm hi hm' hj
  have hg : g ∈ partition columns rows.length := List.mem_of_getElem? hm
  have hg' : g' ∈ partition (columns.map (·.take rows)) rows.length := List.mem_of_getElem? hm'
  have hsums := sums_of_places ht rowwise h (fun i hi => hlen ▸ lt_of_mem_partition hg hi)
    (List.Perm.refl g) (fun j hj => lt_of_mem_partition hg' hj)
    (pickRows_part_perm (hlen ▸ hrows) hg hi hg' hj hij)
  simpa [cellAt, hm, hm'] using hsums

end

end

/-- **Sums of integers are exact or null, and which of the two may depend on the order of the rows.**

1. The sum of a series of integers is the exact sum of its cells that are not null, if adding them in the
   order of the rows leaves the range of words at no step, and null otherwise.
2. So in any order of the rows the sum is the exact one or null. It is the same in all orders exactly if the
   integers are order-free: the exact sum is out of range, or else the sum of the positive integers and the
   sum of the negative ones are both in range.
3. The same is true of a window of sums. Let a row-wise expression have a series of integers over a table,
   and let a window have its columns. With the rows of the table in another order there is a window of sums
   too, of the same name and type. The two cells for a row are both sums of the integers that the expression
   has on the row's group, and they are the same if these are order-free.
4. And it is true of a grouping by any key columns: the two cells for the group of a row are sums of the
   integers on this group, and the same if these are order-free. -/
theorem integer_sums [Sql.Reader] :
    (∀ s : Series, s.dtype.isInteger = true →
      (SeriesTyped s → present s.cells = (ints s.cells).map .int) ∧
      ∃ c, aggregate .sum s = .ok (.scalar s.name s.dtype c) ∧ IsSum (ints s.cells) c) ∧
    (∀ s : Series, s.dtype.isInteger = true →
      (∀ rows, rows.Perm (List.range s.length) → ∃ c d,
        aggregate .sum s = .ok (.scalar s.name s.dtype c) ∧
        aggregate .sum (s.take rows) = .ok (.scalar s.name s.dtype d) ∧ SumsOf (ints s.cells) c d) ∧
      ((∀ rows, rows.Perm (List.range s.length) → aggregate .sum (s.take rows) = aggregate .sum s) ↔
        OrderFree (ints s.cells))) ∧
    ∀ (t : Table) (e : Expr) (s : Series) (rows : List Nat), t.WellFormed → e.Made Expr.isRowWise →
      e.eval t = .ok s → s.dtype.isInteger = true → rows.Perm (List.range t.height) →
      (∀ spec : WindowSpec, (∀ k ∈ spec.partitionBy, ∃ c, t.column k = .ok c) →
        (∀ k ∈ spec.orderBy, ∃ c, t.column k = .ok c) →
        ∃ columns w w', spec.partitionBy.mapM t.column = .ok columns ∧
          (Expr.window (.agg .sum e) spec).eval t = .ok w ∧
          (Expr.window (.agg .sum e) spec).eval (t.take rows) = .ok w' ∧
          w'.name = w.name ∧ w'.dtype = w.dtype ∧ w.length = t.height ∧ w'.length = t.height ∧
          ∀ i j g, rows[j]? = some i → g ∈ partition columns t.height → i ∈ g →
            SumsOf (intsOver e (t.take g)) (w.cellAt i) (w'.cellAt j)) ∧
      ∀ columns : List Series, ∃ a a',
        aggregateGroups t (partition columns t.height) (Expr.agg .sum e).eval = .ok a ∧
        aggregateGroups (t.take rows) (partition (columns.map (·.take rows)) t.height)
          (Expr.agg .sum e).eval = .ok a' ∧
        a'.name = a.name ∧ a'.dtype = a.dtype ∧
        ∀ i j m n g g', rows[j]? = some i → (partition columns t.height)[m]? = some g → i ∈ g →
          (partition (columns.map (·.take rows)) t.height)[n]? = some g' → j ∈ g' →
          SumsOf (intsOver e (t.take g)) (a.cellAt m) (a'.cellAt n) := by
  refine ⟨?_, ?_, ?_⟩
  · intro s hd
    exact ⟨present_eq_ints hd, _, aggregate_sum hd, isSum_sumOf _⟩
  · intro s hd
    refine ⟨?_, aggregate_sum_take_iff hd⟩
    intro rows hrows
    exact ⟨_, _, aggregate_sum hd, aggregate_sum (s := s.take rows) hd,
      sums_of_perm (List.Perm.refl _) (ints_perm (cells_take_perm hrows))⟩
  · intro t e s rows ht rowwise h hd hrows
    refine ⟨?_, grouped_sum_perm ht rowwise h hd hrows⟩
    intro spec hp ho
    obtain ⟨columns, named⟩ := exists_mapM_eq_ok.mpr hp
    obtain ⟨w, w', hboth⟩ := window_sum_perm ht rowwise h hd hrows named ho
    exact ⟨columns, w, w', named, hboth⟩

def harvested : Series := ⟨"n", .i64, [.int 1, .int 2, .null, .int 5]⟩

attribute [local instance] Sql.dialect

/-- The harvest from the last row to the first. The nuts of the last row, which is the first one then, are
    summed up with those of the second. -/
theorem integer_sums_harvest :
    (present harvested.cells = [.int 1, .int 2, .int 5] ∧
      ∃ c, aggregate .sum harvested = .ok (.scalar "n" .i64 c) ∧ IsSum [1, 2, 5] c) ∧
    (∀ rows, rows.Perm (List.range 4) → aggregate .sum (harvested.take rows) = aggregate .sum harvested) ∧
    (∃ w w', (yield.overKeys ["kind"]).eval harvest = .ok w ∧
      (yield.overKeys ["kind"]).eval (harvest.take [3, 2, 1, 0]) = .ok w' ∧
      SumsOf [2, 5] (w.cellAt 3) (w'.cellAt 0)) ∧
    ∃ a a', aggregateGroups harvest (partition [kinds] 4) yield.eval = .ok a ∧
      aggregateGroups (harvest.take [3, 2, 1, 0]) (partition [kinds.take [3, 2, 1, 0]] 4) yield.eval =
        .ok a' ∧ SumsOf [2, 5] (a.cellAt 1) (a'.cellAt 0) := by
  obtain ⟨hsum, horder, htable⟩ := integer_sums
  have typed : SeriesTyped harvested := by simp [SeriesTyped, CellHas, harvested]
  have rowwise : (Expr.column "n").Made Expr.isRowWise := by
    simp [Expr.Made, Expr.isRowWise, Expr.nodes]
  obtain ⟨hwindow, hgrouped⟩ := htable harvest (.column "n") harvested [3, 2, 1, 0] wellFormed_harvest
    rowwise rfl rfl (by decide)
  refine ⟨⟨(hsum harvested rfl).1 typed, (hsum harvested rfl).2⟩, (horder harvested rfl).2.mpr (by decide),
    ?_, ?_⟩
  · obtain ⟨columns, w, w', named, hw, hw', -, -, -, -, hsums⟩ := hwindow (.partitioned ["kind"])
      (by simpa [WindowSpec.partitioned] using ⟨kinds, rfl⟩) (by simp [WindowSpec.partitioned])
    obtain rfl : [kinds] = columns := Except.ok.inj named
    exact ⟨w, w', hw, hw', hsums 3 0 [1, 3] rfl (by decide +kernel) (by decide)⟩
  · obtain ⟨a, a', ha, ha', -, -, hsums⟩ := hgrouped [kinds]
    exact ⟨a, a', ha, ha', hsums 3 0 1 0 [1, 3] [0, 2] rfl (by decide +kernel) (by decide)
      (by decide +kernel) (by decide)⟩

/-- The largest word, and one more and one less. -/
def brim : Series := ⟨"n", .i64, [.int Int64.maxValue, .int 1, .int (-1)]⟩

/-- An exact sum in range is missed, since the sum of the first two integers is out of range, and it is
    found when these are not added first. -/
theorem sum_lost_in_order :
    brim.dtype = .i64 ∧ Integer.InRange (Integer.total (ints brim.cells)) ∧
      aggregate .sum brim = .ok (.scalar "n" .i64 .null) ∧
      [1, 2, 0].Perm (List.range brim.length) ∧
      aggregate .sum (brim.take [1, 2, 0]) = .ok (.scalar "n" .i64 (.int Int64.maxValue)) := by
  decide +kernel

end FramePlan.Eval
