import FramePlan.Proofs.Eval.Gathering
import FramePlan.Proofs.Eval.RowSelection
import FramePlan.Proofs.Eval.Sorting
import FramePlan.Proofs.Eval.Soundness
import FramePlan.Sql.Parser.Statement

/-!
# Windows write cells to the rows they are for

A window evaluates its inner expression on groups of rows, and writes the cells of each group to the
rows of the group. Three maps of rows are composed for this: the partition of the rows, the order of the
rows in a group, and the place of a cell in the series of its group.

The groups are the parts of the partition, each rearranged (`windowGroups_spec`), so all groups together
have every row once, however they are ordered (`Arranges`). Hence no cell is written over, and each row
has the cell that stands at its place in its group's series (`written_foldl`). This, with the type and
the name, is what a window is (`window_eq_ok`).

An expression that looks at one row at a time has for each row of a group the cell that it has there
over the whole table, so a window of it has no effect (`window_rowwise`).
-/
namespace FramePlan.Eval

open Table Series

variable {t : Table} {groups : List (List Nat)} {parts : List Series} {inner : Table → Outcome Series}
  {spec : WindowSpec} {cells : List Cell} {w w' s : Series} {d : Dtype} {name : String} {i : Nat}

/-! ## Scattered cells -/

theorem getElem?_scatter_of_notMem {pairs : List (Nat × Cell)} (h : i ∉ pairs.map (·.1)) :
    (scatter cells pairs)[i]? = cells[i]? := by
  induction pairs generalizing cells with
  | nil => rfl
  | cons p ps ih =>
    rw [List.map_cons, List.mem_cons, not_or] at h
    rw [scatter, List.foldl_cons]
    exact (ih h.2).trans (List.getElem?_set_ne (Ne.symm h.1))

/-- Of cells for different rows each is written to its row, and stays there. -/
theorem getElem?_scatter {pairs : List (Nat × Cell)} (hnd : (pairs.map (·.1)).Nodup) {p : Nat × Cell}
    (hp : p ∈ pairs) (hlt : p.1 < cells.length) : (scatter cells pairs)[p.1]? = some p.2 := by
  induction pairs generalizing cells with
  | nil => exact absurd hp List.not_mem_nil
  | cons q qs ih =>
    rw [List.map_cons, List.nodup_cons] at hnd
    rw [scatter, List.foldl_cons]
    rcases List.mem_cons.mp hp with rfl | hp
    · -- The cells behind are for other rows.
      refine (getElem?_scatter_of_notMem hnd.1).trans ?_
      simp [hlt]
    · exact ih hnd.2 hp (by simpa using hlt)

/-- The cells with those of a group's series, spread over its rows, written over them. -/
def writePart (cells : List Cell) (p : List Nat × Series) : List Cell :=
  scatter cells (p.1.zip (p.2.spread p.1.length).cells)

theorem map_fst_part (p : List Nat × Series) :
    (p.1.zip (p.2.spread p.1.length).cells).map (·.1) = p.1 :=
  List.map_fst_zip (by simp [spread])

@[simp] theorem length_writePart (cells : List Cell) (p : List Nat × Series) :
    (writePart cells p).length = cells.length :=
  length_scatter _ _

theorem getElem?_writePart_of_notMem {p : List Nat × Series} (h : i ∉ p.1) :
    (writePart cells p)[i]? = cells[i]? :=
  getElem?_scatter_of_notMem (by rwa [map_fst_part])

/-- The row at a place of a group gets the cell at that place. -/
theorem getElem?_writePart {p : List Nat × Series} (hnd : p.1.Nodup) (hi : i < p.1.length)
    (hlt : p.1[i] < cells.length) : (writePart cells p)[p.1[i]]? = some (p.2.spreadAt i) := by
  have hpair : (p.1[i], p.2.spreadAt i) ∈ p.1.zip (p.2.spread p.1.length).cells := by
    rw [List.mem_iff_getElem?]
    exact ⟨i, by simp [spread, hi]⟩
  exact getElem?_scatter (by rwa [map_fst_part]) hpair hlt

/-! ## Groups that have every row once -/

/-- All groups together have every row below `height` once. -/
def Arranges (height : Nat) (groups : List (List Nat)) : Prop :=
  groups.flatten.Perm (List.range height)

namespace Arranges

variable {height : Nat} {g : List Nat}

theorem lt (h : Arranges height groups) (hg : g ∈ groups) (hi : i ∈ g) : i < height :=
  List.mem_range.mp (h.mem_iff.mp (List.mem_flatten_of_mem hg hi))

theorem exists_group (h : Arranges height groups) (hi : i < height) : ∃ g ∈ groups, i ∈ g :=
  List.mem_flatten.mp (h.mem_iff.mpr (List.mem_range.mpr hi))

theorem length_le (h : Arranges height groups) (hg : g ∈ groups) : g.length ≤ height := by
  have hlen : groups.flatten.length = height := h.length_eq.trans List.length_range
  rw [← hlen]
  exact (List.sublist_flatten_of_mem hg).length_le

theorem nodup (h : Arranges height groups) : groups.flatten.Nodup :=
  h.nodup_iff.mpr List.nodup_range

end Arranges

/-- What is written for a group is not written over: no row of it is in another group. -/
theorem written_foldl (hlen : groups.length = parts.length) (hnd : groups.flatten.Nodup)
    (hlt : ∀ i ∈ groups.flatten, i < cells.length) :
    ((groups.zip parts).foldl writePart cells).length = cells.length ∧
      (∀ i, i ∉ groups.flatten → ((groups.zip parts).foldl writePart cells)[i]? = cells[i]?) ∧
      List.Forall₂ (fun g s => ∀ i (hi : i < g.length),
        ((groups.zip parts).foldl writePart cells)[g[i]]? = some (s.spreadAt i)) groups parts := by
  induction groups generalizing parts cells with
  | nil =>
    obtain rfl : parts = [] := List.eq_nil_of_length_eq_zero hlen.symm
    exact ⟨rfl, fun _ _ => rfl, .nil⟩
  | cons g gs ih =>
    obtain ⟨s, parts, rfl⟩ := List.exists_cons_of_length_eq_add_one hlen.symm
    obtain ⟨hg, hgs, hdisjoint⟩ := List.nodup_append.mp hnd
    have hlen : gs.length = parts.length := Nat.succ.inj hlen
    have hfirst : ∀ i ∈ g, i < cells.length := fun i hi => hlt i (List.mem_append_left _ hi)
    have hrest : ∀ i ∈ gs.flatten, i < (writePart cells (g, s)).length := by
      intro i hi
      rw [length_writePart]
      exact hlt i (List.mem_append_right _ hi)
    obtain ⟨hl, hkeep, hwritten⟩ := ih hlen hgs hrest
    refine ⟨hl.trans (length_writePart _ _), ?_, .cons ?_ hwritten⟩
    · intro i hi
      rw [List.flatten_cons, List.mem_append, not_or] at hi
      exact (hkeep i hi.2).trans (getElem?_writePart_of_notMem hi.1)
    · intro i hi
      have hm : g[i] ∈ g := List.getElem_mem hi
      exact (hkeep _ fun hm' => hdisjoint _ hm _ hm' rfl).trans
        (getElem?_writePart hg hi (hfirst _ hm))

/-! ## The groups of a window -/

theorem pickRows_perm {rows places : List Nat} (h : places.Perm (List.range rows.length)) :
    (pickRows rows places).Perm rows := by
  have hpick : (pickRows rows places).Perm (pickRows rows (List.range rows.length)) := h.map _
  rwa [pickRows_range] at hpick

theorem orderPartition_perm (orderBy : List String) (rows : List Nat) :
    Yields (orderPartition t orderBy rows) fun ordered => ordered.Perm rows := by
  refine Yields.after ?_
  intro keys _
  exact Yields.ok (pickRows_perm (sortedRows_perm keys rows.length))

/-- The groups of a window are the parts of its partition, each in some order. -/
theorem windowGroups_spec : Yields (windowGroups t spec) fun groups =>
    ∃ columns, spec.partitionBy.mapM t.column = .ok columns ∧
      List.Forall₂ List.Perm groups (partition columns t.height) := by
  refine Yields.after ?_
  intro columns hcolumns
  refine Yields.ite ?_ ?_
  · intro _ groups hgroups
    have hperm : List.Forall₂ (fun part ordered => ordered.Perm part) (partition columns t.height)
        groups := (mapM_eq_ok.mp hgroups).imp fun part ordered h =>
      orderPartition_perm spec.orderBy part ordered h
    exact ⟨columns, hcolumns, hperm.flip⟩
  · intro _
    exact Yields.ok ⟨columns, hcolumns, List.forall₂_same.mpr fun g _ => List.Perm.refl g⟩

theorem arranges_windowGroups : Yields (windowGroups t spec) (Arranges t.height) := by
  refine windowGroups_spec.mono ?_
  rintro groups ⟨columns, -, hperm⟩
  exact (List.Perm.flatten_congr hperm).trans (flatten_partition_perm columns t.height)

theorem exists_windowGroups (hp : ∀ k ∈ spec.partitionBy, ∃ c, t.column k = .ok c)
    (ho : ∀ k ∈ spec.orderBy, ∃ c, t.column k = .ok c) : ∃ groups, windowGroups t spec = .ok groups := by
  obtain ⟨columns, hcolumns⟩ := exists_mapM_eq_ok.mpr hp
  have horder : ∀ part ∈ partition columns t.height, ∃ ordered,
      orderPartition t spec.orderBy part = .ok ordered := by
    intro part _
    have hkeys : ∀ k ∈ spec.orderBy, ∃ key, (do
        let s ← (t.take part).column k
        pure (s, false)) = Except.ok (ε := Fault) key := by
      intro k hk
      obtain ⟨c, hc⟩ := ho k hk
      rw [column_take, hc]
      exact ⟨_, rfl⟩
    obtain ⟨keys, hkeys⟩ := exists_mapM_eq_ok.mpr hkeys
    exact ⟨_, by rw [orderPartition, hkeys]; rfl⟩
  obtain ⟨ordered, hordered⟩ := exists_mapM_eq_ok.mpr horder
  simp only [windowGroups, hcolumns, ok_bind]
  split
  · exact ⟨ordered, hordered⟩
  · exact ⟨_, rfl⟩

/-! ## What a window is -/

theorem gathers_fillPartition (t : Table) (inner : Table → Outcome Series) :
    Gathers t inner (fun g s => s.length = 1 ∨ s.length = g.length) writePart
      (fillPartition t inner) := by
  intro before rows after
  cases hi : inner (t.take rows) with
  | error fault => simp [fillPartition, hi]
  | ok s =>
    by_cases hfit : s.length = 1 ∨ s.length = rows.length
    · have hstep : fillPartition t inner before rows = unify before.dtype s.dtype >>= fun d =>
          .ok ⟨s.name, d, writePart before.cells (rows, s)⟩ := by
        simp only [fillPartition, hi, ok_bind, broadcast_eq hfit, pure_eq_ok, writePart]
      rw [hstep, bind_eq_ok]
      constructor
      · rintro ⟨d, hd, hafter⟩
        cases hafter
        exact ⟨s, ⟨rfl, hfit⟩, hd, rfl, rfl⟩
      · rintro ⟨s', ⟨hs, -⟩, hd, hn, hc⟩
        cases hs
        exact ⟨after.dtype, hd, by rw [← hn, ← hc]⟩
    · refine iff_of_false ?_ ?_
      · intro h
        simp only [fillPartition, hi, ok_bind, bind_eq_ok] at h
        obtain ⟨d, -, full, hfull, -⟩ := h
        exact hfit (length_of_broadcast hfull)
      · rintro ⟨s', ⟨hs, hfit'⟩, -⟩
        cases hs
        exact hfit hfit'

/-- The rows of a group have the cells of its series, each row the one at its place in the group. -/
def Written (w : Series) (g : List Nat) (s : Series) : Prop :=
  ∀ i (hi : i < g.length), w.cellAt g[i] = coerceCell w.dtype (s.spreadAt i)

/-- The column has, at the rows of each group, the cells of the series that the inner computation gives on
    the group, in the type that the types of all these series are unified to. -/
def HoldsParts (t : Table) (inner : Table → Outcome Series) (groups : List (List Nat)) (w : Series) :
    Prop :=
  ∃ parts, List.Forall₂ (fun g s => inner (t.take g) = .ok s ∧ (s.length = 1 ∨ s.length = g.length))
      groups parts ∧
    unifyAll .null parts = .ok w.dtype ∧ w.name = lastName "" parts ∧ w.length = t.height ∧
      List.Forall₂ (Written w) groups parts

section

variable (arranged : Arranges t.height groups)

include arranged

theorem holdsParts_foldl
    (hparts : List.Forall₂ (fun g s => inner (t.take g) = .ok s ∧ (s.length = 1 ∨ s.length = g.length))
      groups parts) (hd : unifyAll .null parts = .ok d) :
    HoldsParts t inner groups ⟨lastName "" parts, d,
      coerce d ((groups.zip parts).foldl writePart (List.replicate t.height .null))⟩ := by
  have hlt : ∀ i ∈ groups.flatten, i < (List.replicate t.height Cell.null).length := by
    intro i hi
    obtain ⟨g, hg, hi⟩ := List.mem_flatten.mp hi
    simpa using arranged.lt hg hi
  obtain ⟨hlen, -, hwritten⟩ := written_foldl hparts.length_eq arranged.nodup hlt
  refine ⟨parts, hparts, hd, rfl, ?_, hwritten.imp ?_⟩
  · simp [Series.length, coerce, hlen]
  · intro g s hcells i hi
    simp [cellAt, coerce, hcells i hi]

/-- There is only one such column, since each row is in a group. -/
theorem HoldsParts.eq (hw : HoldsParts t inner groups w) (hw' : HoldsParts t inner groups w') :
    w = w' := by
  obtain ⟨parts, hparts, hd, hn, hl, hcells⟩ := hw
  obtain ⟨parts', hparts', hd', hn', hl', hcells'⟩ := hw'
  obtain rfl : parts = parts' := by
    refine List.right_unique_forall₂' ?_ hparts hparts'
    rintro g s s' ⟨hs, -⟩ ⟨hs', -⟩
    exact Except.ok.inj (hs.symm.trans hs')
  have hdtype : w.dtype = w'.dtype := Except.ok.inj (hd.symm.trans hd')
  have hcell : ∀ i < t.height, w.cellAt i = w'.cellAt i := by
    intro i hi
    obtain ⟨g, hg, hig⟩ := arranged.exists_group hi
    obtain ⟨q, hq, rfl⟩ := List.getElem_of_mem hig
    obtain ⟨j, hj, rfl⟩ := List.getElem_of_mem hg
    have hj' : j < parts.length := hparts.length_eq ▸ hj
    have hcell := (List.forall₂_iff_get.mp hcells).2 j hj hj' q hq
    have hcell' := (List.forall₂_iff_get.mp hcells').2 j hj hj' q hq
    rw [hdtype] at hcell
    exact hcell.trans hcell'.symm
  have hall : w.cells = w'.cells := by
    rw [w.cells_eq_map_cellAt, w'.cells_eq_map_cellAt, hl, hl']
    apply List.map_congr_left
    intro i hi
    exact hcell i (List.mem_range.mp hi)
  have hname : w.name = w'.name := hn.trans hn'.symm
  cases w
  cases w'
  simp_all

end

/-- A window over a table with rows is the column that holds what the inner computation gives on its
    groups, and there is a window exactly if there is such a column. -/
theorem window_eq_ok (filled : 0 < t.height) (hgroups : windowGroups t spec = .ok groups) :
    window t spec inner = .ok w ↔ HoldsParts t inner groups w := by
  have arranged : Arranges t.height groups := arranges_windowGroups groups hgroups
  have hne : groups ≠ [] := groups_ne_nil filled groups hgroups
  simp only [window, hgroups, ok_bind, windowName_of_ne hne, bind_eq_ok, pure_eq_ok,
    (gathers_fillPartition t inner).foldlM_eq_ok]
  constructor
  · rintro ⟨⟨name, d, cells⟩, ⟨parts, hparts, hd, hn, hc⟩, hw⟩
    cases hw
    have hn : name = lastName "" parts := hn
    have hc : cells = (groups.zip parts).foldl writePart (List.replicate t.height .null) := hc
    rw [hn, hc]
    exact holdsParts_foldl arranged hparts hd
  · intro hw
    obtain ⟨parts, hparts, hd, hn, -⟩ := id hw
    have hsame := (holdsParts_foldl arranged hparts hd).eq arranged hw
    refine ⟨⟨w.name, w.dtype, (groups.zip parts).foldl writePart _⟩, ⟨parts, hparts, hd, hn, rfl⟩, ?_⟩
    rw [hn]
    exact congrArg Except.ok hsame

/-- Over a table without rows a window has the name of its inner column, if there is one, no type and no
    cells. -/
theorem window_of_empty {columns : List Series} (empty : t.height = 0)
    (named : spec.partitionBy.mapM t.column = .ok columns) : window t spec inner =
      (attempt (inner t)).map fun o => ⟨o.elim "" Series.name, .null, []⟩ := by
  have hnone : partition columns t.height = [] := partition_eq_nil_iff.mpr empty
  have hgroups : windowGroups t spec = .ok [] := by
    simp only [windowGroups, named, ok_bind, hnone]
    split <;> rfl
  simp only [window, hgroups, ok_bind, empty, windowName]
  rcases attempt (inner t) with fault | o <;> rfl

/-! ## Series of one name and type -/

theorem unifyAll_const (h : ∀ s ∈ parts, s.dtype = d) : unifyAll d parts = .ok d := by
  induction parts with
  | nil => rfl
  | cons s parts ih =>
    obtain ⟨hs, hparts⟩ := List.forall_mem_cons.mp h
    rw [unifyAll, List.map_cons, List.foldlM_cons, hs, unify_self, ok_bind]
    exact ih hparts

theorem unifyAll_null_const (hne : parts ≠ []) (h : ∀ s ∈ parts, s.dtype = d) :
    unifyAll .null parts = .ok d := by
  obtain ⟨s, parts, rfl⟩ := List.exists_cons_of_ne_nil hne
  obtain ⟨hs, hparts⟩ := List.forall_mem_cons.mp h
  rw [unifyAll, List.map_cons, List.foldlM_cons, hs, unify_null, ok_bind]
  exact unifyAll_const hparts

theorem lastName_const (hne : parts ≠ []) (h : ∀ s ∈ parts, s.name = name) (before : String) :
    lastName before parts = name := by
  rw [lastName, List.getLast?_eq_some_getLast hne]
  exact h _ (List.getLast_mem hne)

theorem exists_forall₂ {α β : Type} {R : α → β → Prop} {xs : List α} (h : ∀ x ∈ xs, ∃ y, R x y) :
    ∃ ys, List.Forall₂ R xs ys := by
  induction xs with
  | nil => exact ⟨[], .nil⟩
  | cons x xs ih =>
    obtain ⟨⟨y, hy⟩, hxs⟩ := List.forall_mem_cons.mp h
    obtain ⟨ys, hys⟩ := ih hxs
    exact ⟨y :: ys, .cons hy hys⟩

theorem forall_mem_right {α β : Type} {R : α → β → Prop} {xs : List α} {ys : List β}
    (h : List.Forall₂ R xs ys) {P : β → Prop} (hP : ∀ x ∈ xs, ∀ y, R x y → P y) : ∀ y ∈ ys, P y := by
  induction h with
  | nil => exact fun _ hy => absurd hy List.not_mem_nil
  | cons hxy _ ih =>
    refine List.forall_mem_cons.mpr ⟨hP _ List.mem_cons_self _ hxy, ih ?_⟩
    exact fun x hx => hP x (List.mem_cons_of_mem _ hx)

/-! ## Windows of row-wise expressions -/

/-- **A window moves no value to another row.** Over a table with rows, let an expression look at one row
at a time and have a series, and let a window have its columns to partition and to order by. Then the
window of the expression is that series, with the same name and type, spread over the rows of the table. -/
theorem window_rowwise [Sql.Reader] {e : Expr} (rowwise : e.Made Expr.isRowWise) (ht : t.WellFormed)
    (filled : 0 < t.height) (h : e.eval t = .ok s)
    (hp : ∀ k ∈ spec.partitionBy, ∃ c, t.column k = .ok c)
    (ho : ∀ k ∈ spec.orderBy, ∃ c, t.column k = .ok c) :
    ∃ full, s.broadcast t.height = .ok full ∧ (Expr.window e spec).eval t = .ok full ∧
      full.name = s.name ∧ full.dtype = s.dtype := by
  obtain ⟨groups, hgroups⟩ := exists_windowGroups hp ho
  have arranged : Arranges t.height groups := arranges_windowGroups groups hgroups
  have hfits : s.Fits t.height := fitting_eval e t ht s h
  -- On each group the expression has the cells that it has at the rows of the group.
  have hpicked : ∀ g ∈ groups, ∃ s', e.eval (t.take g) = .ok s' ∧ Picked g t.height s s' :=
    fun g hg => picked_eval rowwise ht (fun i hi => arranged.lt hg hi) s h
  obtain ⟨parts, hparts⟩ := exists_forall₂ hpicked
  have hnames : ∀ s' ∈ parts, s'.name = s.name :=
    forall_mem_right hparts fun _ _ _ hs => hs.2.name_eq
  have hdtypes : ∀ s' ∈ parts, s'.dtype = s.dtype :=
    forall_mem_right hparts fun _ _ _ hs => hs.2.dtype_eq
  have hne : parts ≠ [] := by
    rintro rfl
    exact groups_ne_nil filled groups hgroups (List.forall₂_nil_right_iff.mp hparts)
  refine ⟨s.spread t.height, broadcast_eq hfits.spread, ?_, rfl, rfl⟩
  refine (window_eq_ok filled hgroups).mpr ⟨parts, ?_, unifyAll_null_const hne hdtypes,
    (lastName_const hne hnames "").symm, by simp [Series.length, spread], ?_⟩
  · exact hparts.imp fun g s' hs => ⟨hs.1, hs.2.length_selected_or⟩
  · refine ((List.forall₂_and_left _ _).mpr ⟨fun g hg => hg, hparts⟩).imp ?_
    rintro g s' ⟨hg, -, hs⟩ i hi
    have hlt : g[i] < t.height := arranged.lt hg (List.getElem_mem hi)
    rw [cellAt_spread s hlt, hs.spreadAt (fun i hi => arranged.lt hg hi) hi]
    exact (coerceCell_of_has (has_spreadAt hfits.typed _)).symm

def morePoints : Expr := .binary .add (.literal (.int 1)) (.column "points")

attribute [local instance] Sql.dialect

/-- In a window of all entrants by teams the rows are evaluated in another order than they stand. -/
theorem window_rowwise_entrants :
    ∃ full, (⟨"points", .i64, [.int 2, .null, .int 4, .null]⟩ : Series).broadcast 4 = .ok full ∧
      (morePoints.overOrdered [] ["team"]).eval entrants = .ok full ∧ full.name = "points" ∧
        full.dtype = .i64 := by
  have rowwise : morePoints.Made Expr.isRowWise := by
    simp [Expr.Made, Expr.isRowWise, Expr.nodes, morePoints]
  have heval : morePoints.eval entrants = .ok ⟨"points", .i64, [.int 2, .null, .int 4, .null]⟩ := by
    decide +kernel
  refine window_rowwise rowwise wellFormed_entrants (by decide) heval ?_ ?_
  · intro k hk
    cases hk
  · intro k hk
    rw [List.mem_singleton.mp hk]
    exact ⟨_, rfl⟩

example : windowGroups entrants (.ordered [] ["team"]) = .ok [[1, 3, 0, 2]] := by cbv

end FramePlan.Eval
