import FramePlan.Eval.Expr
import FramePlan.Proofs.Eval.Partition
import FramePlan.Sql.Parser.Statement

/-!
# Loops over groups

Groupings and windows go through groups of rows in a loop: something is evaluated on the rows of a
group, its type is unified with the type so far, and its cells are put among the cells so far. The two
loops differ in what they ask of the series of a group and in where they write its cells. `Gathers` says
that the step of a loop is of this shape, and `Gathers.foldlM_eq_ok` says what the whole loop comes to:
one series for each group, the type that their types are unified to, and all their cells.

For a grouping this is the column of an item's single values over the groups (`aggregateGroups_eq_ok`).
`grouping_partitions_rows` says from this what a grouping makes of a table.
-/
namespace FramePlan.Eval

open Table Series

variable {t : Table} {groups : List (List Nat)} {item : Table → Outcome Series}

/-! ## Loops over groups -/

/-- The type that the types of the series are unified to, one after the other. -/
def unifyAll (d : Dtype) (parts : List Series) : Outcome Dtype := (parts.map (·.dtype)).foldlM unify d

def lastName (name : String) (parts : List Series) : String := (parts.getLast?.map (·.name)).getD name

theorem lastName_cons (name : String) (s : Series) (parts : List Series) :
    lastName name (s :: parts) = lastName s.name parts := by
  simp only [lastName, List.getLast?_cons]
  cases parts.getLast? <;> rfl

/-- The loop step evaluates something on the rows of a group, asks of the series that it fits the
    group, unifies its type with the type so far, and writes its cells among the cells so far. -/
def Gathers (t : Table) (item : Table → Outcome Series) (fits : List Nat → Series → Prop)
    (write : List Cell → List Nat × Series → List Cell)
    (step : Series → List Nat → Outcome Series) : Prop :=
  ∀ before rows after, step before rows = .ok after ↔
    ∃ s, (item (t.take rows) = .ok s ∧ fits rows s) ∧
      unify before.dtype s.dtype = .ok after.dtype ∧ after.name = s.name ∧
      after.cells = write before.cells (rows, s)

/-- What a loop over groups comes to: it has a series for each group, the type that their types are
    unified to, the name of the last of them, and the cells of all of them written. -/
theorem Gathers.foldlM_eq_ok {fits : List Nat → Series → Prop}
    {write : List Cell → List Nat × Series → List Cell} {step : Series → List Nat → Outcome Series}
    (h : Gathers t item fits write step) {before after : Series} :
    groups.foldlM step before = .ok after ↔
      ∃ parts, List.Forall₂ (fun g s => item (t.take g) = .ok s ∧ fits g s) groups parts ∧
        unifyAll before.dtype parts = .ok after.dtype ∧ after.name = lastName before.name parts ∧
        after.cells = (groups.zip parts).foldl write before.cells := by
  induction groups generalizing before with
  | nil =>
    simp only [List.foldlM_nil, pure_eq_ok, List.forall₂_nil_left_iff, exists_eq_left]
    constructor
    · intro hsame
      cases hsame
      exact ⟨rfl, rfl, rfl⟩
    · rintro ⟨hd, hn, hc⟩
      have hd : before.dtype = after.dtype := Except.ok.inj hd
      have hn : after.name = before.name := hn
      have hc : after.cells = before.cells := hc
      cases before
      cases after
      simp_all
  | cons g gs ih =>
    rw [List.foldlM_cons, bind_eq_ok]
    constructor
    · rintro ⟨next, hstep, hrest⟩
      obtain ⟨s, hs, hd, hn, hc⟩ := (h _ _ _).mp hstep
      obtain ⟨parts, hparts, hds, hns, hcs⟩ := ih.mp hrest
      refine ⟨s :: parts, .cons hs hparts, ?_, ?_, ?_⟩
      · rw [unifyAll, List.map_cons, List.foldlM_cons, hd]
        exact hds
      · rw [lastName_cons, hns, hn]
      · rw [hcs, hc]
        rfl
    · rintro ⟨parts, hparts, hd, hn, hc⟩
      obtain ⟨s, parts, hs, hrest, rfl⟩ := List.forall₂_cons_left_iff.mp hparts
      rw [unifyAll, List.map_cons, List.foldlM_cons, bind_eq_ok] at hd
      obtain ⟨d, hfirst, hd⟩ := hd
      rw [lastName_cons] at hn
      refine ⟨⟨s.name, d, write before.cells (g, s)⟩, ?_, ?_⟩
      · exact (h _ _ _).mpr ⟨s, hs, hfirst, rfl, rfl⟩
      · exact ih.mpr ⟨parts, hrest, hd, hn, hc⟩

/-! ## Values on groups -/

theorem gathers_appendGroup (t : Table) (item : Table → Outcome Series) :
    Gathers t item (fun _ s => s.length = 1) (fun cells p => cells ++ p.2.cells)
      (appendGroup t item) := by
  intro before rows after
  cases hi : item (t.take rows) with
  | error fault => simp [appendGroup, hi]
  | ok s =>
    by_cases h1 : s.length = 1
    · have hstep : appendGroup t item before rows =
          unify before.dtype s.dtype >>= fun d => .ok ⟨s.name, d, before.cells ++ s.cells⟩ := by
        simp only [appendGroup, hi, ok_bind, h1, ne_eq, not_true_eq_false, if_false, pure_eq_ok]
      rw [hstep, bind_eq_ok]
      constructor
      · rintro ⟨d, hd, hafter⟩
        cases hafter
        exact ⟨s, ⟨rfl, h1⟩, hd, rfl, rfl⟩
      · rintro ⟨s', ⟨hs, -⟩, hd, hn, hc⟩
        cases hs
        have hc : after.cells = before.cells ++ s.cells := hc
        exact ⟨after.dtype, hd, by rw [← hn, ← hc]⟩
    · have hstep : appendGroup t item before rows = .error (.groupValues s.name s.length) := by
        simp only [appendGroup, hi, ok_bind, h1, ne_eq, not_false_eq_true, if_true]
        rfl
      rw [hstep]
      refine iff_of_false (fun h => by cases h) ?_
      rintro ⟨s', ⟨hs, h1'⟩, -⟩
      cases hs
      exact h1 h1'

theorem foldl_append_singles {pairs : List (List Nat × Series)} (h : ∀ p ∈ pairs, p.2.length = 1)
    (cells : List Cell) :
    pairs.foldl (fun cells p => cells ++ p.2.cells) cells = cells ++ pairs.map fun p => p.2.cellAt 0 := by
  induction pairs generalizing cells with
  | nil => simp
  | cons p ps ih =>
    obtain ⟨hp, hps⟩ := List.forall_mem_cons.mp h
    obtain ⟨c, hc⟩ := List.length_eq_one_iff.mp hp
    have hcell : p.2.cellAt 0 = c := by simp [cellAt, hc]
    simp [ih hps, hc, hcell]

/-- The column has one cell for each group: the single value that the item has on the rows of the group,
    in the type that the types of all these values are unified to. -/
def HoldsValues (t : Table) (item : Table → Outcome Series) (groups : List (List Nat)) (c : Series) :
    Prop :=
  ∃ parts, List.Forall₂ (fun g s => item (t.take g) = .ok s ∧ s.length = 1) groups parts ∧
    (groups ≠ [] → unifyAll .null parts = .ok c.dtype ∧ c.name = lastName "" parts) ∧
    c.cells = parts.map fun s => coerceCell c.dtype (s.cellAt 0)

/-- The column of an item over some groups is there exactly if it holds the item's values. -/
theorem aggregateGroups_eq_ok (hne : groups ≠ []) {c : Series} :
    aggregateGroups t groups item = .ok c ↔ HoldsValues t item groups c := by
  have hempty : groups.isEmpty = false := List.isEmpty_eq_false_iff.mpr hne
  -- The cells as the loop leaves them, before they are coerced.
  have hcells {parts : List Series}
      (hparts : List.Forall₂ (fun g s => item (t.take g) = .ok s ∧ s.length = 1) groups parts) :
      (groups.zip parts).foldl (fun cells p => cells ++ p.2.cells) [] = parts.map (·.cellAt 0) := by
    rw [foldl_append_singles fun p hp => (List.forall₂_zip hparts hp).2, List.nil_append]
    show (groups.zip parts).map ((·.cellAt 0) ∘ Prod.snd) = _
    rw [← List.map_map, List.map_snd_zip hparts.length_eq.ge]
  have hcoerce (parts : List Series) : coerce c.dtype (parts.map (·.cellAt 0)) =
      parts.map fun s => coerceCell c.dtype (s.cellAt 0) := by
    simp [coerce]
  simp only [aggregateGroups, hempty, Bool.false_eq_true, if_false, bind_eq_ok, pure_eq_ok,
    (gathers_appendGroup t item).foldlM_eq_ok]
  constructor
  · rintro ⟨s, ⟨parts, hparts, hd, hn, hc⟩, hs⟩
    cases hs
    refine ⟨parts, hparts, fun _ => ⟨hd, hn⟩, ?_⟩
    rw [← hcoerce, hc, hcells hparts]
  · rintro ⟨parts, hparts, hall, hc⟩
    obtain ⟨hd, hn⟩ := hall hne
    refine ⟨⟨c.name, c.dtype, parts.map (·.cellAt 0)⟩, ⟨parts, hparts, hd, hn, (hcells hparts).symm⟩, ?_⟩
    rw [hcoerce, ← hc]

/-- What a grouping has for an item holds its values, also if there are no groups. -/
theorem holdsValues_aggregateGroups :
    Yields (aggregateGroups t groups item) (HoldsValues t item groups) := by
  intro c hc
  by_cases hnil : groups = []
  · subst hnil
    exact ⟨[], .nil, fun h => absurd rfl h, cells_noGroups c hc⟩
  · exact (aggregateGroups_eq_ok hnil).mp hc

theorem HoldsValues.length {c : Series} (h : HoldsValues t item groups c) : c.length = groups.length := by
  obtain ⟨parts, hparts, -, hc⟩ := h
  rw [Series.length, hc, List.length_map, hparts.length_eq]

/-! ## Grouped tables -/

/-- **A grouping is a partition in order of first appearance.** For any key columns, also none, the
groups of rows are a partition by the key texts: they have rows, no row in common, and all rows together;
two rows are in one group exactly if their key texts are equal; rows ascend in a group, and the groups
stand in the order of their first rows.

A table that is grouped by keys or with aggregates, of which there is at least one, has a row for each
of these groups, in this order. Its first columns are the key columns at the first rows of the groups.
Each further one holds the values of an aggregate: for each group the only cell that the aggregate has on
the rows of the group, in the type that the types on all groups are unified to. -/
theorem grouping_partitions_rows [Sql.Reader] :
    (∀ keys height, PartitionsBy (rowKey keys) height (partition keys height)) ∧
    ∀ (t u : Table) (keys aggs : List Selector), keys ≠ [] ∨ aggs ≠ [] → groupBy t keys aggs = .ok u →
      ∃ columns values, keys.mapM (fun k => do (← k.eval t).broadcast t.height) = .ok columns ∧
        u.height = (partition columns t.height).length ∧
        u.columns = columns.map (·.take (firstRows (partition columns t.height))) ++ values ∧
        List.Forall₂ (fun a c => HoldsValues t a.eval (partition columns t.height) c) aggs values := by
  refine ⟨partitionsBy_partition, ?_⟩
  intro t u keys aggs hsome h
  obtain ⟨columns, hcolumns, h⟩ := bind_eq_ok.mp h
  obtain ⟨values, hvalues, h⟩ := bind_eq_ok.mp h
  have hholds : List.Forall₂ (fun a c => HoldsValues t a.eval (partition columns t.height) c) aggs
      values := by
    have heach := mapM_eq_ok.mp hvalues
    rw [List.forall₂_map_left_iff] at heach
    exact heach.imp fun a c hc => holdsValues_aggregateGroups c hc
  obtain ⟨hcols, heights, -⟩ := ofColumns_spec u h
  refine ⟨columns, values, hcolumns, ?_, hcols, hholds⟩
  -- Any of the columns tells the height, and there is one.
  rcases hsome with hkeys | haggs
  · obtain ⟨k, rest, rfl⟩ := List.exists_cons_of_ne_nil hkeys
    obtain ⟨c, columns, -, -, rfl⟩ := List.forall₂_cons_left_iff.mp (mapM_eq_ok.mp hcolumns)
    have hfirst := heights _ List.mem_cons_self
    rw [← hfirst, length_take, List.length_map]
  · obtain ⟨a, rest, rfl⟩ := List.exists_cons_of_ne_nil haggs
    obtain ⟨c, values, hc, -, rfl⟩ := List.forall₂_cons_left_iff.mp hholds
    have hlast := heights c (List.mem_append_right _ List.mem_cons_self)
    rw [← hlast, hc.length]

/-- A harvest of nuts and of something that has no name. -/
def harvest : Table :=
  ⟨[⟨"kind", .str, [.null, .str "nut", .null, .str "nut"]⟩, ⟨"n", .i64, [.int 1, .int 2, .null, .int 5]⟩], 4⟩

attribute [local instance] Sql.dialect

/-- The harvest by kind: what has no name has begun first. -/
theorem grouping_partitions_rows_harvest :
    PartitionsBy (rowKey harvest.columns) 4 (partition harvest.columns 4) ∧
    ∃ columns values,
      [Selector.name "kind"].mapM (fun k => do (← k.eval harvest).broadcast 4) = .ok columns ∧
        2 = (partition columns 4).length ∧
        [⟨"kind", .str, [.null, .str "nut"]⟩, ⟨"n", .i64, [.int 1, .int 7]⟩] =
          columns.map (·.take (firstRows (partition columns 4))) ++ values ∧
        List.Forall₂ (fun a c => HoldsValues harvest a.eval (partition columns 4) c)
          [Selector.expr (.agg .sum (.column "n"))] values := by
  have hgroup : groupBy harvest [.name "kind"] [.expr (.agg .sum (.column "n"))] =
      .ok ⟨[⟨"kind", .str, [.null, .str "nut"]⟩, ⟨"n", .i64, [.int 1, .int 7]⟩], 2⟩ := by
    decide +kernel
  exact ⟨grouping_partitions_rows.1 _ _,
    grouping_partitions_rows.2 _ _ _ _ (.inl (List.cons_ne_nil _ _)) hgroup⟩

end FramePlan.Eval
