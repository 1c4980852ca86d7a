import FramePlan.Proofs.Eval.Scattering
import FramePlan.Sql.Parser.Statement

/-!
# Windows and groupings with one value for each group

A window and a grouping by the same keys evaluate on the same groups. If there is one value for each
group, the window writes it to all rows of the group and the grouping puts it behind the values of the
groups before. Both unify the types of the values in the same order, so there is a window exactly if
there is a column of the grouping (`exists_holdsParts_iff`), and each row of the window has the value of
its group (`value_at_row`). `window_agrees_grouping` says this of expressions over a table.
-/
namespace FramePlan.Eval

open Table Series

variable {t : Table} {groups : List (List Nat)} {inner : Table → Outcome Series} {w a : Series}
  {columns : List Series} {keys : List String}

theorem windowGroups_partitioned (hcolumns : keys.mapM t.column = .ok columns) :
    windowGroups t (.partitioned keys) = .ok (partition columns t.height) := by
  simp only [windowGroups, WindowSpec.partitioned, WindowSpec.isOrdered, hcolumns, ok_bind]
  rfl

section

variable (single : ∀ g ∈ groups, Yields (inner (t.take g)) fun s => s.length = 1)

include single

/-- What is written for the groups can be put one behind the other, and the other way round. -/
theorem exists_holdsParts_iff (arranged : Arranges t.height groups) (hne : groups ≠ []) :
    (∃ w, HoldsParts t inner groups w) ↔ ∃ a, HoldsValues t inner groups a := by
  constructor
  · rintro ⟨w, parts, hparts, hd, hn, -⟩
    have hsingles : List.Forall₂ (fun g s => inner (t.take g) = .ok s ∧ s.length = 1) groups parts := by
      refine ((List.forall₂_and_left _ _).mpr ⟨fun g hg => hg, hparts⟩).imp ?_
      rintro g s ⟨hg, hs, -⟩
      exact ⟨hs, single g hg s hs⟩
    exact ⟨⟨w.name, w.dtype, parts.map fun s => coerceCell w.dtype (s.cellAt 0)⟩, parts, hsingles,
      fun _ => ⟨hd, hn⟩, rfl⟩
  · rintro ⟨a, parts, hparts, hall, -⟩
    have hfits : List.Forall₂
        (fun g s => inner (t.take g) = .ok s ∧ (s.length = 1 ∨ s.length = g.length)) groups parts :=
      hparts.imp fun g s hs => ⟨hs.1, .inl hs.2⟩
    exact ⟨_, holdsParts_foldl arranged hfits (hall hne).1⟩

end

/-- The window and the grouping have the same name and type, and at a row of a group the window has the
    value of the group. -/
theorem value_at_row (hne : groups ≠ []) (hw : HoldsParts t inner groups w)
    (ha : HoldsValues t inner groups a) : w.name = a.name ∧ w.dtype = a.dtype ∧
      ∀ i j g, groups[j]? = some g → i ∈ g → w.cellAt i = a.cellAt j := by
  obtain ⟨parts, hparts, hd, hn, -, hwritten⟩ := hw
  obtain ⟨parts', hparts', hall, hcells⟩ := ha
  obtain ⟨hd', hn'⟩ := hall hne
  -- Both come from the same series of the groups, of one cell each.
  obtain rfl : parts = parts' := by
    have heval := hparts.imp fun g s (hs : _ ∧ _) => hs.1
    have heval' := hparts'.imp fun g s (hs : _ ∧ _) => hs.1
    refine List.right_unique_forall₂' ?_ heval heval'
    intro g s s' hs hs'
    exact Except.ok.inj (hs.symm.trans hs')
  have hdtype : w.dtype = a.dtype := Except.ok.inj (hd.symm.trans hd')
  refine ⟨hn.trans hn'.symm, hdtype, ?_⟩
  intro i j g hg hi
  obtain ⟨hj, rfl⟩ := List.getElem?_eq_some_iff.mp hg
  obtain ⟨q, hq, rfl⟩ := List.getElem_of_mem hi
  have hj' : j < parts.length := hparts.length_eq ▸ hj
  have hcell := (List.forall₂_iff_get.mp hwritten).2 j hj hj' q hq
  have hlen : parts[j].length = 1 := ((List.forall₂_iff_get.mp hparts').2 j hj hj').2
  calc w.cellAt groups[j][q] = coerceCell w.dtype (parts[j].spreadAt q) := hcell
    _ = coerceCell a.dtype (parts[j].cellAt 0) := by rw [hdtype, spreadAt_of_single hlen]
    _ = a.cellAt j := by simp [cellAt, hcells, hj']

/-- **A window with one value for each group agrees with the grouping.** Over a table with rows, let
columns be found under some names, and let an expression have at most one value on each group of rows by
these columns: wherever it has a series, that is of one cell. Grouping by the names and aggregating the
expression makes, before it checks the names of all columns, the column of these values. There is this
column exactly if there is the window of the expression over the names. They have the same name and the
same type then, and each row of the window has the value of the group that contains the row. -/
theorem window_agrees_grouping [Sql.Reader] {e : Expr} (filled : 0 < t.height) (ht : t.WellFormed)
    (named : keys.mapM t.column = .ok columns)
    (single : ∀ g ∈ partition columns t.height, Yields (e.eval (t.take g)) fun s => s.length = 1) :
    groupBy t (keys.map .name) [.expr e] = (do
      let a ← aggregateGroups t (partition columns t.height) e.eval
      Table.ofColumns (columns.map (·.take (firstRows (partition columns t.height))) ++ [a])) ∧
    ((∃ w, (e.overKeys keys).eval t = .ok w) ↔
      ∃ a, aggregateGroups t (partition columns t.height) e.eval = .ok a) ∧
    ∀ w a, (e.overKeys keys).eval t = .ok w →
      aggregateGroups t (partition columns t.height) e.eval = .ok a →
        w.name = a.name ∧ w.dtype = a.dtype ∧ w.length = t.height ∧
          ∀ i j g, (partition columns t.height)[j]? = some g → i ∈ g → w.cellAt i = a.cellAt j := by
  have hgroups := windowGroups_partitioned named
  have arranged : Arranges t.height (partition columns t.height) := flatten_partition_perm _ _
  have hne : partition columns t.height ≠ [] := fun h =>
    absurd (partition_eq_nil_iff.mp h) (Nat.ne_of_gt filled)
  have hwindow (w : Series) : (e.overKeys keys).eval t = .ok w ↔
      HoldsParts t e.eval (partition columns t.height) w := window_eq_ok filled hgroups
  have hvalues (a : Series) : aggregateGroups t (partition columns t.height) e.eval = .ok a ↔
      HoldsValues t e.eval (partition columns t.height) a := aggregateGroups_eq_ok hne
  refine ⟨?_, ?_, ?_⟩
  · have hkeys : ((keys.map Selector.name).mapM fun k => do (← k.eval t).broadcast t.height) =
        .ok columns := by
      rw [List.mapM_map, mapM_eq_ok]
      refine (mapM_eq_ok.mp named).imp ?_
      intro k c hc
      have hfull : c.length = t.height := (ht.1 c (mem_column c hc)).1
      show (t.column k >>= fun c => c.broadcast t.height) = .ok c
      rw [hc, ok_bind, broadcast, if_pos hfull]
    rw [groupBy, hkeys]
    simp only [ok_bind, groupTable, List.map_cons, List.map_nil, List.mapM_cons, List.mapM_nil,
      pure_eq_ok, bind_assoc]
    rfl
  · simp only [hwindow, hvalues]
    exact exists_holdsParts_iff single arranged hne
  · intro w a hw ha
    have hw := (hwindow w).mp hw
    obtain ⟨hn, hd, hcells⟩ := value_at_row hne hw ((hvalues a).mp ha)
    obtain ⟨-, -, -, -, hl, -⟩ := hw
    exact ⟨hn, hd, hl, hcells⟩

theorem length_eval_agg [Sql.Reader] (op : AggOp) (e : Expr) (t : Table) :
    Yields ((Expr.agg op e).eval t) fun s => s.length = 1 := by
  refine Yields.after ?_
  intro s _
  exact Yields.ite (fun _ => Yields.error _) fun _ => Yields.ok rfl

theorem wellFormed_harvest : harvest.WellFormed := by
  simp [WellFormed, SeriesTyped, CellHas, Series.length, names, harvest]

def kinds : Series := ⟨"kind", .str, [.null, .str "nut", .null, .str "nut"]⟩

def yield : Expr := .agg .sum (.column "n")

attribute [local instance] Sql.dialect

/-- The last row of the harvest has, in the window of the yield by kinds, the yield of the second kind. -/
theorem window_agrees_grouping_harvest :
    (∃ w, (yield.overKeys ["kind"]).eval harvest = .ok w) ∧
    groupBy harvest [.name "kind"] [.expr yield] = (do
      let a ← aggregateGroups harvest (partition [kinds] 4) yield.eval
      Table.ofColumns ([kinds].map (·.take (firstRows (partition [kinds] 4))) ++ [a])) ∧
    ∃ w a, (yield.overKeys ["kind"]).eval harvest = .ok w ∧
      aggregateGroups harvest (partition [kinds] 4) yield.eval = .ok a ∧
      w.name = a.name ∧ w.dtype = a.dtype ∧ w.cellAt 3 = a.cellAt 1 := by
  have hw : (yield.overKeys ["kind"]).eval harvest = .ok ⟨"n", .i64, [.int 1, .int 7, .int 1, .int 7]⟩ := by
    decide +kernel
  have ha : aggregateGroups harvest (partition [kinds] 4) yield.eval = .ok ⟨"n", .i64, [.int 1, .int 7]⟩ := by
    decide +kernel
  have single : ∀ g ∈ partition [kinds] 4, Yields (yield.eval (harvest.take g)) fun s => s.length = 1 :=
    fun g _ => length_eval_agg .sum (.column "n") _
  have named : ["kind"].mapM harvest.column = .ok [kinds] := rfl
  obtain ⟨hgroup, hboth, hsame⟩ :=
    window_agrees_grouping (e := yield) (by decide) wellFormed_harvest named single
  obtain ⟨hname, hdtype, -, hcells⟩ := hsame _ _ hw ha
  exact ⟨hboth.mpr ⟨_, ha⟩, hgroup, _, _, hw, ha, hname, hdtype,
    hcells 3 1 [1, 3] (by decide +kernel) (by decide)⟩

end FramePlan.Eval
