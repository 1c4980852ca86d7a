import FramePlan.Proofs.Eval.Gathering
import FramePlan.Proofs.Eval.Trace

/-!
# Groups in queries

A query that groups keeps those of its groups at which its HAVING is true, and has a row for each of them.
The column of an item has there the only value that the item's expression has on the rows of the group.
`HasValues` says this of a column, and `grouped_spec` of the whole table.
-/
namespace FramePlan.Sql

open FramePlan.Eval Series

variable {t : Table} {item condition : Table → Outcome Series} {groups all : List (List Nat)}
  {c : Series}

/-! ## Steps of a query -/

theorem grouped_eq (t : Table) (select : Select) (keys : List Expr) :
    grouped t select keys = (do
      let all ← allGroups t keys
      let groups ← keepGroups t all select.having
      let columns ← select.items.mapM (groupedItem t groups)
      Table.ofColumns columns) := by
  simp only [grouped, allGroups, bind_assoc, pure_bind]

/-- Whether a SELECT with these keys groups its rows. -/
def Select.isGrouping (select : Select) (keys : List Expr) : Bool :=
  !keys.isEmpty || select.items.any Item.isAggregate

theorem rows_eq (select : Select) (input : Option Table) :
    select.rows input = if select.distinct.isSome then .error (.sql .distinct) else (do
      let source ← sourceRows input select.sources
      let t ← select.filtered source
      let keys ← select.groupBy.keys
      if select.isGrouping keys then grouped t select keys else projected t select.items) := by
  by_cases hd : select.distinct.isSome
  · simp only [Select.rows, hd, if_true]
    rfl
  · cases hf : select.filter with
    | none => simp [Select.rows, Select.filtered, Select.isGrouping, hd, hf]
    | some condition => simp [Select.rows, Select.filtered, Select.isGrouping, hd, hf]

/-- A SELECT of the items from the rows at hand, in groups, with no other clause. -/
def selectGroups (items : List Item) (keys : List Expr) (having : Option Expr) : Select where
  distinct := none
  top := ""
  items := items
  into := ""
  sources := [⟨inputTable, true, "", false, []⟩]
  views := ""
  filter := none
  groupBy := .exprs keys
  arrangement := ""
  having := having
  windows := ""

/-! ## Values on groups -/

/-- The column has one cell for each group: the only value of the item on the rows of the group, as a cell
    of the type that the column has. -/
def HasValues (t : Table) (item : Table → Outcome Series) (groups : List (List Nat)) (c : Series) : Prop :=
  List.Forall₂ (fun g cell => ∃ s, item (t.take g) = .ok s ∧ s.length = 1 ∧
    cell = coerceCell c.dtype (s.cellAt 0)) groups c.cells

theorem hasValues_aggregateGroups :
    Yields (aggregateGroups t groups item) (HasValues t item groups) := by
  intro c hc
  obtain ⟨parts, hparts, -, hcells⟩ := holdsValues_aggregateGroups c hc
  rw [HasValues, hcells, List.forall₂_map_right_iff]
  exact hparts.imp fun g s hs => ⟨s, hs.1, hs.2, rfl⟩

theorem HasValues.length (h : HasValues t item groups c) : c.length = groups.length :=
  (List.Forall₂.length_eq h).symm

theorem HasValues.congr {item' : Table → Outcome Series} (h : HasValues t item groups c)
    (same : ∀ g s, item (t.take g) = .ok s → item' (t.take g) = .ok s) :
    HasValues t item' groups c :=
  List.Forall₂.imp (fun g _ ⟨s, hs, hone, hcell⟩ => ⟨s, same g s hs, hone, hcell⟩) h

theorem HasValues.exists_value (h : HasValues t item groups c) :
    ∀ g ∈ groups, ∃ s, item (t.take g) = .ok s := by
  unfold HasValues at h
  generalize c.cells = cells at h
  induction h with
  | nil => exact fun _ hg => absurd hg List.not_mem_nil
  | cons hfirst _ ih =>
    obtain ⟨s, hs, -⟩ := hfirst
    exact List.forall_mem_cons.mpr ⟨⟨s, hs⟩, ih⟩

/-! ## Kept groups -/

/-- Whether the value of a condition on the rows of a group is true. -/
def isTrueOn (condition : Table → Outcome Series) (t : Table) (g : List Nat) : Bool :=
  match condition (t.take g) with
  | .ok s => s.cellAt 0 == .bool true
  | .error _ => false

theorem coerceCell_eq_true {d : Dtype} {cell : Cell} :
    coerceCell d cell = .bool true ↔ cell = .bool true := by
  cases d <;> cases cell <;> simp [coerceCell]

theorem HasValues.filter_true (h : HasValues t condition groups c) :
    ((groups.zip c.cells).filter fun p => p.2 == .bool true).map (·.1) =
      groups.filter (isTrueOn condition t) := by
  unfold HasValues at h
  generalize c.cells = cells at h ⊢
  induction h with
  | nil => rfl
  | @cons g cell groups cells hfirst _ ih =>
    obtain ⟨s, hs, -, rfl⟩ := hfirst
    have hg : isTrueOn condition t g = (coerceCell c.dtype (s.cellAt 0) == .bool true) := by
      rw [isTrueOn, hs, Bool.eq_iff_iff, beq_iff_eq, beq_iff_eq, coerceCell_eq_true]
    rw [List.zip_cons_cons, List.filter_cons, List.filter_cons, hg]
    split
    · rw [List.map_cons, ih]
    · exact ih

/-- A HAVING has a value on each group, and keeps the groups where it is true. -/
theorem keepGroups_some {e : Expr} (h : keepGroups t all (some e) = .ok groups) :
    ∃ keep, HasValues t (perGroup e) all keep ∧
      groups = ((all.zip keep.cells).filter fun p => p.2 == .bool true).map (·.1) := by
  obtain ⟨keep, hkeep, h⟩ := bind_eq_ok.mp h
  cases h
  exact ⟨keep, hasValues_aggregateGroups keep hkeep, rfl⟩

/-! ## The table of a grouping -/

/-- The expression of an item that has one, and the name of its column. -/
def Item.reading? : Item → Option (Expr × String)
  | .unnamed e => some (e, e.defaultName)
  | .named e name => some (e, name.value)
  | .wildcard _ => none
  | .foreign _ => none

/-- The column has the name of the item and, for each group, the value of its expression. -/
def ItemColumn (t : Table) (groups : List (List Nat)) (item : Item) (c : Series) : Prop :=
  ∃ e, item.reading? = some (e, c.name) ∧ HasValues t (perGroup e) groups c

theorem itemColumn_groupedItem (item : Item) :
    Yields (groupedItem t groups item) (ItemColumn t groups item) := by
  have named (e : Expr) (name : String) (h : item.reading? = some (e, name)) :
      Yields (do
        let s ← aggregateGroups t groups (perGroup e)
        pure (s.renamed name)) (ItemColumn t groups item) :=
    Yields.bind hasValues_aggregateGroups fun s hs => .ok ⟨e, h, hs⟩
  cases item with
  | unnamed e => exact named e _ rfl
  | named e name => exact named e _ rfl
  | wildcard tail => exact .error _
  | foreign text => exact .error _

/-- What a query that groups makes of a table: a row for each group that is kept, and a column for each
    item. A select list without items would have no rows. -/
theorem grouped_spec {select : Select} {keys : List Expr} {out : Table}
    (h : grouped t select keys = .ok out) :
    ∃ all groups, allGroups t keys = .ok all ∧ keepGroups t all select.having = .ok groups ∧
      List.Forall₂ (ItemColumn t groups) select.items out.columns ∧
      out.height = if select.items.isEmpty then 0 else groups.length := by
  rw [grouped_eq] at h
  obtain ⟨all, hall, h⟩ := bind_eq_ok.mp h
  obtain ⟨groups, hgroups, h⟩ := bind_eq_ok.mp h
  obtain ⟨columns, hcolumns, h⟩ := bind_eq_ok.mp h
  have heach : List.Forall₂ (ItemColumn t groups) select.items columns :=
    (mapM_eq_ok.mp hcolumns).imp fun item c hc => itemColumn_groupedItem item c hc
  obtain ⟨hout, level, -⟩ := Table.ofColumns_spec out h
  refine ⟨all, groups, hall, hgroups, hout ▸ heach, ?_⟩
  -- Any of the columns tells the height.
  cases hitems : select.items with
  | nil =>
    rw [hitems, List.forall₂_nil_left_iff] at heach
    subst heach
    cases h
    rfl
  | cons item items =>
    rw [hitems] at heach
    obtain ⟨c, rest, ⟨e, -, hc⟩, -, rfl⟩ := List.forall₂_cons_left_iff.mp heach
    rw [List.isEmpty_cons, if_neg Bool.false_ne_true, ← hc.length, level c List.mem_cons_self]

end FramePlan.Sql
