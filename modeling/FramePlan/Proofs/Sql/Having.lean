import FramePlan.Proofs.Eval.Sorting
import FramePlan.Proofs.Sql.Grouping
import FramePlan.Sql.Parser.Statement
import Mathlib.Data.List.Perm.Subperm

/-!
# HAVING

A statement that groups has a row for each group at which its HAVING is true (`rowsOf_grouped`). What comes
after the grouping picks some of these rows: an ORDER BY puts them in another order (`RowsOf.ordered`), and
a LIMIT takes the first of them (`RowsOf.limited`).

Whether a statement groups is told from its keys and its items alone, so a HAVING goes unread where there
are no keys and no item aggregates (`answer_without_having`). `having_applied` puts both together, and
`having_unread` is a statement of the second kind.
-/
namespace FramePlan.Sql

open FramePlan.Eval Series

variable {t out : Table} {item : Table → Outcome Series} {items : List Item}
  {groups rows : List (List Nat)} {places : List Nat} {c : Series} {condition : Expr}

/-! ## Picked groups -/

section

variable {α : Type}

/-- The elements at the given places, where there are any. -/
def pick (xs : List α) (places : List Nat) : List α := places.filterMap fun i => xs[i]?

theorem pick_cons {xs : List α} {i : Nat} (h : i < xs.length) (places : List Nat) :
    pick xs (i :: places) = xs[i] :: pick xs places :=
  List.filterMap_cons_some (List.getElem?_eq_getElem h)

theorem length_pick {xs : List α} (h : ∀ i ∈ places, i < xs.length) :
    (pick xs places).length = places.length := by
  induction places with
  | nil => rfl
  | cons i places ih =>
    obtain ⟨hi, hplaces⟩ := List.forall_mem_cons.mp h
    rw [pick_cons hi, List.length_cons, ih hplaces, List.length_cons]

theorem pick_range (xs : List α) (n : Nat) : pick xs (List.range n) = xs.take n := by
  induction n with
  | zero => rfl
  | succ n ih =>
    have hlast : [n].filterMap (fun i => xs[i]?) = xs[n]?.toList := by cases h : xs[n]? <;> simp [h]
    rw [pick] at ih
    rw [pick, List.range_succ, List.filterMap_append, ih, hlast, ← List.take_add_one]

theorem pick_perm {xs : List α} (h : places.Perm (List.range xs.length)) : (pick xs places).Perm xs :=
  calc (pick xs places).Perm (pick xs (List.range xs.length)) := h.filterMap _
    _ = xs := by rw [pick_range, List.take_length]

end

theorem HasValues.take (h : HasValues t item groups c) (hp : ∀ i ∈ places, i < groups.length) :
    HasValues t item (pick groups places) (c.take places) := by
  induction places with
  | nil => exact .nil
  | cons i places ih =>
    obtain ⟨hi, hplaces⟩ := List.forall_mem_cons.mp hp
    have hlt : i < c.cells.length := by
      rw [← List.Forall₂.length_eq h]
      exact hi
    have hcell : c.cellAt i = c.cells[i] := by simp [cellAt, hlt]
    rw [pick_cons hi]
    show List.Forall₂ _ (groups[i] :: pick groups places) (c.cellAt i :: (c.take places).cells)
    rw [hcell]
    exact .cons (List.Forall₂.get h hi hlt) (ih hplaces)

/-! ## Rows of groups -/

/-- The table has a row for each of the groups, with the values of the items on the group. -/
structure RowsOf (t : Table) (items : List Item) (groups : List (List Nat)) (out : Table) : Prop where
  height : out.height = groups.length
  columns : List.Forall₂ (ItemColumn t groups) items out.columns

namespace RowsOf

theorem take (h : RowsOf t items groups out) (hp : ∀ i ∈ places, i < groups.length) :
    RowsOf t items (pick groups places) (out.take places) := by
  refine ⟨(length_pick hp).symm, ?_⟩
  show List.Forall₂ _ items (out.columns.map (·.take places))
  rw [List.forall₂_map_right_iff]
  refine h.columns.imp ?_
  rintro item c ⟨e, hitem, hc⟩
  exact ⟨e, hitem, hc.take hp⟩

theorem ordered {sorted : Table} {orderBy : List OrderItem} (h : RowsOf t items groups out)
    (hsorted : ordered out orderBy = .ok sorted) :
    ∃ rows, rows.Perm groups ∧ RowsOf t items rows sorted := by
  obtain ⟨keys, -, hsorted⟩ := bind_eq_ok.mp hsorted
  split at hsorted
  · cases hsorted
    exact ⟨groups, .refl _, h⟩
  · cases hsorted
    have hplaces : (sortedRows keys out.height).Perm (List.range groups.length) := by
      rw [h.height]
      exact sortedRows_perm keys groups.length
    exact ⟨_, pick_perm hplaces, h.take fun i hi => lt_of_perm_range hplaces hi⟩

theorem limited {cut : Table} {limit : Option Expr} (h : RowsOf t items groups out)
    (hcut : limited out limit = .ok cut) :
    ∃ rows, rows.Sublist groups ∧ (limit = none → rows = groups) ∧ RowsOf t items rows cut := by
  cases limit with
  | none =>
    cases hcut
    exact ⟨groups, .refl _, fun _ => rfl, h⟩
  | some e =>
    obtain ⟨n, -, hcut⟩ := bind_eq_ok.mp hcut
    cases hcut
    refine ⟨pick groups (List.range (min n out.height)), ?_, (fun hnone => by cases hnone), h.take ?_⟩
    · rw [pick_range]
      exact List.take_sublist _ _
    · intro i hi
      have hlt : i < min n out.height := List.mem_range.mp hi
      rw [h.height] at hlt
      omega

end RowsOf

/-! ## Statements -/

/-- The result of a statement whose syntax tree is at hand. -/
def Select.answer (select : Select) (q : Query) (input : Option Table) : Outcome Table := do
  let output ← select.rows input
  let sorted ← ordered output q.orderBy
  limited sorted q.limit

variable {select : Select} {q : Query} {input : Option Table}

theorem rows_spec (h : select.rows input = .ok out) :
    ∃ source t keys, sourceRows input select.sources = .ok source ∧ select.filtered source = .ok t ∧
      select.groupBy.keys = .ok keys ∧
      (if select.isGrouping keys then grouped t select keys else projected t select.items) = .ok out := by
  rw [rows_eq] at h
  split at h
  · cases h
  · obtain ⟨source, hsource, h⟩ := bind_eq_ok.mp h
    obtain ⟨t, ht, h⟩ := bind_eq_ok.mp h
    obtain ⟨keys, hkeys, h⟩ := bind_eq_ok.mp h
    exact ⟨source, t, keys, hsource, ht, hkeys, h⟩

theorem rowsOf_grouped {keys : List Expr} (hhaving : select.having = some condition)
    (h : grouped t select keys = .ok out) :
    ∃ all keep rows, allGroups t keys = .ok all ∧ HasValues t (perGroup condition) all keep ∧
      rows.Sublist (all.filter (isTrueOn (perGroup condition) t)) ∧
      (select.items ≠ [] → rows = all.filter (isTrueOn (perGroup condition) t)) ∧
      RowsOf t select.items rows out := by
  obtain ⟨all, groups, hall, hgroups, hcolumns, hheight⟩ := grouped_spec h
  rw [hhaving] at hgroups
  obtain ⟨keep, hkeep, hkept⟩ := keepGroups_some hgroups
  rw [hkeep.filter_true] at hkept
  cases hitems : select.items with
  | nil =>
    rw [hitems] at hcolumns hheight
    rw [List.forall₂_nil_left_iff] at hcolumns
    refine ⟨all, keep, [], hall, hkeep, List.nil_sublist _, fun hne => absurd rfl hne, hheight, ?_⟩
    rw [hcolumns]
    exact .nil
  | cons item items =>
    rw [hitems] at hcolumns hheight
    subst hkept
    exact ⟨all, keep, _, hall, hkeep, .refl _, fun _ => rfl, hheight, hcolumns⟩

/-- What a SELECT that does not group makes of its table is told by its items alone. -/
theorem rows_of_plain {keys : List Expr} (hkeys : select.groupBy.keys = .ok keys)
    (hplain : select.isGrouping keys = false) :
    select.rows input = if select.distinct.isSome then .error (.sql .distinct) else (do
      let source ← sourceRows input select.sources
      let t ← select.filtered source
      projected t select.items) := by
  rw [rows_eq, hkeys]
  simp only [ok_bind, hplain, Bool.false_eq_true, if_false]

theorem answer_without_having {keys : List Expr} (hkeys : select.groupBy.keys = .ok keys)
    (hplain : select.isGrouping keys = false) :
    Select.answer { select with having := none } q input = select.answer q input := by
  have hwithout : Select.rows { select with having := none } input = _ := rows_of_plain hkeys hplain
  rw [Select.answer, Select.answer, hwithout, rows_of_plain hkeys hplain]
  rfl

/-- **HAVING decides on the rows of groupings.** A statement with a HAVING runs over a table. If it groups,
each row of its result is a row of a group at which the HAVING is true, of no group twice; so there are no
rows if it is true at none, and there is a row for each such group if there is no LIMIT. If it does not
group, its result is what it is without the HAVING. -/
theorem having_applied (hhaving : select.having = some condition)
    (h : select.answer q input = .ok out) :
    ∃ source t keys, sourceRows input select.sources = .ok source ∧ select.filtered source = .ok t ∧
      select.groupBy.keys = .ok keys ∧
      (select.isGrouping keys = true → ∃ all keep rows, allGroups t keys = .ok all ∧
        HasValues t (perGroup condition) all keep ∧ RowsOf t select.items rows out ∧
        rows.Subperm (all.filter (isTrueOn (perGroup condition) t)) ∧
        ((∀ g ∈ all, isTrueOn (perGroup condition) t g = false) → out.height = 0) ∧
        (select.items ≠ [] → q.limit = none →
          rows.Perm (all.filter (isTrueOn (perGroup condition) t)))) ∧
      (select.isGrouping keys = false →
        Select.answer { select with having := none } q input = .ok out) := by
  have hanswer := h
  obtain ⟨output, houtput, h⟩ := bind_eq_ok.mp h
  obtain ⟨sorted, hsorted, hcut⟩ := bind_eq_ok.mp h
  obtain ⟨source, t, keys, hsource, ht, hkeys, hrows⟩ := rows_spec houtput
  refine ⟨source, t, keys, hsource, ht, hkeys, fun hgrouping => ?_, fun hplain => ?_⟩
  · rw [if_pos hgrouping] at hrows
    obtain ⟨all, keep, groups, hall, hkeep, hkept, hevery, hgroups⟩ := rowsOf_grouped hhaving hrows
    obtain ⟨moved, hperm, hmoved⟩ := hgroups.ordered hsorted
    obtain ⟨rows, hsub, hlimit, hout⟩ := hmoved.limited hcut
    have hpick : rows.Subperm (all.filter (isTrueOn (perGroup condition) t)) :=
      (hsub.subperm.trans hperm.subperm).trans hkept.subperm
    refine ⟨all, keep, rows, hall, hkeep, hout, hpick, fun hnone => ?_, fun hitems hnolimit => ?_⟩
    · have hnil : all.filter (isTrueOn (perGroup condition) t) = [] :=
        List.filter_eq_nil_iff.mpr fun g hg => by simp [hnone g hg]
      rw [hnil, List.subperm_nil] at hpick
      rw [hout.height, hpick, List.length_nil]
    · rw [hlimit hnolimit, ← hevery hitems]
      exact hperm
  · rw [answer_without_having hkeys hplain, hanswer]

/-! ### Crates by kind -/

def crates : Table :=
  ⟨[⟨"kind", .str, [.str "nut", .str "fig", .str "nut", .str "fig", .str "oat"]⟩,
    ⟨"n", .i64, [.int 3, .int 1, .int 4, .int 1, .int 9]⟩], 5⟩

def moreThan (most : String) : Expr :=
  .binary (.plain .gt) (.call [⟨"count", none⟩] (.list "" [.wildcard] "") false "")
    (.literal (.number most false))

def totalItem : Item :=
  .named (.call [⟨"sum", none⟩] (.list "" [.expr (.ident ⟨"n", none⟩)] "") false "") ⟨"total", none⟩

def firstOf (select : Select) : Query where
  tables := ""
  body := .select select
  orderBy := []
  limit := some (.literal (.number "1" false))
  tail := ""

/-- The first total of a kind that has more than one crate. -/
theorem having_applied_crates :
    let select := selectGroups [totalItem] [.ident ⟨"kind", none⟩] (some (moreThan "1"))
    let out : Table := ⟨[⟨"total", .i64, [.int 7]⟩], 1⟩
    select.answer (firstOf select) (some crates) = .ok out ∧
    ∃ all rows, allGroups crates [.ident ⟨"kind", none⟩] = .ok all ∧ RowsOf crates [totalItem] rows out ∧
      rows.Subperm (all.filter (isTrueOn (perGroup (moreThan "1")) crates)) := by
  intro select out
  have hout : select.answer (firstOf select) (some crates) = .ok out := by decide +kernel
  have hfrom : sourceRows (some crates) select.sources = .ok crates := by decide +kernel
  obtain ⟨source, t, keys, hsource, ht, hkeys, hgroups, -⟩ := having_applied rfl hout
  cases hfrom.symm.trans hsource
  cases ht
  cases hkeys
  obtain ⟨all, keep, rows, hall, -, hrows, hkept, -⟩ := hgroups rfl
  exact ⟨hout, all, rows, hall, hrows, hkept⟩

attribute [local instance] Sql.dialect

/-- There are five crates, so it is not true of the one group of all crates that it has more than five, and
    a grouping of them has no row. But a constant is no aggregate, and there are no keys: the statement does
    not group, and has the row of the constant. -/
theorem having_unread :
    (readSelect "SELECT 'many' AS size FROM df HAVING count(*) > 5").map
      (fun p => p.1.having.map Expr.text) = .ok (some (moreThan "5").text) ∧
    perGroup (moreThan "5") crates = .ok ⟨"count", .bool, [.bool false]⟩ ∧
    grouped crates (selectGroups [.named (.literal (.string "many")) ⟨"size", none⟩] []
      (some (moreThan "5"))) [] = .ok ⟨[⟨"size", .str, []⟩], 0⟩ ∧
    query "SELECT 'many' AS size FROM df HAVING count(*) > 5" (some crates) =
      .ok ⟨[⟨"size", .str, [.str "many"]⟩], 1⟩ := by
  refine ⟨?_, ?_, ?_, ?_⟩
  · decide +kernel
  · decide +kernel
  · decide +kernel
  · decide +kernel

end FramePlan.Sql
