import FramePlan.Eval.Join
import FramePlan.Eval.Window
import FramePlan.Proofs.Eval.Partition
import FramePlan.Proofs.Eval.SeriesTyping
import FramePlan.Table.Csv

/-!
# Rules for the cells of columns

What a type asks of the cells of its columns is kept by everything that makes tables of tables, whatever it
asks. Groups, windows, joins and concatenations collect cells of several series in one column, whose type
widens on the way: while it is collected a column only has to be able to take its cells (`takes`), and
coercing them at the end makes it hold them (`has`).

`ColumnRule` says what has to be known of the two for that. It is used with the types of cells, and again
with counts. Groups and windows are given what the item makes of each part, and nothing is known of it
elsewhere.
-/
namespace FramePlan

open Eval Series

/-- What a type asks of the cells of a finished column, what it asks of those of a column in the making, and
    what is then so of a table. -/
structure ColumnRule (has takes : Dtype → Cell → Prop) (good : Table → Prop) : Prop where
  null (d : Dtype) : has d .null
  taken {d : Dtype} {c : Cell} : has d c → takes d c
  widen {a b d : Dtype} {c : Cell} : a.unify? b = some d → takes a c → takes d c
  coerced {d : Dtype} {c : Cell} : takes d c → has d (coerceCell d c)
  columns {t : Table} : good t → ∀ c ∈ t.columns, c.Holds has
  ofColumns {columns : List Series} : (∀ c ∈ columns, c.Holds has) → Yields (Table.ofColumns columns) good
  take {t : Table} : good t → ∀ rows, good (t.take rows)

/-! ## Writing and adding columns -/

theorem length_scatter (pairs : List (Nat × Cell)) :
    ∀ cells : List Cell, (scatter cells pairs).length = cells.length := by
  induction pairs with
  | nil => exact fun _ => rfl
  | cons p ps ih =>
    intro cells
    rw [scatter, List.foldl_cons]
    exact (ih _).trans List.length_set

/-- What holds of the cells written over and of those written holds of all. -/
theorem forall_mem_scatter {P : Cell → Prop} {pairs : List (Nat × Cell)}
    (hp : ∀ p ∈ pairs, P p.2) : ∀ {cells : List Cell}, (∀ c ∈ cells, P c) →
      ∀ c ∈ scatter cells pairs, P c := by
  induction pairs with
  | nil => exact fun h => h
  | cons p ps ih =>
    intro cells h
    rw [scatter, List.foldl_cons]
    refine ih (fun q hq => hp q (List.mem_cons_of_mem p hq)) fun c hc => ?_
    obtain hc | rfl := List.mem_or_eq_of_mem_set hc
    · exact h c hc
    · exact hp p List.mem_cons_self

theorem foldl_addRight (spec : JoinSpec) (pairs : List RowPair) (rights columns : List Series) :
    ∃ names : List String, names.length = rights.length ∧
      rights.foldl (addRight spec pairs) columns = columns ++
        rights.zipWith (fun c name => (c.takeOptional (pairs.map (·.2))).renamed name) names := by
  induction rights generalizing columns with
  | nil => exact ⟨[], rfl, (List.append_nil columns).symm⟩
  | cons c rights ih =>
    have hone : ∃ name, addRight spec pairs columns c =
        columns ++ [(c.takeOptional (pairs.map (·.2))).renamed name] := by
      simp only [addRight]
      split
      · exact ⟨_, rfl⟩
      · exact ⟨c.name, rfl⟩
    obtain ⟨name, hname⟩ := hone
    obtain ⟨names, hlen, hrest⟩ := ih (addRight spec pairs columns c)
    refine ⟨name :: names, congrArg (· + 1) hlen, ?_⟩
    rw [List.foldl_cons, hrest, hname, List.append_assoc, List.singleton_append,
      List.zipWith_cons_cons]

/-- What holds of the columns that are there, and of the right ones however they are named, holds
    of all. -/
theorem forall_mem_addRights {P : Series → Prop} {spec : JoinSpec} {pairs : List RowPair}
    {rights columns : List Series} (h : ∀ d ∈ columns, P d)
    (hr : ∀ c ∈ rights, ∀ name, P ((c.takeOptional (pairs.map (·.2))).renamed name)) :
    ∀ d ∈ rights.foldl (addRight spec pairs) columns, P d := by
  obtain ⟨names, -, hadded⟩ := foldl_addRight spec pairs rights columns
  intro d hd
  rw [hadded] at hd
  obtain hd | hd := List.mem_append.mp hd
  · exact h d hd
  · exact forall_mem_zipWith (fun c hc name _ => hr c hc name) d hd

theorem forall_mem_orElse {P : Cell → Prop} {xs ys : List Cell} (hx : ∀ c ∈ xs, P c) (hy : ∀ c ∈ ys, P c) :
    ∀ c ∈ xs.zipWith Cell.orElse ys, P c := by
  refine forall_mem_zipWith fun x hxm y hym => ?_
  unfold Cell.orElse
  split
  · exact hy y hym
  · exact hx x hxm

/-- A window has a cell for each row, whatever is inside it. -/
theorem length_window {t : Table} {spec : WindowSpec} {inner : Table → Outcome Series} :
    Yields (window t spec inner) fun s => s.length = t.height := by
  refine Yields.after fun groups _ => ?_
  refine Yields.bind (P := fun s => s.length = t.height) (Yields.foldlM ?_ List.length_replicate) fun s hs => ?_
  · intro before hb rows _
    refine Yields.after fun s _ => Yields.after fun d _ => Yields.after fun full _ => .ok ?_
    exact (length_scatter _ _).trans hb
  · exact Yields.after fun name _ => .ok ((List.length_map _).trans hs)

namespace ColumnRule

variable {has takes : Dtype → Cell → Prop} {good : Table → Prop} (rule : ColumnRule has takes good)
  {t left right : Table} {s before : Series} {a d : Dtype} {name : String} {cells : List Cell}
  {item inner : Table → Outcome Series} {groups : List (List Nat)} {rows : List Nat} {spec : WindowSpec}

include rule

/-! ## Cells -/

theorem holds_coerce (h : ∀ c ∈ cells, takes d c) : Holds has ⟨name, d, coerce d cells⟩ := by
  intro c hc
  obtain ⟨b, hb, rfl⟩ := List.mem_map.mp hc
  exact rule.coerced (h b hb)

theorem holds_nulls (name : String) (d : Dtype) (n : Nat) :
    Holds has ⟨name, d, List.replicate n .null⟩ := by
  intro c hc
  rw [List.eq_of_mem_replicate hc]
  exact rule.null d

theorem holds_taken (h : s.Holds has) : s.Holds takes := fun c hc => rule.taken (h c hc)

theorem takes_left (h : s.Holds takes) (hu : unify s.dtype a = .ok d) : ∀ c ∈ s.cells, takes d c :=
  fun c hc => rule.widen (unify_eq_ok.mp hu) (h c hc)

theorem takes_right (h : s.Holds takes) (hu : unify a s.dtype = .ok d) : ∀ c ∈ s.cells, takes d c :=
  fun c hc => rule.widen ((Dtype.unify?_comm _ _).trans (unify_eq_ok.mp hu)) (h c hc)

/-! ## Groups -/

theorem appendGroup (hi : Yields (item (t.take rows)) (Holds has)) (hb : before.Holds takes) :
    Yields (Eval.appendGroup t item before rows) (Holds takes) := by
  refine Yields.bind hi fun s hs => ?_
  split
  · exact .error _
  · -- The new cell widens the type, and the wider column still takes the cells before it.
    refine Yields.after fun d hd => .ok fun c hc => ?_
    obtain hc | hc := List.mem_append.mp hc
    · exact rule.takes_left hb hd c hc
    · exact rule.takes_right (rule.holds_taken hs) hd c hc

theorem aggregateGroups (hi : ∀ rows ∈ groups, Yields (item (t.take rows)) (Holds has)) :
    Yields (Eval.aggregateGroups t groups item) (Holds has) := by
  refine Yields.ite (fun _ => ?_) fun _ => ?_
  · refine cells_noGroups.mono fun s hs c hc => ?_
    rw [hs] at hc
    exact absurd hc List.not_mem_nil
  · refine Yields.bind (P := Holds takes) (Yields.foldlM ?_ ?_) fun s hs => .ok (rule.holds_coerce hs)
    · exact fun b hb rows hr => rule.appendGroup (hi rows hr) hb
    · exact fun _ hc => absurd hc List.not_mem_nil

theorem groupTable {keys : List Series} {items : List (Table → Outcome Series)}
    (hk : ∀ k ∈ keys, k.Holds has)
    (hi : ∀ item ∈ items, Yields (Eval.aggregateGroups t (partition keys t.height) item) (Holds has)) :
    Yields (Eval.groupTable t keys items) good := by
  refine Yields.bind (Yields.mapM hi) fun aggregates ha => rule.ofColumns fun c hc => ?_
  obtain hc | hc := List.mem_append.mp hc
  · obtain ⟨k, hm, rfl⟩ := List.mem_map.mp hc
    exact (hk k hm).take rule.null _
  · exact ha c hc

/-! ## Windows -/

theorem fillPartition (hi : Yields (inner (t.take rows)) (Holds has)) (hb : before.Holds takes) :
    Yields (Eval.fillPartition t inner before rows) (Holds takes) := by
  refine Yields.bind hi fun s hs => Yields.after fun d hd => Yields.after fun full hf => .ok ?_
  obtain ⟨-, -, -, hcells⟩ := broadcast_spec hf
  refine forall_mem_scatter (fun p hp => ?_) (rule.takes_left hb hd)
  exact rule.takes_right (rule.holds_taken hs) hd _ (hcells _ (List.of_mem_zip hp).2)

theorem window (hi : Yields (windowGroups t spec) fun groups =>
      ∀ rows ∈ groups, Yields (inner (t.take rows)) (Holds has)) :
    Yields (Eval.window t spec inner) (Holds has) := by
  refine Yields.bind hi fun groups hg => ?_
  -- Nulls to begin with, one for each row, over which the partitions are written.
  have start : Holds takes ⟨"", .null, List.replicate t.height .null⟩ :=
    rule.holds_taken (rule.holds_nulls "" .null t.height)
  refine Yields.bind (P := Holds takes) (Yields.foldlM ?_ start) fun s hs => ?_
  · exact fun b hb rows hr => rule.fillPartition (hg rows hr) hb
  · exact Yields.after fun name _ => .ok (rule.holds_coerce hs)

/-! ## Rows -/

theorem project {series : List Series} (h : ∀ s ∈ series, s.Holds has) :
    Yields (Eval.project series) good :=
  Yields.bind (Yields.mapM fun s hs => (h s hs).broadcast _) fun _ => rule.ofColumns

theorem mask (ht : good t) (predicate : Series) : Yields (Eval.mask t predicate) good :=
  Yields.ite (fun _ => Yields.after fun _ _ => .ok (rule.take ht _)) fun _ => .error _

theorem sort (ht : good t) (fields : List (String × Bool)) : Yields (Eval.sort t fields) good :=
  Yields.after fun _ _ => .ok (rule.take ht _)

/-! ## Joins and concatenation -/

theorem leftColumn {spec : JoinSpec} {pairs : List RowPair} {c : Series} (hr : good right)
    (hc : c.Holds has) : Yields (Eval.leftColumn right spec pairs c) (Holds has) := by
  have hout := hc.takeOptional rule.null (pairs.map (·.1))
  simp only [Eval.leftColumn]
  split
  · exact .ok hout
  · refine Yields.bind (Table.mem_column.mono (rule.columns hr)) fun source hs => ?_
    have hother := hs.takeOptional rule.null (pairs.map (·.2))
    refine Yields.after fun d hd => .ok (rule.holds_coerce (forall_mem_orElse ?_ ?_))
    · exact rule.takes_left (rule.holds_taken hout) hd
    · exact rule.takes_right (rule.holds_taken hother) hd

theorem join (hl : good left) (hr : good right) (spec : JoinSpec) :
    Yields (Eval.join left right spec) good := by
  refine Yields.after fun _ _ => Yields.after fun leftKeys _ => Yields.after fun rightKeys _ => ?_
  refine Yields.after fun _ _ => ?_
  refine Yields.bind (Yields.mapM fun c hc => rule.leftColumn hr (rule.columns hl c hc)) fun lefts h => ?_
  refine rule.ofColumns (forall_mem_addRights h fun c hc name => ?_)
  exact (rule.columns hr c (List.mem_of_mem_filter hc)).takeOptional rule.null _

theorem stack {a b : Series} (ha : a.Holds has) (hb : b.Holds has) :
    Yields (Eval.stack a b) (Holds has) := by
  refine Yields.after fun d hd => .ok (rule.holds_coerce fun c hc => ?_)
  obtain hc | hc := List.mem_append.mp hc
  · exact rule.takes_left (rule.holds_taken ha) hd c hc
  · exact rule.takes_right (rule.holds_taken hb) hd c hc

theorem concat (hl : good left) (hr : good right) : Yields (Eval.concat left right) good := by
  refine Yields.ite (fun _ => .error _) fun _ => ?_
  refine Yields.bind (Yields.mapM fun p hp => ?_) fun _ => rule.ofColumns
  obtain ⟨h1, h2⟩ := List.of_mem_zip hp
  exact rule.stack (rule.columns hl _ h1) (rule.columns hr _ h2)

/-! ## Files -/

theorem parse (column : ∀ name override fields, (Csv.columnOf name override fields).Holds has)
    (path : String) (options : CsvOptions) (text : List Char) :
    Yields (Csv.parse path options text) good := by
  refine Yields.after fun p _ => ?_
  dsimp only
  split
  · exact .stop _ _
  · refine Yields.ite (fun _ => .stop _ _) fun _ => rule.ofColumns ?_
    exact forall_mem_zipWith fun i _ name _ => column name _ _

theorem read (column : ∀ name override fields, (Csv.columnOf name override fields).Holds has)
    (files : Files) (path : String) (options : CsvOptions) :
    Yields (Csv.read files path options) good := by
  unfold Csv.read
  refine Yields.ite (fun _ => .error _) fun _ => ?_
  split
  · exact .error _
  · split
    · exact .error _
    · exact rule.parse column path options _

end ColumnRule
end FramePlan
