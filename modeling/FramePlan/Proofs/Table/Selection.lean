import FramePlan.Proofs.Table.Typing
import Mathlib.Data.List.Nodup
import Mathlib.Data.List.Perm.Basic

/-!
# Selected and spread rows

Taking rows of a table takes them of each column, and leaves its names and types alone, so a column
is looked up in the taken rows as in the table (`column_take`).

Rows that are taken twice are taken once, at the places of the second selection in the first
(`pickRows`, `take_take`). To rearrange rows or cells is to take them at all places, in some order
(`exists_pickRows_of_perm`, `exists_take_of_perm`).

A series of one cell goes with any number of rows. `Series.spreadAt` is the cell that it has at a row
then, and `Series.spread` the whole series spread over `n` rows. This is what `broadcast` gives
wherever it gives something (`broadcast_eq`), and what two operands are brought to.
-/
namespace FramePlan

open Table

/-! ## Rows of rows -/

/-- The rows that stand at the given places of a list of rows. -/
def pickRows (rows places : List Nat) : List Nat := places.map fun i => (rows[i]?).getD 0

section

variable {rows places : List Nat}

@[simp] theorem length_pickRows (rows places : List Nat) :
    (pickRows rows places).length = places.length :=
  List.length_map _

theorem pickRows_range (rows : List Nat) : pickRows rows (List.range rows.length) = rows := by
  apply List.ext_getElem
  · simp
  · intro i hi _
    have hi : i < rows.length := by simpa using hi
    simp [pickRows, hi]

/-- The places of the rows of a kind give the rows of that kind. -/
theorem pickRows_filter (rows : List Nat) (f : Nat → Bool) :
    pickRows rows ((List.range rows.length).filter fun i => f ((rows[i]?).getD 0)) = rows.filter f := by
  have hall : (pickRows rows (List.range rows.length)).filter f = rows.filter f := by
    rw [pickRows_range]
  rw [← hall, pickRows, pickRows, List.filter_map]
  rfl

end

theorem lt_of_perm_range {rows : List Nat} {n i : Nat} (h : rows.Perm (List.range n)) (hi : i ∈ rows) :
    i < n :=
  List.mem_range.mp (h.mem_iff.mp hi)

/-- The image of a list in another order is the image of the list in another order. -/
theorem exists_map_of_perm {α β : Type} {f : α → β} {xs : List α} {ys : List β}
    (h : ys.Perm (xs.map f)) : ∃ xs' : List α, xs'.Perm xs ∧ xs'.map f = ys := by
  have himage : List.Forall₂ (fun x y => f x = y) xs (xs.map f) := by
    rw [List.forall₂_map_right_iff, List.forall₂_same]
    exact fun _ _ => rfl
  have hcomp : Relation.Comp (List.Forall₂ fun x y => f x = y) List.Perm xs ys :=
    ⟨xs.map f, himage, h.symm⟩
  rw [List.forall₂_comp_perm_eq_perm_comp_forall₂] at hcomp
  obtain ⟨xs', hperm, himage⟩ := hcomp
  rw [← List.forall₂_map_left_iff, List.forall₂_eq_eq_eq] at himage
  exact ⟨xs', hperm.symm, himage⟩

/-- Rows in another order stand at all places, in some order. -/
theorem exists_pickRows_of_perm {rows rows' : List Nat} (h : rows'.Perm rows) :
    ∃ places, places.Perm (List.range rows.length) ∧ pickRows rows places = rows' := by
  rw [← pickRows_range rows] at h
  exact exists_map_of_perm h

namespace Series

variable {s : Series} {rows places : List Nat} {n i : Nat}

theorem cellAt_take (s : Series) (h : i < rows.length) : (s.take rows).cellAt i = s.cellAt rows[i] := by
  simp [cellAt, take, List.getElem?_eq_getElem h]

theorem take_take (s : Series) (h : ∀ i ∈ places, i < rows.length) :
    (s.take rows).take places = s.take (pickRows rows places) := by
  have hcells : places.map (s.take rows).cellAt = (pickRows rows places).map s.cellAt := by
    rw [pickRows, List.map_map]
    apply List.map_congr_left
    intro i hi
    have hlt : i < rows.length := h i hi
    rw [cellAt_take s hlt, Function.comp_apply, List.getElem?_eq_getElem hlt, Option.getD_some]
  rw [take, hcells]
  rfl

theorem cells_eq_map_cellAt (s : Series) : s.cells = (List.range s.length).map s.cellAt := by
  apply List.ext_getElem
  · simp [length]
  · intro i hi _
    simp [cellAt, List.getElem?_eq_getElem hi]

theorem exists_take_of_perm {cells : List Cell} (h : cells.Perm s.cells) :
    ∃ rows, rows.Perm (List.range s.length) ∧ (s.take rows).cells = cells := by
  rw [s.cells_eq_map_cellAt] at h
  exact exists_map_of_perm h

theorem cells_take_perm (h : rows.Perm (List.range s.length)) : (s.take rows).cells.Perm s.cells := by
  have hcells : (s.take rows).cells.Perm ((List.range s.length).map s.cellAt) := h.map s.cellAt
  rwa [← s.cells_eq_map_cellAt] at hcells

/-! ## Spreading -/

/-- The cell at a row of the series, where its only cell stands in every row. -/
def spreadAt (s : Series) (i : Nat) : Cell := if s.length = 1 then s.cellAt 0 else s.cellAt i

/-- The series spread over `n` rows. -/
def spread (s : Series) (n : Nat) : Series := { s with cells := (List.range n).map s.spreadAt }

@[simp] theorem spread_dtype (s : Series) (n : Nat) : (s.spread n).dtype = s.dtype := rfl

theorem spreadAt_of_lt (h : i < s.length) : s.spreadAt i = s.cellAt i := by
  unfold spreadAt
  split
  · have h0 : i = 0 := by omega
    rw [h0]
  · rfl

theorem spreadAt_of_single (h : s.length = 1) (i : Nat) : s.spreadAt i = s.cellAt 0 := if_pos h

theorem has_spreadAt (h : SeriesTyped s) (i : Nat) : CellHas s.dtype (s.spreadAt i) := by
  unfold spreadAt
  split <;> exact has_cellAt h _

theorem spreadAt_map {name : String} {d : Dtype} (f : Cell → Cell) (h : s.length = 1 ∨ s.length = n)
    (hi : i < n) : (⟨name, d, s.cells.map f⟩ : Series).spreadAt i = f (s.spreadAt i) := by
  have hlen : (⟨name, d, s.cells.map f⟩ : Series).length = s.length := List.length_map _
  have hcell {j : Nat} (hj : j < s.length) :
      (⟨name, d, s.cells.map f⟩ : Series).cellAt j = f (s.cellAt j) := by
    have hj : j < s.cells.length := hj
    simp [cellAt, List.getElem?_eq_getElem hj]
  obtain h1 | hn := h
  · have h0 : 0 < s.length := by omega
    rw [spreadAt_of_single (hlen.trans h1), spreadAt_of_single h1, hcell h0]
  · have hi : i < s.length := by omega
    rw [spreadAt_of_lt (hlen.symm ▸ hi), spreadAt_of_lt hi, hcell hi]

theorem spread_length (s : Series) : s.spread s.length = s := by
  have hcells : (List.range s.length).map s.spreadAt = s.cells := by
    rw [s.cells_eq_map_cellAt]
    apply List.map_congr_left
    intro i hi
    exact spreadAt_of_lt (List.mem_range.mp hi)
  rw [spread, hcells]

theorem broadcast_eq (h : s.length = 1 ∨ s.length = n) : s.broadcast n = .ok (s.spread n) := by
  unfold broadcast
  by_cases hn : s.length = n
  · rw [if_pos hn, ← hn, spread_length]
  · rw [if_neg hn]
    have h1 : s.length = 1 := h.resolve_right hn
    obtain ⟨c, hc⟩ := List.length_eq_one_iff.mp h1
    have hrep : (List.range n).map s.spreadAt = List.replicate n c := by
      rw [List.eq_replicate_iff]
      refine ⟨by simp, ?_⟩
      intro b hb
      obtain ⟨i, -, rfl⟩ := List.mem_map.mp hb
      rw [spreadAt, if_pos h1, cellAt, hc]
      rfl
    rw [hc, spread, hrep]

theorem length_of_broadcast {full : Series} (h : s.broadcast n = .ok full) :
    s.length = 1 ∨ s.length = n := by
  unfold broadcast at h
  split at h
  · exact .inr ‹_›
  · split at h
    · rename_i cell hcell
      exact .inl (congrArg List.length hcell)
    · cases h

theorem cellAt_spread (s : Series) (h : i < n) : (s.spread n).cellAt i = s.spreadAt i := by
  simp [cellAt, spread, List.getElem?_range h]

end Series

/-! ## Tables -/

namespace Table

variable {t : Table} {name : String}

@[simp] theorem names_take (t : Table) (rows : List Nat) : (t.take rows).names = t.names := by
  simp [names, take, Series.take]

@[simp] theorem height_take (t : Table) (rows : List Nat) : (t.take rows).height = rows.length := rfl

theorem take_take {rows places : List Nat} (t : Table) (h : ∀ i ∈ places, i < rows.length) :
    (t.take rows).take places = t.take (pickRows rows places) := by
  have hcolumns : (t.columns.map (·.take rows)).map (·.take places) =
      t.columns.map (·.take (pickRows rows places)) := by
    rw [List.map_map]
    apply List.map_congr_left
    intro s _
    exact s.take_take h
  simp only [take, hcolumns, length_pickRows]

/-- What is found under a name among things that have one: the first of just that name, or the first
    one whose name differs only in the case of ASCII letters. -/
def findNamed {α : Type} (nameOf : α → String) (xs : List α) (name : String) : Outcome α :=
  match xs.find? (fun x => nameOf x == name) with
  | some x => .ok x
  | none =>
    match xs.find? (fun x => Text.eqIgnoringAsciiCase (nameOf x) name) with
    | some x => .ok x
    | none => .error (.columnMissing name)

theorem column_eq (t : Table) (name : String) :
    t.column name = findNamed Series.name t.columns name := by
  unfold column findNamed
  cases t.columns.find? (fun c => c.name == name) with
  | some c => rfl
  | none => cases t.columns.find? (fun c => Text.eqIgnoringAsciiCase c.name name) <;> rfl

/-- What keeps names keeps what is found under them. -/
theorem findNamed_map {α β : Type} {nameOf : α → String} {nameOf' : β → String} {f : α → β}
    (h : ∀ x, nameOf' (f x) = nameOf x) (xs : List α) (name : String) :
    findNamed nameOf' (xs.map f) name = (findNamed nameOf xs name).map f := by
  have hfind (p : String → Bool) : (xs.map f).find? (fun y => p (nameOf' y)) =
      (xs.find? fun x => p (nameOf x)).map f := by
    rw [List.find?_map]
    simp only [Function.comp_def, h]
  unfold findNamed
  rw [hfind (· == name), hfind (Text.eqIgnoringAsciiCase · name)]
  cases xs.find? (fun x => nameOf x == name) with
  | some x => rfl
  | none => cases xs.find? (fun x => Text.eqIgnoringAsciiCase (nameOf x) name) <;> rfl

theorem column_take (t : Table) (rows : List Nat) (name : String) :
    (t.take rows).column name = (t.column name).map (·.take rows) := by
  rw [column_eq, column_eq]
  exact findNamed_map (fun _ => rfl) t.columns name

theorem mapM_column_take {names : List String} {columns : List Series}
    (h : names.mapM t.column = .ok columns) (rows : List Nat) :
    names.mapM (t.take rows).column = .ok (columns.map (·.take rows)) := by
  rw [mapM_eq_ok, List.forall₂_map_right_iff]
  refine (mapM_eq_ok.mp h).imp ?_
  intro name c hc
  rw [column_take, hc]
  rfl

theorem exists_column (h : name ∈ t.names) :
    ∃ c ∈ t.columns, t.column name = .ok c ∧ c.name = name := by
  obtain ⟨c, hc, hn⟩ := List.mem_map.mp h
  have hsome : (t.columns.find? fun c => c.name == name).isSome = true := by
    rw [List.find?_isSome]
    exact ⟨c, hc, beq_iff_eq.mpr hn⟩
  obtain ⟨d, hd⟩ := Option.isSome_iff_exists.mp hsome
  have hcol : t.column name = .ok d := by rw [column, hd]
  have hname : (d.name == name) = true :=
    List.find?_some (p := fun c : Series => c.name == name) hd
  exact ⟨d, mem_column d hcol, hcol, beq_iff_eq.mp hname⟩

theorem column_of_distinct (distinct : t.names.Nodup) {c : Series} (hc : c ∈ t.columns) :
    t.column c.name = .ok c := by
  obtain ⟨d, hd, hcol, hname⟩ := exists_column (t := t) (List.mem_map_of_mem (f := (·.name)) hc)
  obtain rfl : d = c := List.inj_on_of_nodup_map distinct hd hc hname
  exact hcol

theorem name_column (h : name ∈ t.names) : Yields (t.column name) fun s => s.name = name := by
  intro s hs
  obtain ⟨c, -, hc, hn⟩ := exists_column h
  rw [hs] at hc
  cases hc
  exact hn

end Table
end FramePlan
