import FramePlan.Proofs.Outcome
import FramePlan.Table.Basic
import Mathlib.Tactic.SplitIfs

/-!
# Typed series and well-formed tables

What the building blocks of tables keep of types and lengths. A column of a wider type takes the
cells of a narrower one once they are coerced (`Dtype.Takes`), so cells may be gathered first and
coerced at the end: whatever two types are unified to takes the cells of both.

`Series.Fits n` is what evaluation is about: a typed series of one cell or of `n`, which can be
spread over a table of `n` rows.
-/
namespace FramePlan

open Table

/-! ## Cells -/

/-- A column of the type has the cell after coercion. -/
def Dtype.Takes (d : Dtype) (c : Cell) : Prop := CellHas d (coerceCell d c)

namespace Dtype

variable {a b d : Dtype} {c : Cell}

theorem takes_null : d.Takes .null := by cases d <;> trivial

theorem takes_int {i : Int64} : d.Takes (.int i) ↔ d.isNumeric = true := by
  cases d <;> simp [Takes, coerceCell, CellHas, isNumeric, isInteger]

theorem takes_float {x : Binary64} : d.Takes (.float x) ↔ d = .f64 := by
  cases d <;> simp [Takes, coerceCell, CellHas]

theorem takes_str {s : String} : d.Takes (.str s) ↔ d = .str := by
  cases d <;> simp [Takes, coerceCell, CellHas]

theorem takes_bool {t : Bool} : d.Takes (.bool t) ↔ d = .bool := by
  cases d <;> simp [Takes, coerceCell, CellHas]

theorem takes_list {items : List String} : d.Takes (.list items) ↔ d = .listStr := by
  cases d <;> simp [Takes, coerceCell, CellHas]

theorem takes_of_has (h : CellHas d c) : d.Takes c := by
  cases c with
  | null => exact takes_null
  | int i => exact takes_int.mpr (by obtain rfl | rfl := h <;> rfl)
  | float x => exact takes_float.mpr h
  | str s => exact takes_str.mpr h
  | bool t => exact takes_bool.mpr h
  | list items => exact takes_list.mpr h

theorem unify?_numeric (h : a.unify? b = some d) (ha : a.isNumeric = true) :
    d.isNumeric = true := by
  cases a <;> cases b <;> simp_all [unify?, isNumeric, isInteger]

/-- A type that is neither an integer type nor null is not widened. -/
theorem unify?_eq_left (h : a.unify? b = some d) (hi : a.isInteger = false) (hn : a ≠ .null) :
    d = a := by
  cases a <;> cases b <;> simp_all [unify?, isNumeric, isInteger]

theorem Takes.widen (h : a.unify? b = some d) (hc : a.Takes c) : d.Takes c := by
  -- An integer can go into a column of numbers; the type of any other cell is not widened.
  cases c with
  | null => exact takes_null
  | int i => exact takes_int.mpr (unify?_numeric h (takes_int.mp hc))
  | float x =>
    obtain rfl := takes_float.mp hc
    exact takes_float.mpr (unify?_eq_left h rfl (by decide))
  | str s =>
    obtain rfl := takes_str.mp hc
    exact takes_str.mpr (unify?_eq_left h rfl (by decide))
  | bool t =>
    obtain rfl := takes_bool.mp hc
    exact takes_bool.mpr (unify?_eq_left h rfl (by decide))
  | list items =>
    obtain rfl := takes_list.mp hc
    exact takes_list.mpr (unify?_eq_left h rfl (by decide))

theorem Takes.widen_right (h : a.unify? b = some d) (hc : b.Takes c) : d.Takes c :=
  hc.widen ((unify?_comm b a).trans h)

end Dtype

theorem unify_eq_ok {a b d : Dtype} : unify a b = .ok d ↔ a.unify? b = some d := by
  unfold unify
  cases a.unify? b <;> simp

theorem unify_null (d : Dtype) : unify .null d = .ok d := by cases d <;> rfl

theorem unify_self (d : Dtype) : unify d d = .ok d := by cases d <;> rfl

theorem coerceCell_of_has {d : Dtype} {c : Cell} (h : CellHas d c) : coerceCell d c = c := by
  cases c with
  | int i =>
    -- An integer is no cell of a column of numbers, the only one where it would change.
    obtain rfl | rfl := h <;> rfl
  | _ => cases d <;> rfl

theorem coerce_of_has {d : Dtype} {cells : List Cell} (h : ∀ c ∈ cells, CellHas d c) :
    coerce d cells = cells := by
  have hid : cells.map (coerceCell d) = cells.map id := by
    apply List.map_congr_left
    intro c hc
    exact coerceCell_of_has (h c hc)
  rw [coerce, hid, List.map_id]

theorem has_coerce {d : Dtype} {cells : List Cell} (h : ∀ c ∈ cells, d.Takes c) :
    ∀ c ∈ coerce d cells, CellHas d c := by
  intro c hc
  obtain ⟨b, hb, rfl⟩ := List.mem_map.mp hc
  exact h b hb

/-! ## Series -/

namespace Series

variable {s : Series} {n : Nat}

theorem cellAt_cases (s : Series) (row : Nat) : s.cellAt row = .null ∨ s.cellAt row ∈ s.cells := by
  unfold cellAt
  cases h : s.cells[row]? with
  | none => exact .inl rfl
  | some c => exact .inr (List.mem_of_getElem? h)

/-- All cells of the series are such as its type asks for. -/
def Holds (has : Dtype → Cell → Prop) (s : Series) : Prop := ∀ c ∈ s.cells, has s.dtype c

namespace Holds

variable {has : Dtype → Cell → Prop}

theorem cellAt (null : ∀ d, has d .null) (h : s.Holds has) (row : Nat) : has s.dtype (s.cellAt row) := by
  obtain h0 | hm := s.cellAt_cases row
  · rw [h0]
    exact null _
  · exact h _ hm

theorem take (null : ∀ d, has d .null) (h : s.Holds has) (rows : List Nat) : (s.take rows).Holds has := by
  intro c hc
  obtain ⟨row, -, rfl⟩ := List.mem_map.mp hc
  exact h.cellAt null row

theorem takeOptional (null : ∀ d, has d .null) (h : s.Holds has) (rows : List (Option Nat)) :
    (s.takeOptional rows).Holds has := by
  intro c hc
  obtain ⟨row, -, rfl⟩ := List.mem_map.mp hc
  cases row with
  | none => exact null _
  | some row => exact h.cellAt null row

end Holds

theorem has_null (d : Dtype) : CellHas d .null := trivial

theorem has_cellAt (h : SeriesTyped s) (row : Nat) : CellHas s.dtype (s.cellAt row) :=
  Holds.cellAt has_null h row

theorem typed_take (h : SeriesTyped s) (rows : List Nat) : SeriesTyped (s.take rows) :=
  Holds.take has_null h rows

theorem typed_coerce {name : String} {d : Dtype} {cells : List Cell} (h : ∀ c ∈ cells, d.Takes c) :
    SeriesTyped ⟨name, d, coerce d cells⟩ := has_coerce h

theorem length_take (s : Series) (rows : List Nat) : (s.take rows).length = rows.length :=
  List.length_map _

theorem broadcast_spec {full : Series} (h : s.broadcast n = .ok full) :
    full.name = s.name ∧ full.dtype = s.dtype ∧ full.length = n ∧ ∀ c ∈ full.cells, c ∈ s.cells := by
  unfold broadcast at h
  split_ifs at h with hn
  · cases h
    exact ⟨rfl, rfl, hn, fun c hc => hc⟩
  · split at h
    · rename_i cell hcell
      cases h
      refine ⟨rfl, rfl, List.length_replicate, fun c hc => ?_⟩
      rw [List.eq_of_mem_replicate hc, hcell]
      exact List.mem_singleton_self cell
    · cases h

theorem Holds.broadcast {has : Dtype → Cell → Prop} (h : s.Holds has) (n : Nat) :
    Yields (s.broadcast n) (Holds has) := by
  intro full hf
  obtain ⟨-, hd, -, hc⟩ := broadcast_spec hf
  intro c hm
  rw [hd]
  exact h c (hc c hm)

structure Fits (n : Nat) (s : Series) : Prop where
  typed : SeriesTyped s
  spread : s.length = 1 ∨ s.length = n

theorem Fits.scalar {name : String} {d : Dtype} {c : Cell} (h : CellHas d c) :
    (Series.scalar name d c).Fits n := by
  refine ⟨fun b hb => ?_, .inl rfl⟩
  rw [List.mem_singleton.mp hb]
  exact h

theorem Fits.renamed (h : s.Fits n) (name : String) : (s.renamed name).Fits n :=
  ⟨h.typed, h.spread⟩

theorem Fits.same {r : Series} (h : s.Fits n) (hl : r.length = s.length) (typed : SeriesTyped r) :
    r.Fits n :=
  ⟨typed, hl ▸ h.spread⟩

def Full (n : Nat) (s : Series) : Prop := SeriesTyped s ∧ s.length = n

theorem full_broadcast (h : SeriesTyped s) : Yields (s.broadcast n) (Full n) :=
  fun full hf => ⟨Holds.broadcast h n full hf, (broadcast_spec hf).2.2.1⟩

end Series

/-! ## Tables -/

namespace Table

variable {t : Table} {columns : List Series}

theorem firstFault?_eq_none {height : Nat} : ∀ {columns : List Series} {seen : List String},
    firstFault? height seen columns = none →
      (∀ c ∈ columns, c.length = height ∧ c.name ∉ seen) ∧ (columns.map (·.name)).Nodup
  | [], _, _ => ⟨by simp, List.nodup_nil⟩
  | c :: cs, seen, h => by
    simp only [firstFault?] at h
    split_ifs at h with hl hs
    obtain ⟨hcs, hnd⟩ := firstFault?_eq_none h
    refine ⟨?_, ?_⟩
    · intro d hd
      obtain rfl | hd := List.mem_cons.mp hd
      · exact ⟨not_not.mp hl, hs⟩
      · -- The names seen at `d` include those seen at `c`.
        exact ⟨(hcs d hd).1, fun hm => (hcs d hd).2 (List.mem_cons_of_mem _ hm)⟩
    · rw [List.map_cons, List.nodup_cons]
      refine ⟨fun hm => ?_, hnd⟩
      obtain ⟨d, hd, hn⟩ := List.mem_map.mp hm
      exact (hcs d hd).2 (hn ▸ List.mem_cons_self)

theorem firstFault?_of_level {height : Nat} : ∀ {columns : List Series} {seen : List String},
    (∀ c ∈ columns, c.length = height ∧ c.name ∉ seen) → (columns.map (·.name)).Nodup →
      firstFault? height seen columns = none
  | [], _, _, _ => rfl
  | c :: cs, seen, h, hnd => by
    obtain ⟨⟨hl, hs⟩, hcs⟩ := List.forall_mem_cons.mp h
    rw [List.map_cons, List.nodup_cons] at hnd
    have hfresh : ∀ d ∈ cs, d.length = height ∧ d.name ∉ c.name :: seen := by
      intro d hd
      refine ⟨(hcs d hd).1, fun hm => ?_⟩
      obtain hn | hm := List.mem_cons.mp hm
      · exact hnd.1 (List.mem_map.mpr ⟨d, hd, hn⟩)
      · exact (hcs d hd).2 hm
    rw [firstFault?, if_neg (not_not.mpr hl), if_neg hs]
    exact firstFault?_of_level hfresh hnd.2

def heightOf (columns : List Series) : Nat := (columns.head?.map Series.length).getD 0

theorem ofColumns_eq (columns : List Series) : ofColumns columns =
    match firstFault? (heightOf columns) [] columns with
    | some fault => .error fault
    | none => .ok ⟨columns, heightOf columns⟩ := rfl

theorem heightOf_of_level {n : Nat} (hne : columns ≠ []) (level : ∀ c ∈ columns, c.length = n) :
    heightOf columns = n := by
  cases columns with
  | nil => exact absurd rfl hne
  | cons c cs => exact level c List.mem_cons_self

theorem ofColumns_of_level {n : Nat} (level : ∀ c ∈ columns, c.length = n)
    (distinct : (columns.map (·.name)).Nodup) :
    ofColumns columns = .ok ⟨columns, heightOf columns⟩ := by
  have hlevel : ∀ c ∈ columns, c.length = heightOf columns ∧ c.name ∉ ([] : List String) := by
    intro c hc
    rw [heightOf_of_level (List.ne_nil_of_mem hc) level]
    exact ⟨level c hc, List.not_mem_nil⟩
  have hnone : firstFault? (heightOf columns) [] columns = none := firstFault?_of_level hlevel distinct
  rw [ofColumns_eq, hnone]

theorem ofColumns_spec : Yields (ofColumns columns) fun t => t.columns = columns ∧
    (∀ c ∈ columns, c.length = t.height) ∧ t.names.Nodup := by
  intro t h
  unfold ofColumns at h
  dsimp only at h
  split at h
  · cases h
  · rename_i hnone
    cases h
    obtain ⟨hcs, hnd⟩ := firstFault?_eq_none hnone
    exact ⟨rfl, fun c hc => (hcs c hc).1, hnd⟩

theorem wellFormed_ofColumns (typed : ∀ c ∈ columns, SeriesTyped c) :
    Yields (ofColumns columns) WellFormed := by
  refine ofColumns_spec.mono ?_
  rintro t ⟨rfl, heights, names⟩
  exact ⟨fun c hc => ⟨heights c hc, typed c hc⟩, names⟩

theorem wellFormed_unit : WellFormed unit := ⟨fun _ hc => absurd hc List.not_mem_nil, List.nodup_nil⟩

theorem WellFormed.fits (h : t.WellFormed) {s : Series} (hs : s ∈ t.columns) : s.Fits t.height :=
  ⟨(h.1 s hs).2, .inr (h.1 s hs).1⟩

theorem mem_column {name : String} : Yields (t.column name) (· ∈ t.columns) := by
  intro s h
  unfold column at h
  split at h
  · rename_i hf
    cases h
    exact List.mem_of_find?_eq_some hf
  · split at h
    · rename_i hf
      cases h
      exact List.mem_of_find?_eq_some hf
    · cases h

theorem WellFormed.column (h : t.WellFormed) (name : String) :
    Yields (t.column name) (Series.Fits t.height) :=
  mem_column.mono fun _ hs => h.fits hs

theorem WellFormed.take (h : t.WellFormed) (rows : List Nat) : (t.take rows).WellFormed := by
  refine ⟨?_, ?_⟩
  · intro c hc
    obtain ⟨s, hs, rfl⟩ := List.mem_map.mp hc
    exact ⟨s.length_take rows, Series.typed_take (h.1 s hs).2 rows⟩
  · have hn : (t.take rows).names = t.names := by simp [names, Table.take, Series.take]
    rw [hn]
    exact h.2

theorem WellFormed.truncate (h : t.WellFormed) (n : Nat) : (t.truncate n).WellFormed := h.take _

theorem mem_upsertColumn {s c : Series} : ∀ {columns : List Series},
    c ∈ upsertColumn columns s → c = s ∨ c ∈ columns
  | [], h => .inl (List.mem_singleton.mp h)
  | d :: ds, h => by
    simp only [upsertColumn] at h
    split_ifs at h with hd
    · exact (List.mem_cons.mp h).imp id (List.mem_cons_of_mem d)
    · obtain rfl | hm := List.mem_cons.mp h
      · exact .inr List.mem_cons_self
      · exact (mem_upsertColumn hm).imp id (List.mem_cons_of_mem d)

theorem nodup_upsertColumn (s : Series) : ∀ {columns : List Series},
    (columns.map (·.name)).Nodup → ((upsertColumn columns s).map (·.name)).Nodup
  | [], _ => by simp [upsertColumn]
  | d :: ds, h => by
    rw [List.map_cons, List.nodup_cons] at h
    simp only [upsertColumn]
    split_ifs with hd
    · rw [List.map_cons, List.nodup_cons, ← hd]
      exact h
    · rw [List.map_cons, List.nodup_cons]
      refine ⟨fun hm => ?_, nodup_upsertColumn s h.2⟩
      obtain ⟨c, hc, hn⟩ := List.mem_map.mp hm
      obtain rfl | hc := mem_upsertColumn hc
      · exact hd hn.symm
      · exact h.1 (List.mem_map.mpr ⟨c, hc, hn⟩)

theorem WellFormed.upsert (h : t.WellFormed) {s : Series} (hs : SeriesTyped s) :
    Yields (t.upsert s) fun u => u.WellFormed ∧ u.height = t.height := by
  refine Yields.bind (Series.full_broadcast hs) ?_
  intro full hf
  refine Yields.ok ⟨⟨?_, ?_⟩, rfl⟩
  · intro c hc
    obtain rfl | hc := mem_upsertColumn hc
    · exact ⟨hf.2, hf.1⟩
    · exact h.1 c hc
  · exact nodup_upsertColumn full h.2

end Table
end FramePlan
