import FramePlan.Proofs.Eval.Counts
import FramePlan.Proofs.Eval.TableTyping

/-!
# Tables of counts

Tables whose columns of counts hold counts are made of such tables: that cells are counts is a rule for
columns (`counting`). Columns that collect cells of several series widen their type on the way, and a type
that has become that of counts was that of counts or none before, so what was collected until then are
counts too.
-/
namespace FramePlan

open Series

namespace Table

variable {t : Table} {columns : List Series}

def Counted (t : Table) : Prop := ∀ c ∈ t.columns, c.Counted

theorem counted_ofColumns (h : ∀ c ∈ columns, c.Counted) : Yields (ofColumns columns) Counted := by
  refine ofColumns_spec.mono ?_
  rintro t ⟨rfl, -, -⟩
  exact h

theorem counted_unit : unit.Counted := fun _ hc => absurd hc List.not_mem_nil

theorem Counted.column (h : t.Counted) (name : String) : Yields (t.column name) Series.Counted :=
  mem_column.mono h

theorem Counted.take (h : t.Counted) (rows : List Nat) : (t.take rows).Counted := by
  intro c hc
  obtain ⟨s, hs, rfl⟩ := List.mem_map.mp hc
  exact (h s hs).take rows

theorem Counted.upsert (h : t.Counted) {s : Series} (hs : s.Counted) : Yields (t.upsert s) Counted := by
  refine Yields.bind (hs.broadcast _) fun full hf => .ok fun c hc => ?_
  obtain rfl | hc := mem_upsertColumn hc
  · exact hf
  · exact h c hc

end Table

namespace Eval

theorem counting : ColumnRule Dtype.Admits Dtype.Admits Table.Counted where
  null _ := Dtype.admits_null
  taken h := h
  widen h hc := hc.widen h
  coerced h := h.coerced
  columns ht := ht
  ofColumns := Table.counted_ofColumns
  take ht rows := ht.take rows

/-! ## Sources -/

theorem counted_columnOf (name : String) (override : Option DataType) (fields : List (List Char)) :
    (Csv.columnOf name override fields).Counted := by
  cases override with
  | some type => exact counted_of_ne (ofDataType_ne_counts type).1 (ofDataType_ne_counts type).2
  | none =>
    refine counted_of_ne ?_ (infer_ne fields).2
    simp only [Option.map_none, Option.getD_none, Csv.infer]
    split_ifs <;> decide

/-- The type of in-memory values is that of counts only if one starts from it, and none only if one
    starts from none and all values are null. -/
theorem valuesType_counts {column : String} : ∀ {values : List Value} {a d : Dtype},
    valuesType column a values = .ok d →
      (d = .u32 → a = .u32) ∧ (d = .null → a = .null ∧ ∀ v ∈ values, v = .null)
  | [], _, _, h => by
    cases h
    exact ⟨id, fun hd => ⟨hd, fun _ hv => absurd hv List.not_mem_nil⟩⟩
  | v :: vs, a, d, h => by
    simp only [valuesType] at h
    split at h
    · rename_i u hu
      obtain ⟨hcounts, hnone⟩ := valuesType_counts h
      refine ⟨fun hd => ?_, fun hd => ?_⟩
      · obtain rfl := hcounts hd
        obtain rfl | rfl := (Dtype.unify?_counts hu).1 rfl
        · rfl
        · cases v <;> cases hu
      · obtain ⟨rfl, hvs⟩ := hnone hd
        obtain rfl := (Dtype.unify?_counts hu).2 rfl
        cases v with
        | null => exact ⟨rfl, List.forall_mem_cons.mpr ⟨rfl, hvs⟩⟩
        | _ => cases hu
    · cases h

theorem counted_ofValues (name : String) (values : List Value) :
    Yields (Series.ofValues name values) Series.Counted := by
  refine Yields.after fun d hd => .ok (counted_coerce fun c hc => ?_)
  obtain ⟨v, hv, rfl⟩ := List.mem_map.mp hc
  obtain ⟨hcounts, hnone⟩ := valuesType_counts hd
  cases d with
  | u32 => exact absurd (hcounts rfl) (by decide)
  | null =>
    rw [(hnone rfl).2 v hv]
    rfl
  | _ => trivial

end Eval
end FramePlan
