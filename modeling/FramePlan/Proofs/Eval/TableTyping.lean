import FramePlan.Proofs.Eval.ColumnRules

/-!
# Types of computed tables

Tables made of well-formed tables are well formed, and so are those read from files: that cells are of their
types is a rule for columns (`typing`), where a column in the making takes the cells that have its type once
they are coerced.

Groups and windows evaluate something on parts of a table. It is taken as a function of tables that
gives fitting series on well-formed tables (`Fitting`).
-/
namespace FramePlan.Eval

open Table Series

variable {t : Table} {item inner : Table → Outcome Series}

theorem typing : ColumnRule CellHas Dtype.Takes WellFormed where
  null := has_null
  taken := Dtype.takes_of_has
  widen h hc := hc.widen h
  coerced h := h
  columns ht c hc := (ht.1 c hc).2
  ofColumns := wellFormed_ofColumns
  take ht rows := ht.take rows

/-- On a well-formed table the function gives series that fit it. -/
def Fitting (f : Table → Outcome Series) : Prop :=
  ∀ t, t.WellFormed → Yields (f t) (Fits t.height)

/-! ## Groups and windows -/

theorem Fitting.typed (hi : Fitting item) (ht : t.WellFormed) (rows : List Nat) :
    Yields (item (t.take rows)) SeriesTyped :=
  (hi _ (ht.take rows)).mono fun _ hs => hs.typed

theorem typed_aggregateGroups (hi : Fitting item) (ht : t.WellFormed) (groups : List (List Nat)) :
    Yields (aggregateGroups t groups item) SeriesTyped :=
  typing.aggregateGroups fun rows _ => hi.typed ht rows

theorem fits_window (hi : Fitting inner) (ht : t.WellFormed) (spec : WindowSpec) :
    Yields (window t spec inner) (Fits t.height) := by
  intro s hs
  refine ⟨typing.window (fun groups _ rows _ => ?_) s hs, .inr (length_window s hs)⟩
  exact hi.typed ht rows

/-! ## Sources -/

/-- The types that a file's column can have: that of a text is not a list. -/
theorem has_parseField {d : Dtype} (hd : d ≠ .listStr ∧ d ≠ .null) (field : List Char) :
    CellHas d (Csv.parseField d field) := by
  unfold Csv.parseField
  split
  · trivial
  cases d with
  | i64 => exact has_ofInt? _ (.inl rfl)
  | u32 => exact has_ofInt? _ (.inr rfl)
  | f64 => cases Binary64.ofChars? field with
    | none => trivial
    | some x => rfl
  | bool => exact has_truth (Csv.readBool? field)
  | str => rfl
  | listStr => exact absurd rfl hd.1
  | null => exact absurd rfl hd.2

theorem ofDataType_ne (t : DataType) : Dtype.ofDataType t ≠ .listStr ∧ Dtype.ofDataType t ≠ .null := by
  cases t <;> decide

theorem infer_ne (fields : List (List Char)) :
    Csv.infer fields ≠ .listStr ∧ Csv.infer fields ≠ .null := by
  simp only [Csv.infer]
  split_ifs <;> decide

theorem typed_columnOf (name : String) (override : Option DataType) (fields : List (List Char)) :
    SeriesTyped (Csv.columnOf name override fields) := by
  intro c hc
  obtain ⟨field, -, rfl⟩ := List.mem_map.mp hc
  refine has_parseField ?_ field
  cases override with
  | none => exact infer_ne fields
  | some t => exact ofDataType_ne t

theorem takes_valuesType {column : String} : ∀ {values : List Value} {a d : Dtype},
    valuesType column a values = .ok d →
      (∀ c, a.Takes c → d.Takes c) ∧ ∀ v ∈ values, d.Takes (Cell.ofValue v)
  | [], _, _, h => by
    cases h
    exact ⟨fun _ hc => hc, fun _ hv => absurd hv List.not_mem_nil⟩
  | v :: vs, a, d, h => by
    simp only [valuesType] at h
    split at h
    · rename_i u hu
      -- What the type so far takes, the type of the whole list takes.
      obtain ⟨hw, hvs⟩ := takes_valuesType h
      refine ⟨fun c hc => hw c (hc.widen hu), fun w hm => ?_⟩
      obtain rfl | hm := List.mem_cons.mp hm
      · exact hw _ ((Dtype.takes_of_has (has_ofValue w)).widen_right hu)
      · exact hvs w hm
    · cases h

theorem typed_ofValues (name : String) (values : List Value) :
    Yields (Series.ofValues name values) SeriesTyped := by
  refine Yields.after ?_
  intro d hd
  refine .ok (typed_coerce fun c hc => ?_)
  obtain ⟨v, hv, rfl⟩ := List.mem_map.mp hc
  exact (takes_valuesType hd).2 v hv

end FramePlan.Eval
