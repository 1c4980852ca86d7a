import FramePlan.Proofs.Table.Delimited

/-!
# Types of delimited columns

The type of a column is found by trying types in turn on its non-empty fields (`inferred_iff`), and its cells
are made by another function. The two agree on what can be read: the cell of a field is null only if the type
does not read it (`parseField_eq`), and an inferred type reads every field (`Inferred.reads`). So a column
without a given type has a null for each empty field and for no other (`lossless_columnOf`).
-/
namespace FramePlan.Csv

variable {path : String} {options : CsvOptions} {fields : Fields} {field : List Char} {d : Dtype} {t : Table}

/-! ## What a type reads -/

/-- The types that a column may be given, in the order they are tried. -/
def types : List Dtype := [.i64, .f64, .bool, .str]

/-- What a field says in a column of one of these types. -/
def readAs? (d : Dtype) (field : List Char) : Option Cell :=
  match d with
  | .i64 => (Integer.ofChars? field).map .int
  | .f64 => (Binary64.ofChars? field).map .float
  | .bool => (readBool? field).map .bool
  | _ => some (.str (String.ofList field))

theorem readAs?_ne_null {c : Cell} (h : readAs? d field = some c) : c ≠ .null := by
  rintro rfl
  cases d <;> simp [readAs?] at h

/-- The type reads every field that is not empty. -/
def ReadsAll (d : Dtype) (fields : Fields) : Prop :=
  ∀ field ∈ fields, field ≠ [] → (readAs? d field).isSome = true

theorem readsAll_str : ReadsAll .str fields := fun _ _ _ => rfl

/-- **The cell of a field is what the type reads.** -/
theorem parseField_eq (hd : d ∈ types) (hfield : field ≠ []) :
    parseField d field = (readAs? d field).getD .null := by
  have hne : field.isEmpty = false := List.isEmpty_eq_false_iff.mpr hfield
  simp only [types, List.mem_cons, List.not_mem_nil, or_false] at hd
  rcases hd with rfl | rfl | rfl | rfl <;>
    simp only [parseField, hne, Bool.false_eq_true, if_false] <;> rfl

/-! ## The type that is inferred -/

/-- Text for a column of empty fields, and else the first type that reads all that are not empty. -/
inductive Inferred (fields : Fields) : Dtype → Prop where
  | blank (h : ∀ field ∈ fields, field = []) : Inferred fields .str
  | first {d : Dtype} {before after : List Dtype} (filled : ∃ field ∈ fields, field ≠ [])
      (order : types = before ++ d :: after) (fits : ReadsAll d fields)
      (earlier : ∀ e ∈ before, ¬ ReadsAll e fields) : Inferred fields d

def present (fields : Fields) : Fields := fields.filter (!·.isEmpty)

theorem mem_present : field ∈ present fields ↔ field ∈ fields ∧ field ≠ [] := by
  simp [present]

theorem all_present : ((present fields).all fun f => (readAs? d f).isSome) = true ↔ ReadsAll d fields := by
  rw [List.all_eq_true]
  constructor
  · intro h f hf hne
    exact h f (mem_present.mpr ⟨hf, hne⟩)
  · intro h f hf
    obtain ⟨hf, hne⟩ := mem_present.mp hf
    exact h f hf hne

theorem present_isEmpty : (present fields).isEmpty = true ↔ ∀ field ∈ fields, field = [] := by
  rw [List.isEmpty_iff, present, List.filter_eq_nil_iff]
  simp

/-- The first type that reads all fields that are not empty. -/
def firstFit? (fields : Fields) : Option Dtype :=
  types.find? fun d => (present fields).all fun f => (readAs? d f).isSome

theorem firstFit?_eq_some : firstFit? fields = some d ↔ ReadsAll d fields ∧
    ∃ before after, types = before ++ d :: after ∧ ∀ e ∈ before, ¬ ReadsAll e fields := by
  rw [firstFit?, List.find?_eq_some_iff_append, all_present]
  simp only [Bool.not_eq_true', ← Bool.not_eq_true, all_present]

/-- Text reads every field, so some type does. -/
theorem exists_firstFit? (fields : Fields) : ∃ d, firstFit? fields = some d :=
  Option.isSome_iff_exists.mp (List.find?_isSome.mpr ⟨.str, by decide, all_present.mpr readsAll_str⟩)

theorem infer_eq (fields : Fields) : infer fields =
    if (present fields).isEmpty then .str else (firstFit? fields).getD .str := by
  have htry : ∀ p, (types.find? p).getD .str =
      if p .i64 then .i64 else if p .f64 then .f64 else if p .bool then .bool else .str := by
    intro p
    cases hi : p .i64 <;> cases hf : p .f64 <;> cases hb : p .bool <;> simp [types, List.find?, hi, hf, hb]
    cases p .str <;> rfl
  rw [firstFit?, htry]
  simp only [infer, present, readAs?, Option.isSome_map]

/-- **The first type that fits is inferred.** -/
theorem inferred_iff : Inferred fields d ↔ infer fields = d := by
  rw [infer_eq]
  constructor
  · intro h
    cases h with
    | blank h => rw [if_pos (present_isEmpty.mpr h)]
    | @first _ before after filled order fits earlier =>
      obtain ⟨f, hf, hne⟩ := filled
      have hfirst : firstFit? fields = some d := firstFit?_eq_some.mpr ⟨fits, before, after, order, earlier⟩
      rw [if_neg fun h => hne (present_isEmpty.mp h f hf), hfirst, Option.getD_some]
  · rintro rfl
    by_cases hblank : (present fields).isEmpty = true
    · rw [if_pos hblank]
      exact .blank (present_isEmpty.mp hblank)
    · obtain ⟨d, hfirst⟩ := exists_firstFit? fields
      obtain ⟨fits, before, after, order, earlier⟩ := firstFit?_eq_some.mp hfirst
      rw [if_neg hblank, hfirst, Option.getD_some]
      rw [present_isEmpty] at hblank
      push Not at hblank
      exact .first hblank order fits earlier

theorem Inferred.mem_types (h : Inferred fields d) : d ∈ types := by
  cases h with
  | blank => decide
  | first _ order _ _ =>
    rw [order]
    exact List.mem_append_right _ List.mem_cons_self

theorem Inferred.reads (h : Inferred fields d) : ReadsAll d fields := by
  cases h with
  | blank => exact readsAll_str
  | first _ _ fits _ => exact fits

/-! ## Columns -/

/-- A column says what its fields say: its type is the one that is inferred, and its cells are null where a
    field is empty and nowhere else. -/
structure Lossless (fields : Fields) (c : Series) : Prop where
  inferred : Inferred fields c.dtype
  cells : List.Forall₂ (fun field cell => (cell = .null ↔ field = []) ∧
    (field ≠ [] → readAs? c.dtype field = some cell)) fields c.cells

/-- Where a type reads all fields, only the empty ones are null. -/
theorem forall₂_parseField (hd : d ∈ types) (h : ReadsAll d fields) :
    List.Forall₂ (fun field cell => (cell = .null ↔ field = []) ∧
      (field ≠ [] → readAs? d field = some cell)) fields (fields.map (parseField d)) := by
  rw [List.forall₂_map_right_iff, List.forall₂_same]
  intro f hf
  by_cases hne : f = []
  · subst hne
    exact ⟨iff_of_true rfl rfl, fun h => absurd rfl h⟩
  · obtain ⟨c, hc⟩ := Option.isSome_iff_exists.mp (h f hf hne)
    rw [parseField_eq hd hne, hc, Option.getD_some]
    exact ⟨iff_of_false (readAs?_ne_null hc) hne, fun _ => rfl⟩

theorem lossless_columnOf (name : String) (fields : Fields) : Lossless fields (columnOf name none fields) :=
  have inferred : Inferred fields (infer fields) := inferred_iff.mpr rfl
  ⟨inferred, forall₂_parseField inferred.mem_types inferred.reads⟩

theorem forall₂_fieldsAt {records : List Fields} {width j : Nat} (h : ∀ r ∈ records, r.length = width)
    (hj : j < width) : List.Forall₂ (fun r field => r[j]? = some field) records (fieldsAt records j) := by
  rw [fieldsAt, List.forall₂_map_right_iff, List.forall₂_same]
  intro r hr
  rw [List.getElem?_eq_getElem (h r hr ▸ hj), Option.getD_some]

/-- A text that is read without given types keeps what its fields say, in every column. -/
theorem inference_lossless {files : Files} (untyped : options.dtypes.getD [] = [])
    (hread : read files path options = .ok t) :
    ∃ bytes text names records, files.lookup path = some bytes ∧ Text.Utf8.decode? bytes = some text ∧
      header options.hasHeader (recordsOf options.delimiter text.toList) = .ok (names, records) ∧
      t.names = names ∧
      ∀ j c, t.columns[j]? = some c →
        List.Forall₂ (fun r field => r[j]? = some field) records (fieldsAt records j) ∧
          Lossless (fieldsAt records j) c := by
  obtain ⟨-, bytes, text, hbytes, htext, hparse⟩ := read_eq_ok.mp hread
  obtain ⟨names, records, hheader, wide, -, htable⟩ := parse_eq_ok.mp hparse
  rw [untyped] at htable
  have hcolumns : t.columns = columnsOf names [] records := (Table.ofColumns_spec t htable).1
  refine ⟨bytes, text, names, records, hbytes, htext, hheader, ?_, ?_⟩
  · rw [Table.names, hcolumns, names_columnsOf]
  · intro j c hc
    rw [hcolumns, getElem?_columnsOf] at hc
    obtain ⟨name, hname, rfl⟩ := Option.map_eq_some_iff.mp hc
    exact ⟨forall₂_fieldsAt wide (List.getElem?_eq_some_iff.mp hname).1, lossless_columnOf name _⟩

/-- What is in stock, and a line of two empty fields. -/
def stock : Files := saved "stock.csv" ["n", "ok"] [["7", "true"], ["", ""]]

/-- A column of integers and one of truth values, each with a null for the empty field. -/
theorem inference_lossless_stock :
    read stock "stock.csv" ⟨44, true, none⟩ =
      .ok ⟨[⟨"n", .i64, [.int 7, .null]⟩, ⟨"ok", .bool, [.bool true, .null]⟩], 2⟩ ∧
    Lossless ["7".toList, []] ⟨"n", .i64, [.int 7, .null]⟩ ∧
    Lossless ["true".toList, []] ⟨"ok", .bool, [.bool true, .null]⟩ := by
  have hread : read stock "stock.csv" ⟨44, true, none⟩ =
      .ok ⟨[⟨"n", .i64, [.int 7, .null]⟩, ⟨"ok", .bool, [.bool true, .null]⟩], 2⟩ := by
    decide +kernel
  obtain ⟨_, text, names, records, hbytes, htext, hheader, -, hcolumns⟩ :=
    inference_lossless rfl hread
  cases lookup_saved.symm.trans hbytes
  cases (Text.Utf8.decode?_encode _).symm.trans htext
  have hrecords : records = [["7".toList, "true".toList], [[], []]] := by
    have hcut : recordsOf 44 (write (charOf 44) ["n", "ok"] [["7", "true"], ["", ""]]).toList =
        [["n".toList, "ok".toList], ["7".toList, "true".toList], [[], []]] := by decide +kernel
    rw [hcut] at hheader
    cases hheader
    rfl
  subst hrecords
  exact ⟨hread, (hcolumns 0 _ rfl).2, (hcolumns 1 _ rfl).2⟩

end FramePlan.Csv
