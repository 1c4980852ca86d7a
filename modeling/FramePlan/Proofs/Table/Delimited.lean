import FramePlan.Table.Csv
import FramePlan.Proofs.Outcome
import FramePlan.Proofs.Table.Typing
import FramePlan.Proofs.Text.Fields
import FramePlan.Proofs.Text.Utf8

/-!
# Delimited text

Reading a text cuts it into records of fields and, if all records are as wide as the names, takes the fields
at each position as a column (`parse_eq_ok`, `read_eq_ok`).

A text that was written, one record on a line, is cut into the records that were written, but for those that
are an empty line (`recordsOf_write`). Only a record of one empty field is (`join_eq_nil_iff`). So
`written_records_read` has a row for every other record, and `blank_record_skipped` has a record without one.
-/
namespace FramePlan.Csv

variable {path : String} {options : CsvOptions} {text : List Char} {names : List String}
  {overrides : List DataType} {t : Table} {d : Char}

/-- A record as it stands in a text. -/
abbrev Fields := List (List Char)

variable {records : List Fields}

/-! ## What a text is read as -/

/-- The records of a text, the header line among them. -/
def recordsOf (delimiter : UInt8) (text : List Char) : List Fields :=
  (lines text).map (Text.fields (Char.ofNat delimiter.toNat))

def fieldsAt (records : List Fields) (i : Nat) : Fields := records.map fun r => (r[i]?).getD []

def columnsOf (names : List String) (overrides : List DataType) (records : List Fields) : List Series :=
  (List.range names.length).zipWith
    (fun i name => columnOf name overrides[i]? (fieldsAt records i)) names

theorem raggedRecord?_eq_none {width : Nat} :
    raggedRecord? width records = none ↔ ∀ r ∈ records, r.length = width := by
  simp [raggedRecord?]

def assemble (path : String) (overrides : List DataType) (names : List String) (records : List Fields) :
    Outcome Table :=
  match raggedRecord? names.length records with
  | some fault => .error (.file path fault)
  | none =>
    if names.length < overrides.length then .error (.overrides overrides.length names.length)
    else Table.ofColumns (columnsOf names overrides records)

theorem parse_eq (path : String) (options : CsvOptions) (text : List Char) :
    parse path options text =
      ((header options.hasHeader (recordsOf options.delimiter text)).mapError (Fault.file path) >>= fun p =>
        assemble path (options.dtypes.getD []) p.1 p.2) := by
  unfold parse recordsOf
  refine bind_congr fun p => ?_
  obtain ⟨names, records⟩ := p
  simp only [assemble]
  cases raggedRecord? names.length records with
  | some fault => rfl
  | none =>
    by_cases hmany : names.length < (options.dtypes.getD []).length
    · rw [if_pos hmany, if_pos hmany]
      rfl
    · rw [if_neg hmany, if_neg hmany]
      rfl

theorem assemble_eq_ok : assemble path overrides names records = .ok t ↔
    (∀ r ∈ records, r.length = names.length) ∧ overrides.length ≤ names.length ∧
      Table.ofColumns (columnsOf names overrides records) = .ok t := by
  rw [← raggedRecord?_eq_none, ← Nat.not_lt, assemble]
  cases raggedRecord? names.length records with
  | some fault => simp
  | none =>
    by_cases hmany : names.length < overrides.length
    · simp [hmany]
    · simp [hmany]

/-- A text is read if it has a header where one is expected, all records are as wide as the names, there are
    no more types than names, and the columns make a table. -/
theorem parse_eq_ok : parse path options text = .ok t ↔ ∃ names records,
    header options.hasHeader (recordsOf options.delimiter text) = .ok (names, records) ∧
      (∀ r ∈ records, r.length = names.length) ∧
      (options.dtypes.getD []).length ≤ names.length ∧
      Table.ofColumns (columnsOf names (options.dtypes.getD []) records) = .ok t := by
  rw [parse_eq]
  cases header options.hasHeader (recordsOf options.delimiter text) with
  | error e => simp [Except.mapError]
  | ok p =>
    obtain ⟨names, records⟩ := p
    rw [Except.mapError, ok_bind, assemble_eq_ok]
    constructor
    · intro h
      exact ⟨names, records, rfl, h⟩
    · rintro ⟨_, _, hheader, h⟩
      cases hheader
      exact h

theorem read_eq_ok {files : Files} : read files path options = .ok t ↔
    (∀ c ∈ path.toList, c.toNat ≠ 0) ∧ ∃ bytes text, files.lookup path = some bytes ∧
      Text.Utf8.decode? bytes = some text ∧ parse path options text.toList = .ok t := by
  have hzero : path.toList.any (fun c => c.toNat == 0) = false ↔ ∀ c ∈ path.toList, c.toNat ≠ 0 := by
    simp
  rw [← hzero, read]
  cases path.toList.any (fun c => c.toNat == 0) with
  | true => simp
  | false =>
    cases hbytes : files.lookup path with
    | none => simp
    | some bytes => cases htext : Text.Utf8.decode? bytes <;> simp [htext]

theorem getElem?_columnsOf (i : Nat) : (columnsOf names overrides records)[i]? =
    names[i]?.map fun name => columnOf name overrides[i]? (fieldsAt records i) := by
  rw [columnsOf, List.getElem?_zipWith]
  cases hname : names[i]? with
  | none => simp
  | some name =>
    have hi : i < names.length := (List.getElem?_eq_some_iff.mp hname).1
    simp [List.getElem?_range hi]

theorem names_columnsOf : (columnsOf names overrides records).map (·.name) = names := by
  apply List.ext_getElem?
  intro i
  rw [List.getElem?_map, getElem?_columnsOf]
  cases names[i]? <;> rfl

theorem mem_columnsOf {c : Series} (h : c ∈ columnsOf names overrides records) :
    c.length = records.length := by
  obtain ⟨i, hi⟩ := List.mem_iff_getElem?.mp h
  rw [getElem?_columnsOf] at hi
  obtain ⟨name, -, rfl⟩ := Option.map_eq_some_iff.mp hi
  simp [columnOf, fieldsAt, Series.length]

theorem ofColumns_columnsOf (hne : names ≠ []) (distinct : names.Nodup) :
    Table.ofColumns (columnsOf names overrides records) =
      .ok ⟨columnsOf names overrides records, records.length⟩ := by
  have level : ∀ c ∈ columnsOf names overrides records, c.length = records.length :=
    fun c hc => mem_columnsOf hc
  have hsome : columnsOf names overrides records ≠ [] := by
    intro hnil
    have hnames : (columnsOf names overrides records).map (·.name) = names := names_columnsOf
    rw [hnil] at hnames
    exact hne hnames.symm
  rw [Table.ofColumns_of_level level (by rw [names_columnsOf]; exact distinct),
    Table.heightOf_of_level hsome level]

/-! ## Written texts -/

def join (d : Char) (record : List String) : List Char := [d].intercalate (record.map String.toList)

/-- A header and records, each on a line of its own. -/
def write (d : Char) (names : List String) (records : List (List String)) : String :=
  String.ofList (((names :: records).map (join d)).flatMap fun line => line ++ ['\n'])

/-- A field that does not end in the middle of a line. -/
structure Plain (d : Char) (field : String) : Prop where
  delimiter : d ∉ field.toList
  newline : '\n' ∉ field.toList
  carriage : '\r' ∉ field.toList

instance (d : Char) (field : String) : Decidable (Plain d field) :=
  decidable_of_iff (d ∉ field.toList ∧ '\n' ∉ field.toList ∧ '\r' ∉ field.toList)
    ⟨fun h => ⟨h.1, h.2.1, h.2.2⟩, fun h => ⟨h.delimiter, h.newline, h.carriage⟩⟩

def IsRecord (d : Char) (record : List String) : Prop := record ≠ [] ∧ ∀ field ∈ record, Plain d field

/-- The records that are no empty line. -/
def lined (records : List (List String)) : List (List String) := records.filter (· != [""])

section Written

variable {record : List String} {written : List (List String)}

theorem fields_join (h : IsRecord d record) :
    Text.fields d (join d record) = record.map String.toList := by
  refine Text.fields_intercalate (fun hnil => h.1 (List.map_eq_nil_iff.mp hnil)) ?_
  intro cs hcs
  obtain ⟨field, hfield, rfl⟩ := List.mem_map.mp hcs
  exact (h.2 field hfield).delimiter

theorem map_toList_inj {r s : List String} : r.map String.toList = s.map String.toList ↔ r = s :=
  (List.map_injective_iff.mpr fun _ _ h => String.toList_injective h).eq_iff

/-- A record is an empty line only if it is one empty field. -/
theorem join_eq_nil_iff (h : IsRecord d record) : join d record = [] ↔ record = [""] := by
  constructor
  · intro hnil
    have hfields := fields_join h
    rw [hnil] at hfields
    exact map_toList_inj.mp hfields.symm
  · rintro rfl
    rfl

theorem mem_join {c : Char} (h : c ∈ join d record) : c = d ∨ ∃ field ∈ record, c ∈ field.toList := by
  induction record with
  | nil => cases h
  | cons field record ih =>
    cases record with
    | nil =>
      rw [join, List.map_singleton, List.intercalate_singleton] at h
      exact .inr ⟨field, List.mem_cons_self, h⟩
    | cons field' record =>
      rw [join, List.map_cons, List.map_cons, List.intercalate_cons_cons, List.append_assoc,
        List.singleton_append, List.mem_append, List.mem_cons] at h
      obtain h | h | h := h
      · exact .inr ⟨field, List.mem_cons_self, h⟩
      · exact .inl h
      · exact (ih h).imp_right fun ⟨f, hf, hc⟩ => ⟨f, List.mem_cons_of_mem _ hf, hc⟩

theorem lines_records (hn : d ≠ '\n') (hr : d ≠ '\r') (h : ∀ r ∈ written, IsRecord d r) :
    lines ((written.map (join d)).flatMap fun line => line ++ ['\n']) = (lined written).map (join d) := by
  have absent {c : Char} (hc : d ≠ c) (plain : ∀ field, Plain d field → c ∉ field.toList) :
      ∀ line ∈ written.map (join d), c ∉ line := by
    intro line hline hmem
    obtain ⟨r, hr, rfl⟩ := List.mem_map.mp hline
    obtain rfl | ⟨field, hfield, hc'⟩ := mem_join hmem
    · exact hc rfl
    · exact plain field ((h r hr).2 field hfield) hc'
  have hwhole : (written.map (join d) ++ [[]]).map (Text.dropRightWhile (· == '\r')) =
      written.map (join d) ++ [[]] := by
    rw [List.map_append]
    refine congrArg (· ++ [[]]) ((List.map_congr_left fun line hline => ?_).trans (List.map_id _))
    refine Text.dropRightWhile_eq_self fun c hc => beq_false_of_ne ?_
    rintro rfl
    exact absent hr (fun _ p => p.carriage) line hline hc
  rw [lines, Text.fields_flatMap (absent hn fun _ p => p.newline), hwhole, List.filter_append, lined,
    List.filter_map]
  have hkeep : written.filter ((fun line => !line.isEmpty) ∘ join d) = written.filter (· != [""]) := by
    apply List.filter_congr
    intro r hr
    rw [Function.comp_apply, Bool.eq_iff_iff, Bool.not_eq_true', List.isEmpty_eq_false_iff, bne_iff_ne,
      Ne, Ne, join_eq_nil_iff (h r hr)]
  rw [hkeep]
  exact List.append_nil _

/-! ### Reading what was written -/

def charOf (delimiter : UInt8) : Char := Char.ofNat delimiter.toNat

theorem charOf_ne {b : UInt8} {n : Nat} (hn : n < 256) (h : b.toNat ≠ n) : charOf b ≠ Char.ofNat n := by
  intro heq
  have hnat := congrArg Char.toNat heq
  rw [charOf, Text.Utf8.toNat_ofNat (.inl (Nat.lt_trans b.toNat_lt (by decide))),
    Text.Utf8.toNat_ofNat (.inl (Nat.lt_trans hn (by decide)))] at hnat
  exact h hnat

/-- A text that was written is cut into the records that are no empty line. -/
theorem recordsOf_write {b : UInt8} (hn : b ≠ 10) (hr : b ≠ 13) (hnames : IsRecord (charOf b) names)
    (h : ∀ r ∈ written, IsRecord (charOf b) r) :
    recordsOf b (write (charOf b) names written).toList =
      (lined (names :: written)).map (List.map String.toList) := by
  have hall : ∀ r ∈ names :: written, IsRecord (charOf b) r := List.forall_mem_cons.mpr ⟨hnames, h⟩
  have hnewline : charOf b ≠ '\n' := charOf_ne (n := 10) (by decide) fun heq => hn (UInt8.toNat_inj.mp heq)
  have hcarriage : charOf b ≠ '\r' := charOf_ne (n := 13) (by decide) fun heq => hr (UInt8.toNat_inj.mp heq)
  rw [recordsOf, write, String.toList_ofList, lines_records hnewline hcarriage hall, List.map_map]
  apply List.map_congr_left
  intro r hr
  exact fields_join (hall r (List.mem_filter.mp hr).1)

def cellOf (field : String) : Cell := if field = "" then .null else .str field

theorem parseField_str (field : String) : parseField .str field.toList = cellOf field := by
  by_cases h : field = ""
  · subst h
    rfl
  · have hne : field.toList.isEmpty = false := by
      rw [List.isEmpty_eq_false_iff, Ne, String.toList_eq_nil_iff]
      exact h
    simp only [parseField, cellOf, hne, if_neg h, String.ofList_toList, Bool.false_eq_true, if_false]

theorem lined_of_wide {width : Nat} (hwide : 2 ≤ width) (h : ∀ r ∈ written, r.length = width) :
    lined written = written := by
  apply List.filter_eq_self.mpr
  intro r hr
  rw [bne_iff_ne]
  rintro rfl
  have hone : [""].length = width := h _ hr
  simp only [List.length_singleton] at hone
  omega

/-- Names and records that a text can be written for: some names, distinct, none of them empty, records as
    wide as the names, and only plain fields. -/
structure Writable (d : Char) (names : List String) (records : List (List String)) : Prop where
  nonempty : names ≠ []
  distinct : names.Nodup
  named : ∀ name ∈ names, name ≠ "" ∧ Plain d name
  wide : ∀ r ∈ records, r.length = names.length
  plain : ∀ r ∈ records, ∀ field ∈ r, Plain d field

instance (d : Char) (names : List String) (records : List (List String)) :
    Decidable (Writable d names records) :=
  decidable_of_iff (names ≠ [] ∧ names.Nodup ∧ (∀ name ∈ names, name ≠ "" ∧ Plain d name) ∧
      (∀ r ∈ records, r.length = names.length) ∧ ∀ r ∈ records, ∀ field ∈ r, Plain d field)
    ⟨fun h => ⟨h.1, h.2.1, h.2.2.1, h.2.2.2.1, h.2.2.2.2⟩,
      fun h => ⟨h.nonempty, h.distinct, h.named, h.wide, h.plain⟩⟩

theorem Writable.isRecord_names (h : Writable d names written) : IsRecord d names :=
  ⟨h.nonempty, fun name hname => (h.named name hname).2⟩

theorem Writable.isRecord (h : Writable d names written) : ∀ r ∈ written, IsRecord d r := by
  intro r hr
  refine ⟨fun hnil => h.nonempty (List.length_eq_zero_iff.mp ?_), h.plain r hr⟩
  rw [← h.wide r hr, hnil, List.length_nil]

/-- Names are no empty line, as none of them is empty. -/
theorem Writable.lined_cons (h : Writable d names written) :
    lined (names :: written) = names :: lined written := by
  refine List.filter_cons_of_pos (bne_iff_ne.mpr ?_)
  rintro rfl
  exact (h.named "" List.mem_cons_self).1 rfl

/-- The columns of a text that was written, read with all of them of text. -/
def textColumns (names : List String) (written : List (List String)) : List Series :=
  columnsOf names (List.replicate names.length .utf8) ((lined written).map (List.map String.toList))

theorem getElem?_textColumns (j : Nat) : (textColumns names written)[j]? = names[j]?.map fun name =>
    ⟨name, .str, (lined written).map fun r => cellOf ((r[j]?).getD "")⟩ := by
  rw [textColumns, getElem?_columnsOf]
  refine Option.map_congr fun name hname => ?_
  have hj : j < names.length := (List.getElem?_eq_some_iff.mp hname).1
  have hfield : ∀ r : List String, ((r.map String.toList)[j]?).getD [] = ((r[j]?).getD "").toList := by
    intro r
    rw [List.getElem?_map]
    cases r[j]? <;> rfl
  simp only [columnOf, List.getElem?_replicate_of_lt hj, Option.map_some, Option.getD_some, fieldsAt,
    List.map_map, Dtype.ofDataType]
  congr 1
  apply List.map_congr_left
  intro r _
  rw [Function.comp_apply, Function.comp_apply, hfield, parseField_str]

theorem read_write {files : Files} {b : UInt8} (hn : b ≠ 10) (hr : b ≠ 13)
    (h : Writable (charOf b) names written) (hpath : ∀ c ∈ path.toList, c.toNat ≠ 0)
    (hfile : files.lookup path = some (Text.Utf8.encode (write (charOf b) names written))) :
    read files path ⟨b, true, some (List.replicate names.length .utf8)⟩ =
      .ok ⟨textColumns names written, (lined written).length⟩ := by
  refine read_eq_ok.mpr ⟨hpath, _, _, hfile, Text.Utf8.decode?_encode _, ?_⟩
  refine parse_eq_ok.mpr ⟨names, (lined written).map (List.map String.toList), ?_, ?_, ?_, ?_⟩
  · rw [recordsOf_write hn hr h.isRecord_names h.isRecord, h.lined_cons]
    simp [header]
  · intro fields hfields
    obtain ⟨r, hr, rfl⟩ := List.mem_map.mp hfields
    rw [List.length_map]
    exact h.wide r (List.mem_filter.mp hr).1
  · simp
  · rw [Option.getD_some, ofColumns_columnsOf h.nonempty h.distinct, List.length_map]
    rfl

/-- Columns of text with the names and, in each row, the fields of one record. -/
structure Holds (names : List String) (records : List (List String)) (t : Table) : Prop where
  named : t.names = names
  height : t.height = records.length
  columns : ∀ c ∈ t.columns, c.dtype = .str ∧ c.length = t.height
  cells : ∀ (i j : Nat) (r : List String) (field : String), records[i]? = some r → r[j]? = some field →
    ∃ c : Series, t.columns[j]? = some c ∧ c.cells[i]? = some (cellOf field)

theorem holds_textColumns (h : Writable d names written) :
    Holds names (lined written) ⟨textColumns names written, (lined written).length⟩ where
  named := names_columnsOf
  height := rfl
  columns := by
    intro c hc
    obtain ⟨j, hj⟩ := List.mem_iff_getElem?.mp hc
    rw [getElem?_textColumns] at hj
    obtain ⟨name, -, rfl⟩ := Option.map_eq_some_iff.mp hj
    exact ⟨rfl, List.length_map _⟩
  cells := by
    intro i j r field hi hj
    have hr : r ∈ written := (List.mem_filter.mp (List.mem_of_getElem? hi)).1
    have hlt : j < names.length := h.wide r hr ▸ (List.getElem?_eq_some_iff.mp hj).1
    refine ⟨_, by rw [getElem?_textColumns, List.getElem?_eq_getElem hlt, Option.map_some], ?_⟩
    rw [List.getElem?_map, hi, Option.map_some, hj, Option.getD_some]

/-- Written records are read as they are: the names, and in each row the fields of one record. A record that
    is an empty line has no row, and there is none where records have two fields or more. -/
theorem written_records_read {files : Files} {b : UInt8} (hn : b ≠ 10) (hr : b ≠ 13)
    (h : Writable (charOf b) names written) (hpath : ∀ c ∈ path.toList, c.toNat ≠ 0)
    (hfile : files.lookup path = some (Text.Utf8.encode (write (charOf b) names written))) :
    ∃ t, read files path ⟨b, true, some (List.replicate names.length .utf8)⟩ = .ok t ∧
      Holds names (lined written) t ∧ (2 ≤ names.length → lined written = written) :=
  ⟨_, read_write hn hr h hpath hfile, holds_textColumns h, fun hwide => lined_of_wide hwide h.wide⟩

def saved (path : String) (names : List String) (written : List (List String)) : Files :=
  [(path, Text.Utf8.encode (write ',' names written))]

theorem lookup_saved : (saved path names written).lookup path =
    some (Text.Utf8.encode (write (charOf 44) names written)) :=
  List.lookup_cons_self

/-- An order without a note is read with a null. -/
theorem written_records_read_orders : ∃ t,
    read (saved "orders.csv" ["item", "note"] [["tea", ""], ["jam", "late"]]) "orders.csv"
      ⟨44, true, some [.utf8, .utf8]⟩ = .ok t ∧
      Holds ["item", "note"] [["tea", ""], ["jam", "late"]] t := by
  obtain ⟨t, hread, holds, hwide⟩ :=
    written_records_read (by decide) (by decide)
      (by decide : Writable (charOf 44) ["item", "note"] [["tea", ""], ["jam", "late"]])
      (by simp) (lookup_saved : (saved "orders.csv" _ _).lookup _ = _)
  rw [hwide (by decide)] at holds
  exact ⟨t, hread, holds⟩

/-- Of three notes, the one that is empty is a record of one empty field: its line is skipped, and there are
    two rows. -/
theorem blank_record_skipped : Writable ',' ["note"] [["ok"], [""], ["late"]] ∧
    read (saved "notes.csv" ["note"] [["ok"], [""], ["late"]]) "notes.csv" ⟨44, true, some [.utf8]⟩ =
      .ok ⟨[⟨"note", .str, [.str "ok", .str "late"]⟩], 2⟩ ∧
    ¬ ∃ t, read (saved "notes.csv" ["note"] [["ok"], [""], ["late"]]) "notes.csv"
      ⟨44, true, some [.utf8]⟩ = .ok t ∧ Holds ["note"] [["ok"], [""], ["late"]] t := by
  have writable : Writable (charOf 44) ["note"] [["ok"], [""], ["late"]] := by decide
  have hread : read (saved "notes.csv" ["note"] [["ok"], [""], ["late"]]) "notes.csv"
      ⟨44, true, some [.utf8]⟩ = .ok ⟨[⟨"note", .str, [.str "ok", .str "late"]⟩], 2⟩ :=
    (read_write (by decide) (by decide) writable (by simp) lookup_saved).trans
      (congrArg _ (by decide))
  refine ⟨writable, hread, ?_⟩
  rintro ⟨t, h, holds⟩
  have hheight := holds.height
  rw [← Except.ok.inj (hread.symm.trans h)] at hheight
  exact absurd hheight (by decide)

end Written

end FramePlan.Csv
