import FramePlan.Proofs.Frame.Ingestion

/-!
# Frames of JSON trees

A JSON array of objects gives a frame by its rows, and an object of arrays gives one by its columns. The first
way goes through records, which serve their pairs under the keys of the first one; the second way takes each
array as a column. `json_shapes_agree` says that both come to the same frame, and that a tree of neither shape
is refused with the first part of it that is out of shape.

The members of a JSON object have distinct keys (`object_eq` builds such an object from its pairs), so what a
record has with a key is one value, or nothing (`first_recordOf`).
-/
namespace FramePlan

/-- An input that cannot be used, of which nothing is kept but the text of the error. -/
def Error.isInvalidInput : Error → Bool
  | .pathNotUtf8 _ | .badJson _ | .noFrames | .malformed _ => true
  | .badJoin .crossWithKeys | .badJoin (.keysRequired _) => true
  | _ => false

namespace Json

abbrev Members := List (String × Json)

def isObject : Json → Bool
  | .obj _ => true
  | _ => false

def isArray : Json → Bool
  | .arr _ => true
  | _ => false

/-- What the members have with the key, null if they have not the key. -/
def Members.get (members : Members) (key : String) : Json := (members.lookup key).getD .null

theorem insertMember_of_notMem {members : Members} {key : String} (h : key ∉ members.map (·.1))
    (value : Json) : insertMember members key value = members ++ [(key, value)] := by
  induction members with
  | nil => rfl
  | cons m members ih =>
    rw [List.map_cons, List.mem_cons, not_or] at h
    obtain ⟨hne, hrest⟩ := h
    rw [insertMember, if_neg (Ne.symm hne), ih hrest, List.cons_append]

theorem foldl_insertMember {pairs : Members} : ∀ {members : Members},
    ((members ++ pairs).map (·.1)).Nodup →
      pairs.foldl (fun ms p => insertMember ms p.1 p.2) members = members ++ pairs := by
  induction pairs with
  | nil => simp
  | cons p pairs ih =>
    intro members distinct
    have hnot : p.1 ∉ members.map (·.1) := by
      intro hmem
      rw [List.map_append, List.map_cons] at distinct
      exact (List.nodup_append.mp distinct).2.2 _ hmem _ List.mem_cons_self rfl
    rw [List.foldl_cons, insertMember_of_notMem hnot, ih (by simpa using distinct),
      List.append_assoc, List.singleton_append]

theorem object_eq {pairs : Members} (distinct : (pairs.map (·.1)).Nodup) :
    object pairs = .obj pairs := by
  have hfold := @foldl_insertMember pairs [] distinct
  rw [object, hfold, List.nil_append]

end Json

namespace Frame

open Json

variable {first row : Members} {rest : List Members}

/-! ## Rows -/

/-- The record of the members of an object. -/
def recordOf (row : Members) : Record := row.map fun m => (m.1, Value.ofJson m.2)

theorem keys_recordOf (row : Members) : (recordOf row).keys = row.map (·.1) := by
  simp [Record.keys, recordOf]

theorem first_recordOf (row : Members) (key : String) :
    (recordOf row).first key = Value.ofJson (row.get key) := by
  induction row with
  | nil => rfl
  | cons m row ih =>
    obtain ⟨k, value⟩ := m
    by_cases h : k = key
    · subst h
      simp [recordOf, Record.first, Record.pairs, Members.get]
    · have hpairs : (recordOf ((k, value) :: row)).pairs key = (recordOf row).pairs key := by
        simp [recordOf, Record.pairs, h]
      have hget : Members.get ((k, value) :: row) key = Members.get row key := by
        simp [Members.get, List.lookup_cons, beq_false_of_ne (Ne.symm h)]
      rw [hget, ← ih, Record.first_congr hpairs]

theorem mapM_recordOfJson (rows : List Members) :
    (rows.map .obj).mapM recordOfJson = .ok (rows.map recordOf) := by
  rw [mapM_eq_ok, List.forall₂_map_left_iff, List.forall₂_map_right_iff, List.forall₂_same]
  intro row _
  rfl

/-! ## Columns -/

def valuesOf (rows : List Members) (key : String) : List Value :=
  rows.map fun row => Value.ofJson (row.get key)

/-- The rows turned into an object: under each key of the first row, in its order, the array of what the rows
have with it. -/
def transposed (first : Members) (rest : List Members) : Json :=
  Json.object (first.map fun m => (m.1, .arr ((first :: rest).map fun row => row.get m.1)))

theorem ofJson_rows (hne : first ≠ []) (distinct : ∀ row ∈ first :: rest, (row.map (·.1)).Nodup) :
    ofJson (.arr ((first :: rest).map .obj)) =
      ⟨.ok [.fromMemory (first.map fun m => ⟨m.1, valuesOf (first :: rest) m.1⟩)]⟩ := by
  have hrecord : recordOf first ≠ [] := by
    intro hnil
    exact hne (List.map_eq_nil_iff.mp hnil)
  have hkeys : ∀ r ∈ recordOf first :: rest.map recordOf, r.keys.Nodup := by
    intro r hr
    rw [← List.map_cons] at hr
    obtain ⟨row, hrow, rfl⟩ := List.mem_map.mp hr
    rw [keys_recordOf]
    exact distinct row hrow
  have hvalues (k : String) : (recordOf first :: rest.map recordOf).map (fun r => r.first k) =
      valuesOf (first :: rest) k := by
    rw [← List.map_cons, List.map_map]
    exact List.map_congr_left fun row _ => first_recordOf row k
  calc ofJson (.arr ((first :: rest).map .obj))
      = ofRecords (recordOf first :: rest.map recordOf) := by
        rw [ofJson, mapM_recordOfJson]
        rfl
    _ = ⟨.ok [.fromMemory ((recordOf first).keys.map fun k => ⟨k, valuesOf (first :: rest) k⟩)]⟩ := by
        rw [ofRecords_eq hrecord hkeys]
        simp only [hvalues]
    _ = _ := by rw [keys_recordOf, List.map_map]; rfl

theorem ofJson_transposed (hne : first ≠ []) (distinct : (first.map (·.1)).Nodup) :
    ofJson (transposed first rest) =
      ⟨.ok [.fromMemory (first.map fun m => ⟨m.1, valuesOf (first :: rest) m.1⟩)]⟩ := by
  have hkeys : ((first.map fun m => (m.1, Json.arr ((first :: rest).map fun row => row.get m.1))).map
      (·.1)).Nodup := by
    rw [List.map_map]
    exact distinct
  have hcolumns : (first.map fun m => (m.1, Json.arr ((first :: rest).map fun row => row.get m.1))).mapM
      columnOfJson = .ok (first.map fun m => ⟨m.1, valuesOf (first :: rest) m.1⟩) := by
    rw [mapM_eq_ok, List.forall₂_map_left_iff, List.forall₂_map_right_iff, List.forall₂_same]
    intro m _
    simp [columnOfJson, valuesOf]
  rw [transposed, object_eq hkeys, ofJson, hcolumns]
  apply ofColumns_of_level (n := (first :: rest).length)
  · intro hnil
    exact hne (List.map_eq_nil_iff.mp hnil)
  · intro c hc
    obtain ⟨m, -, rfl⟩ := List.mem_map.mp hc
    exact List.length_map ..

/-! ## Trees out of shape -/

theorem exists_find? {α : Type} {p : α → Bool} {xs : List α} (h : ∃ x ∈ xs, p x = true) :
    ∃ x, xs.find? p = some x ∧ p x = true := by
  obtain ⟨x, hx⟩ := Option.isSome_iff_exists.mp (List.find?_isSome.mpr h)
  exact ⟨x, hx, List.find?_some hx⟩

theorem ofJson_of_notObject {rows : List Json} (h : ∃ row ∈ rows, !row.isObject) :
    ∃ row, rows.find? (!·.isObject) = some row ∧
      ofJson (.arr rows) = failed (.badJson (.recordNotObject row.compact)) := by
  obtain ⟨row, hfind, hrow⟩ := exists_find? h
  have hgood : ∀ r ∈ rows, (!r.isObject) = false → ∃ record, recordOfJson r = .ok record := by
    intro r _ hr
    cases r with
    | obj members => exact ⟨_, rfl⟩
    | _ => cases hr
  have hbad : recordOfJson row = .error (.badJson (.recordNotObject row.compact)) := by
    cases row with
    | obj members => cases hrow
    | _ => rfl
  refine ⟨row, hfind, ?_⟩
  rw [ofJson, mapM_of_find? hgood hfind hbad]

theorem ofJson_of_notArray {members : Members} (h : ∃ m ∈ members, !m.2.isArray) :
    ∃ m, members.find? (!·.2.isArray) = some m ∧
      ofJson (.obj members) = failed (.badJson (.columnNotArray (Text.quote m.1) m.2.compact)) := by
  obtain ⟨⟨name, tree⟩, hfind, htree⟩ := exists_find? h
  have hgood : ∀ m ∈ members, (!m.2.isArray) = false → ∃ column, columnOfJson m = .ok column := by
    rintro ⟨name, tree⟩ _ htree
    cases tree with
    | arr items => exact ⟨_, rfl⟩
    | _ => cases htree
  have hbad : columnOfJson (name, tree) =
      .error (.badJson (.columnNotArray (Text.quote name) tree.compact)) := by
    cases tree with
    | arr items => cases htree
    | _ => rfl
  refine ⟨(name, tree), hfind, ?_⟩
  rw [ofJson, mapM_of_find? hgood hfind hbad]

/-- **The two shapes of a JSON tree agree.** An array of objects, of which the first one has members, gives one
source of columns: under each key of the first object, in its order, what the objects have with the key, and
null where one has not the key. The object of these columns as arrays gives the same frame. An array with an
item that is no object is an invalid input, whatever else is in it, and its text shows the first such item. So
is an object with a member that is no array. -/
theorem json_shapes_agree :
    (∀ (first : Members) (rest : List Members), first ≠ [] →
      (∀ row ∈ first :: rest, (row.map (·.1)).Nodup) →
      ofJson (.arr ((first :: rest).map .obj)) = ofJson (transposed first rest) ∧
      ofJson (transposed first rest) =
        ⟨.ok [.fromMemory (first.map fun m => ⟨m.1, valuesOf (first :: rest) m.1⟩)]⟩) ∧
    (∀ rows : List Json, (∃ row ∈ rows, !row.isObject) →
      ∃ row e, rows.find? (!·.isObject) = some row ∧ ofJson (.arr rows) = failed e ∧
        e.isInvalidInput ∧ e.message = "from_json: expected an object per record, got " ++ row.compact) ∧
    (∀ members : Members, (∃ m ∈ members, !m.2.isArray) →
      ∃ m e, members.find? (!·.2.isArray) = some m ∧ ofJson (.obj members) = failed e ∧
        e.isInvalidInput ∧
        e.message = "from_json: column " ++ Text.quote m.1 ++ " is not an array: " ++ m.2.compact) := by
  refine ⟨?_, ?_, ?_⟩
  · intro first rest hne distinct
    have hcolumns := @ofJson_transposed first rest hne (distinct first List.mem_cons_self)
    exact ⟨(ofJson_rows hne distinct).trans hcolumns.symm, hcolumns⟩
  · intro rows h
    obtain ⟨row, hfind, hframe⟩ := ofJson_of_notObject h
    exact ⟨row, _, hfind, hframe, rfl, rfl⟩
  · intro members h
    obtain ⟨m, hfind, hframe⟩ := ofJson_of_notArray h
    exact ⟨m, _, hfind, hframe, rfl, rfl⟩

/-! ### Cities -/

def oslo : Members := [("city", .str "Oslo"), ("temp", .int (-3)), ("tags", .arr [.str "sea"])]

/-- Other keys in another order, and one key less. -/
def lima : Members := [("coast", .bool true), ("temp", .int 19), ("city", .str "Lima")]

theorem json_shapes_agree_cities :
    ofJson (.arr [.obj oslo, .obj lima]) =
      ofJson (.obj [("city", .arr [.str "Oslo", .str "Lima"]), ("temp", .arr [.int (-3), .int 19]),
        ("tags", .arr [.arr [.str "sea"], .null])]) ∧
    ofJson (.arr [.obj oslo, .obj lima]) = ⟨.ok [.fromMemory [⟨"city", [.str "Oslo", .str "Lima"]⟩,
      ⟨"temp", [.int (-3), .int 19]⟩, ⟨"tags", [.null, .null]⟩]]⟩ ∧
    (∃ e, ofJson (.arr [.obj [], .int 3]) = failed e ∧ e.isInvalidInput ∧
      e.message = "from_json: expected an object per record, got 3") ∧
    ∃ e, ofJson (.obj [("city", .arr []), ("temp", .int 3)]) = failed e ∧ e.isInvalidInput ∧
      e.message = "from_json: column \"temp\" is not an array: 3" := by
  have distinct : ∀ row ∈ [oslo, lima], (row.map (·.1)).Nodup := by decide
  obtain ⟨hrows, hrecords, hmembers⟩ := json_shapes_agree
  obtain ⟨hsame, hcolumns⟩ := hrows oslo [lima] (List.cons_ne_nil _ _) distinct
  refine ⟨hsame.trans rfl, hsame.trans (hcolumns.trans rfl), ?_, ?_⟩
  · obtain ⟨row, e, hfind, hframe, hinput, hmessage⟩ :=
      hrecords [.obj [], .int 3] ⟨.int 3, by simp, rfl⟩
    cases hfind
    exact ⟨e, hframe, hinput, hmessage⟩
  · obtain ⟨m, e, hfind, hframe, hinput, hmessage⟩ :=
      hmembers [("city", .arr []), ("temp", .int 3)] ⟨("temp", .int 3), by simp, rfl⟩
    cases hfind
    exact ⟨e, hframe, hinput, hmessage.trans (by decide +kernel)⟩

end Frame
end FramePlan
