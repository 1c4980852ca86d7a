import FramePlan.Proofs.Frame.Serving
import FramePlan.Proofs.Outcome

/-!
# Columns of records

The keys of the first record name the columns, and each further record adds a value to each of them. That is a
step of a fold (`appendRow_spec`), and what holds of the values that a record gives to the keys holds of the
columns in the end (`columnsOfRecords_spec`).

1. `records_transposed`: if no record has a key twice, neither the order of its pairs nor those with keys that
   the first record has not make any difference.
2. `stored_by_own_pairs`: a record that has the key of a column twice gives the column one of its values, and
   the first one unless a pair that is served before makes room for another. `displaced_pair` is a record of
   which the second value is taken.
-/
namespace FramePlan.Frame

/-! ## Columns -/

section Columns

variable {P : String → Record → Value → Prop} {seen rest : List Record} {r : Record}
  {columns : List Column} {row : List Value}

theorem appendRow_spec (hrow : List.Forall₂ (fun k v => P k r v) (columns.map (·.name)) row)
    (h : ∀ c ∈ columns, List.Forall₂ (P c.name) seen c.values) :
    (appendRow columns row).map (·.name) = columns.map (·.name) ∧
      ∀ c ∈ appendRow columns row, List.Forall₂ (P c.name) (seen ++ [r]) c.values := by
  induction columns generalizing row with
  | nil =>
    cases hrow
    exact ⟨rfl, fun _ hc => absurd hc List.not_mem_nil⟩
  | cons c columns ih =>
    obtain ⟨v, vs, hv, hvs, rfl⟩ := List.forall₂_cons_left_iff.mp hrow
    obtain ⟨hc, hcs⟩ := List.forall_mem_cons.mp h
    obtain ⟨hnames, hrest⟩ := ih hvs hcs
    have hstep : appendRow (c :: columns) (v :: vs) =
        { c with values := c.values ++ [v] } :: appendRow columns vs := rfl
    rw [hstep]
    refine ⟨by rw [List.map_cons, hnames, List.map_cons], List.forall_mem_cons.mpr ⟨?_, hrest⟩⟩
    exact List.rel_append hc (.cons hv .nil)

theorem foldl_appendRow_spec {keys : List String}
    (hrest : ∀ r ∈ rest, List.Forall₂ (fun k v => P k r v) keys (r.valuesAt keys))
    (hnames : columns.map (·.name) = keys)
    (h : ∀ c ∈ columns, List.Forall₂ (P c.name) seen c.values) :
    let out := rest.foldl (fun columns r => appendRow columns (r.valuesAt (columns.map (·.name)))) columns
    out.map (·.name) = keys ∧ ∀ c ∈ out, List.Forall₂ (P c.name) (seen ++ rest) c.values := by
  induction rest generalizing columns seen with
  | nil => simpa using ⟨hnames, h⟩
  | cons r rest ih =>
    obtain ⟨hr, hrest⟩ := List.forall_mem_cons.mp hrest
    have hrow : List.Forall₂ (fun k v => P k r v) (columns.map (·.name))
        (r.valuesAt (columns.map (·.name))) := by
      rw [hnames]
      exact hr
    obtain ⟨hnames', h'⟩ := appendRow_spec hrow h
    have hall := ih hrest (hnames'.trans hnames) h'
    rwa [List.append_assoc, List.singleton_append] at hall

/-- The columns have the keys of the first record, in its order, and one value for each record. -/
theorem columnsOfRecords_spec {first : Record} (hfirst : ∀ p ∈ first, P p.1 first p.2)
    (hrest : ∀ r ∈ rest, List.Forall₂ (fun k v => P k r v) first.keys (r.valuesAt first.keys)) :
    (columnsOfRecords first rest).map (·.name) = first.keys ∧
      ∀ c ∈ columnsOfRecords first rest, List.Forall₂ (P c.name) (first :: rest) c.values := by
  have hstart : ∀ c ∈ first.map fun p => (⟨p.1, [p.2]⟩ : Column),
      List.Forall₂ (P c.name) [first] c.values := by
    intro c hc
    obtain ⟨p, hp, rfl⟩ := List.mem_map.mp hc
    exact .cons (hfirst p hp) .nil
  exact foldl_appendRow_spec hrest (by simp [Record.keys]) hstart

theorem ofColumns_of_level {n : Nat} (hne : columns ≠ []) (level : ∀ c ∈ columns, c.values.length = n) :
    ofColumns columns = ⟨.ok [.fromMemory columns]⟩ := by
  obtain ⟨first, rest, rfl⟩ := List.exists_cons_of_ne_nil hne
  have hnone : (first :: rest).find? (fun c => c.values.length != first.values.length) = none := by
    rw [List.find?_eq_none]
    intro c hc
    simp [level c hc, level first List.mem_cons_self]
  simp only [ofColumns, hnone]
  rfl

theorem ofRecords_spec {first : Record} (hne : first ≠ []) (hfirst : ∀ p ∈ first, P p.1 first p.2)
    (hrest : ∀ r ∈ rest, List.Forall₂ (fun k v => P k r v) first.keys (r.valuesAt first.keys)) :
    ∃ columns, ofRecords (first :: rest) = ⟨.ok [.fromMemory columns]⟩ ∧
      columns.map (·.name) = first.keys ∧
      ∀ c ∈ columns, List.Forall₂ (P c.name) (first :: rest) c.values := by
  obtain ⟨hnames, hvalues⟩ := columnsOfRecords_spec hfirst hrest
  refine ⟨columnsOfRecords first rest, ?_, hnames, hvalues⟩
  have hsome : columnsOfRecords first rest ≠ [] := by
    intro hnil
    rw [hnil] at hnames
    exact hne (List.map_eq_nil_iff.mp hnames.symm)
  obtain ⟨p, ps, rfl⟩ := List.exists_cons_of_ne_nil hne
  exact ofColumns_of_level hsome fun c hc => (hvalues c hc).length_eq.symm

end Columns

/-! ## Records without repeated keys -/

section Distinct

variable {first : Record} {rest : List Record}

/-- If no record has a key twice, each column has the values that the records have with its name. -/
theorem ofRecords_eq (hne : first ≠ []) (distinct : ∀ r ∈ first :: rest, r.keys.Nodup) :
    ofRecords (first :: rest) = ⟨.ok [.fromMemory (first.keys.map fun k =>
      ⟨k, (first :: rest).map fun r => r.first k⟩)]⟩ := by
  obtain ⟨hfirst, hrest⟩ := List.forall_mem_cons.mp distinct
  have gives_eq {r : Record} (h : r.keys.Nodup) {k : String} {v : Value} (hv : r.Gives k v) :
      r.first k = v := (hv.eq_first (Record.hasOne_of_distinct h k)).symm
  obtain ⟨columns, hframe, hnames, hvalues⟩ := ofRecords_spec (P := fun k r v => r.first k = v) hne
    (fun p hp => gives_eq hfirst (.inl hp))
    (fun r hr => (r.gives_valuesAt hfirst).imp fun _ _ hv => gives_eq (hrest r hr) hv)
  have hcolumns : columns = columns.map fun c => ⟨c.name, (first :: rest).map fun r => r.first c.name⟩ := by
    refine (List.map_id columns).symm.trans (List.map_congr_left fun c hc => ?_)
    have hc := hvalues c hc
    rw [← List.forall₂_map_left_iff, List.forall₂_eq_eq_eq] at hc
    rw [hc]
    rfl
  rw [hframe, hcolumns, ← hnames, List.map_map]
  rfl

/-- Records that give each key of the first one the same value make the same frame. -/
theorem ofRecords_congr {rest' : List Record} (hne : first ≠ [])
    (distinct : ∀ r ∈ first :: rest, r.keys.Nodup) (distinct' : ∀ r ∈ rest', r.keys.Nodup)
    (h : List.Forall₂ (fun r r' => ∀ k ∈ first.keys, r'.first k = r.first k) rest rest') :
    ofRecords (first :: rest') = ofRecords (first :: rest) := by
  have hfirst := List.forall_mem_cons.mp distinct
  rw [ofRecords_eq hne distinct, ofRecords_eq hne (List.forall_mem_cons.mpr ⟨hfirst.1, distinct'⟩)]
  have hcolumns : (first.keys.map fun k => (⟨k, (first :: rest').map fun r => r.first k⟩ : Column)) =
      first.keys.map fun k => ⟨k, (first :: rest).map fun r => r.first k⟩ := by
    apply List.map_congr_left
    intro k hk
    have hvalues : rest'.map (fun r => r.first k) = rest.map fun r => r.first k := by
      rw [← List.forall₂_eq_eq_eq, List.forall₂_map_left_iff, List.forall₂_map_right_iff]
      exact h.flip.imp fun r' r heq => heq k hk
    rw [List.map_cons, List.map_cons, hvalues]
  rw [hcolumns]

/-- **Records are transposed.** If the first record has keys, and no record has a key twice, the records make
one source of columns: those of the keys of the first record, in its order, each with one value for each
record. This is the value that the record has with the name of the column, and null if it has not this key.
The frame stays the same if the pairs of further records are put in another order, and if pairs with keys
that the first record has not come to them or leave them. -/
theorem records_transposed (hne : first ≠ []) (distinct : ∀ r ∈ first :: rest, r.keys.Nodup) :
    (∃ columns, ofRecords (first :: rest) = ⟨.ok [.fromMemory columns]⟩ ∧
      columns.map (·.name) = first.keys ∧
      ∀ c ∈ columns, List.Forall₂ (fun r v => r.Gives c.name v) (first :: rest) c.values) ∧
    (∀ rest', List.Forall₂ (fun r r' => r'.Perm r) rest rest' →
      ofRecords (first :: rest') = ofRecords (first :: rest)) ∧
    (∀ rest', (∀ r ∈ rest', r.keys.Nodup) →
      List.Forall₂ (fun r r' => ∀ k ∈ first.keys, r'.pairs k = r.pairs k) rest rest' →
      ofRecords (first :: rest') = ofRecords (first :: rest)) := by
  have hrest := (List.forall_mem_cons.mp distinct).2
  refine ⟨⟨_, ofRecords_eq hne distinct, (List.map_map ..).trans (List.map_id _), ?_⟩, ?_, ?_⟩
  · intro c hc
    obtain ⟨k, -, rfl⟩ := List.mem_map.mp hc
    rw [List.forall₂_map_right_iff, List.forall₂_same]
    exact fun r _ => r.gives_first k
  · intro rest' hperm
    have hboth : List.Forall₂ (fun r' r => r'.keys.Nodup ∧ ∀ k ∈ first.keys, r'.first k = r.first k)
        rest' rest := by
      refine ((List.forall₂_and_left _ _).mpr ⟨hrest, hperm⟩).flip.imp ?_
      rintro r' r ⟨hr, hperm⟩
      exact ⟨(hperm.map _).nodup_iff.mpr hr, fun k _ => Record.first_of_perm hperm hr k⟩
    obtain ⟨distinct', hfirst⟩ := (List.forall₂_and_left _ _).mp hboth
    exact ofRecords_congr hne distinct distinct' hfirst.flip
  · intro rest' distinct' hpairs
    exact ofRecords_congr hne distinct distinct'
      (hpairs.imp fun r r' h k hk => Record.first_congr (h k hk))

end Distinct

/-! ### Invoices -/

def paid : Record := [("no", .int 1), ("paid", .bool true)]

def remarked : Record := [("remark", .str "late"), ("paid", .bool false), ("no", .int 2)]

def unsettled : Record := [("no", .int 3)]

/-- It does not matter where the number of the second invoice stands, nor that it has a remark. -/
theorem records_transposed_invoices :
    (∃ columns, ofRecords [paid, remarked, unsettled] = ⟨.ok [.fromMemory columns]⟩ ∧
      columns.map (·.name) = ["no", "paid"] ∧
      ∀ c ∈ columns, List.Forall₂ (fun r v => r.Gives c.name v) [paid, remarked, unsettled] c.values) ∧
    ofRecords [paid, remarked.reverse, unsettled] = ofRecords [paid, remarked, unsettled] ∧
    ofRecords [paid, remarked.tail, unsettled] = ofRecords [paid, remarked, unsettled] := by
  have hne : paid ≠ [] := List.cons_ne_nil _ _
  have distinct : ∀ r ∈ [paid, remarked, unsettled], r.keys.Nodup := by decide
  obtain ⟨hcolumns, hperm, hextra⟩ := records_transposed hne distinct
  refine ⟨hcolumns, hperm _ ?_, hextra _ (by decide) ?_⟩
  · exact .cons (List.reverse_perm _) (.cons (.refl _) .nil)
  · exact .cons (by decide) (.cons (fun _ _ => rfl) .nil)

/-! ## Records with repeated keys -/

/-- The values that the frame holds in memory under the name of a column. -/
def stored (f : Frame) (name : String) : Option (List Value) :=
  match f.plan with
  | .ok [.fromMemory columns] => (columns.find? fun c => c.name == name).map (·.values)
  | _ => none

/-- The keys that are served before the key. -/
def Record.keysBefore (r : Record) (key : String) : List String := r.keys.takeWhile (· != key)

section Stored

variable {first : Record} {rest : List Record} {key : String}

theorem stored_spec {P : String → Record → Value → Prop} (hkey : key ∈ first.keys)
    (hfirst : ∀ p ∈ first, P p.1 first p.2)
    (hrest : ∀ r ∈ rest, List.Forall₂ (fun k v => P k r v) first.keys (r.valuesAt first.keys)) :
    ∃ values, (ofRecords (first :: rest)).stored key = some values ∧
      List.Forall₂ (P key) (first :: rest) values := by
  have hne : first ≠ [] := fun hnil => List.not_mem_nil (hnil ▸ hkey)
  obtain ⟨columns, hframe, hnames, hvalues⟩ := ofRecords_spec hne hfirst hrest
  rw [← hnames] at hkey
  obtain ⟨d, hd, hname⟩ := List.mem_map.mp hkey
  have hsome : (columns.find? fun c => c.name == key).isSome = true :=
    List.find?_isSome.mpr ⟨d, hd, beq_iff_eq.mpr hname⟩
  obtain ⟨c, hc⟩ := Option.isSome_iff_exists.mp hsome
  have hname : c.name = key := by simpa using List.find?_some hc
  refine ⟨c.values, ?_, hname ▸ hvalues c (List.mem_of_find?_eq_some hc)⟩
  rw [hframe]
  simp only [stored, hc, Option.map_some]

/-- The first pairs with the key are stored, if nothing moves another one in front of them. -/
theorem stored_of_steady (distinct : first.keys.Nodup) (hkey : key ∈ first.keys)
    (steady : ∀ r ∈ rest, r.Steady (first.keysBefore key) key) :
    (ofRecords (first :: rest)).stored key = some ((first :: rest).map fun r => r.first key) := by
  obtain ⟨values, hstored, hvalues⟩ := stored_spec (P := fun k r v => k = key → r.first key = v) hkey
    (fun p hp hk => (Record.Gives.eq_first (.inl (hk ▸ hp)) (Record.hasOne_of_distinct distinct key)).symm)
    (fun r hr => (Record.first_valuesAt distinct (steady r hr)).imp fun _ _ h hk => (h hk).symm)
  have heach : List.Forall₂ (fun r v => r.first key = v) (first :: rest) values :=
    hvalues.imp fun _ _ h => h rfl
  rw [← List.forall₂_map_left_iff, List.forall₂_eq_eq_eq] at heach
  rw [hstored, heach]

/-- **A column is of the pairs with its key.** If the first record has no key twice, the column of one of its
keys has for each record a value that the record has with this key, and null where there is none. It has the
value of the first pair with the key, if each further record has no two values with it, or in front of its
first pair with it no pair of a column that is served before. Where this is so, the column does not depend on
what else is in the records: other keys of the first record may be added, removed and put in another order,
and so may other pairs of the further ones. -/
theorem stored_by_own_pairs (distinct : first.keys.Nodup) (hkey : key ∈ first.keys) :
    (∃ values, (ofRecords (first :: rest)).stored key = some values ∧
      List.Forall₂ (fun r v => r.Gives key v) (first :: rest) values) ∧
    ((∀ r ∈ rest, r.Steady (first.keysBefore key) key) →
      (ofRecords (first :: rest)).stored key = some ((first :: rest).map fun r => r.first key) ∧
      ∀ first' rest', first'.keys.Nodup → key ∈ first'.keys →
        (∀ r ∈ rest', r.Steady (first'.keysBefore key) key) →
        List.Forall₂ (fun r r' => r.pairs key = r'.pairs key) (first :: rest) (first' :: rest') →
        (ofRecords (first' :: rest')).stored key = (ofRecords (first :: rest)).stored key) := by
  refine ⟨?_, fun steady => ⟨stored_of_steady distinct hkey steady, ?_⟩⟩
  · exact stored_spec hkey (fun p hp => .inl hp) fun r _ => r.gives_valuesAt distinct
  · intro first' rest' distinct' hkey' steady' hpairs
    have hvalues : (first :: rest).map (fun r => r.first key) =
        (first' :: rest').map fun r => r.first key := by
      rw [← List.forall₂_eq_eq_eq, List.forall₂_map_left_iff, List.forall₂_map_right_iff]
      exact hpairs.imp fun r r' h => Record.first_congr h
    rw [stored_of_steady distinct hkey steady, stored_of_steady distinct' hkey' steady', hvalues]

end Stored

/-! ### Items with two prices -/

def priced : Record := [("item", .str "oats"), ("price", .int 2)]

def onlyPrice : Record := [("price", .int 2)]

/-- The price comes before the item, so serving the item does not touch it. -/
def repriced : Record := [("price", .int 4), ("item", .str "rye"), ("price", .int 5)]

theorem stored_by_own_pairs_prices :
    (ofRecords [priced, repriced]).stored "price" = some [.int 2, .int 4] ∧
    (ofRecords [onlyPrice, repriced]).stored "price" =
      (ofRecords [priced, repriced]).stored "price" := by
  have distinct : priced.keys.Nodup := by decide
  have hkey : "price" ∈ priced.keys := by decide
  have steady : ∀ r ∈ [repriced], r.Steady (priced.keysBefore "price") "price" :=
    List.forall_mem_singleton.mpr (.inr (by decide))
  have steady' : ∀ r ∈ [repriced], r.Steady (onlyPrice.keysBefore "price") "price" :=
    List.forall_mem_singleton.mpr (.inr (by decide))
  obtain ⟨hvalues, hother⟩ := (stored_by_own_pairs distinct hkey).2 steady
  exact ⟨hvalues, hother onlyPrice [repriced] (by decide) (by decide) steady' (by decide)⟩

/-- Here the item comes first. Where it is served, the last pair takes its place, and the second price comes
    to stand in front of the first one. -/
theorem displaced_pair :
    let moved : Record := [("item", .str "rye"), ("price", .int 4), ("price", .int 5)]
    moved.first "price" = .int 4 ∧
    (ofRecords [onlyPrice, moved]).stored "price" = some [.int 2, .int 4] ∧
    (ofRecords [priced, moved]).stored "price" = some [.int 2, .int 5] := by
  decide

end FramePlan.Frame
