import FramePlan.Frame.Source
import Mathlib.Data.List.Forall2
import Mathlib.Data.List.Nodup
import Mathlib.Data.List.Perm.Basic

/-!
# Records that are served

A record serves the names of the columns in order. A pair that is served leaves the record, and the last pair
takes its place: what stood in front of it stays as it is, and what stood behind comes in another order
(`Record.serve_append`).

So a key finds the pairs that the record had with it at first, in some order (`Record.pairs_serve`), and gets
the value of one of them, or null if there is none (`Record.gives_valuesAt`). It gets that of the first one
if no other one can come to stand in front of it (`Record.first_valuesAt`).
-/
namespace FramePlan.Frame.Record

variable {r s before after front back : Record} {names : List String} {key c : String} {v w : Value}

/-! ## Pairs with a key -/

def keys (r : Record) : List String := r.map (·.1)

def pairs (r : Record) (key : String) : Record := r.filter fun p => p.1 == key

/-- The value of the first pair with the key, null if there is none. -/
def first (r : Record) (key : String) : Value := ((r.pairs key).head?.map (·.2)).getD .null

/-- The record has the value with the key, or it has not the key and the value is null. -/
def Gives (r : Record) (key : String) (v : Value) : Prop :=
  (key, v) ∈ r ∨ (key ∉ r.keys ∧ v = .null)

/-- The record has no two values with the key. -/
def HasOne (r : Record) (key : String) : Prop :=
  ∀ v w : Value, (key, v) ∈ r → (key, w) ∈ r → v = w

theorem mem_pairs : (key, v) ∈ r.pairs key ↔ (key, v) ∈ r := by simp [pairs]

theorem pairs_eq_nil_iff : r.pairs key = [] ↔ key ∉ r.keys := by
  rw [pairs, List.filter_eq_nil_iff, keys, List.mem_map, not_exists]
  refine forall_congr' fun p => ?_
  rw [not_and, beq_iff_eq]

theorem pairs_append (r s : Record) (key : String) :
    Record.pairs (r ++ s) key = r.pairs key ++ s.pairs key := List.filter_append ..

theorem keys_append (r s : Record) : Record.keys (r ++ s) = r.keys ++ s.keys := List.map_append

theorem not_mem_keys_append : key ∉ Record.keys (r ++ s) ↔ key ∉ r.keys ∧ key ∉ s.keys := by
  rw [keys_append, List.mem_append, not_or]

theorem gives_iff : r.Gives key v ↔ (key, v) ∈ r.pairs key ∨ (r.pairs key = [] ∧ v = .null) := by
  rw [Gives, mem_pairs, pairs_eq_nil_iff]

/-- What a record gives a key is decided by its pairs with the key, in any order. -/
theorem Gives.of_perm (h : r.Gives key v) (hperm : (r.pairs key).Perm (s.pairs key)) :
    s.Gives key v := by
  rw [gives_iff] at h ⊢
  refine h.imp hperm.mem_iff.mp ?_
  rintro ⟨hnil, hv⟩
  rw [hnil, List.nil_perm] at hperm
  exact ⟨hperm, hv⟩

theorem gives_first (r : Record) (key : String) : r.Gives key (r.first key) := by
  rw [gives_iff]
  cases h : r.pairs key with
  | nil => exact .inr ⟨rfl, by simp [first, h]⟩
  | cons p ps =>
    have hp : p ∈ r.pairs key := by
      rw [h]
      exact List.mem_cons_self
    have hkey : p.1 = key := by simpa using (List.mem_filter.mp hp).2
    have hvalue : r.first key = p.2 := by simp [first, h]
    exact .inl (List.mem_cons.mpr (.inl (Prod.ext hkey.symm hvalue)))

theorem Gives.eq_first (h : r.Gives key v) (one : r.HasOne key) : v = r.first key := by
  obtain hv | ⟨hnone, rfl⟩ := h
  · obtain hfirst | ⟨hnone, -⟩ := r.gives_first key
    · exact one _ _ hv hfirst
    · exact absurd (List.mem_map_of_mem hv) hnone
  · rw [first, pairs_eq_nil_iff.mpr hnone]
    rfl

theorem hasOne_of_distinct (distinct : r.keys.Nodup) (key : String) : r.HasOne key := by
  intro v w hv hw
  have heq : (key, v) = (key, w) := List.inj_on_of_nodup_map distinct hv hw rfl
  exact (Prod.mk.inj heq).2

theorem first_of_perm (h : r.Perm s) (distinct : s.keys.Nodup) (key : String) :
    r.first key = s.first key :=
  ((r.gives_first key).of_perm (h.filter _)).eq_first (hasOne_of_distinct distinct key)

theorem first_congr (h : r.pairs key = s.pairs key) : r.first key = s.first key := by
  rw [first, first, h]

theorem first_append (h : key ∉ before.keys) :
    Record.first (before ++ (key, v) :: after) key = v := by
  rw [first, pairs_append, pairs_eq_nil_iff.mpr h]
  simp [pairs]

/-! ## Serving a key -/

theorem exists_append_of_mem_keys (h : key ∈ r.keys) :
    ∃ before v after, r = before ++ (key, v) :: after ∧ key ∉ Record.keys before := by
  obtain ⟨front, back, heq, hfront⟩ := List.eq_append_cons_of_mem h
  obtain ⟨before, rest, rfl, rfl, hrest⟩ := List.map_eq_append_iff.mp heq
  obtain ⟨⟨_, v⟩, after, rfl, rfl, -⟩ := List.map_eq_cons_iff.mp hrest
  exact ⟨before, v, after, rfl, hfront⟩

theorem removeSwap_append (before after : Record) (p : String × Value) :
    ∃ after', after'.Perm after ∧
      Record.removeSwap (before ++ p :: after) before.length = before ++ after' := by
  obtain rfl | ⟨mid, last, rfl⟩ := List.eq_nil_or_concat after
  · exact ⟨[], .refl _, by simp [removeSwap]⟩
  · refine ⟨last :: mid, ?_, ?_⟩
    · rw [List.concat_eq_append]
      exact (List.perm_append_singleton last mid).symm
    · have hlast : (before ++ p :: (mid ++ [last])).getLast? = some last := by
        rw [← List.cons_append, ← List.append_assoc, List.getLast?_concat]
      have hset : (before ++ p :: (mid ++ [last])).set before.length last =
          (before ++ last :: mid) ++ [last] := by
        rw [List.set_append_right before.length last (Nat.le_refl _), Nat.sub_self, List.set_cons_zero,
          List.append_assoc, List.cons_append]
      rw [List.concat_eq_append, removeSwap, hlast]
      exact (congrArg List.dropLast hset).trans List.dropLast_concat

theorem findIdx?_of_not_mem (h : key ∉ r.keys) : r.findIdx? (fun p => p.1 == key) = none := by
  rw [List.findIdx?_eq_none_iff]
  intro p hp
  exact beq_false_of_ne fun hkey => h (hkey ▸ List.mem_map_of_mem hp)

theorem serve_of_not_mem (h : key ∉ r.keys) : r.serve key = (.null, r) := by
  rw [serve, findIdx?_of_not_mem h]

/-- The first pair with the key is served. What stands in front of it stays, and what stands behind comes in
    another order. -/
theorem serve_append (v : Value) (after : Record) (h : key ∉ before.keys) :
    ∃ after', after'.Perm after ∧
      Record.serve (before ++ (key, v) :: after) key = (v, before ++ after') := by
  obtain ⟨after', hperm, hremove⟩ := removeSwap_append before after (key, v)
  have hindex : (before ++ (key, v) :: after).findIdx? (fun p => p.1 == key) = some before.length := by
    simp [List.findIdx?_append, findIdx?_of_not_mem h, List.findIdx?_cons]
  refine ⟨after', hperm, ?_⟩
  rw [serve, hindex]
  simp [hremove]

theorem serve_cases (r : Record) (key : String) :
    (key ∉ r.keys ∧ r.serve key = (.null, r)) ∨
    ∃ before v after after', r = before ++ (key, v) :: after ∧ key ∉ Record.keys before ∧
      after'.Perm after ∧ r.serve key = (v, before ++ after') := by
  by_cases h : key ∈ r.keys
  · obtain ⟨before, v, after, rfl, hbefore⟩ := exists_append_of_mem_keys h
    obtain ⟨after', hperm, hserve⟩ := serve_append v after hbefore
    exact .inr ⟨before, v, after, after', rfl, hbefore, hperm, hserve⟩
  · exact .inl ⟨h, serve_of_not_mem h⟩

theorem fst_serve (r : Record) (key : String) : (r.serve key).1 = r.first key := by
  obtain ⟨hnone, hserve⟩ | ⟨before, v, after, after', rfl, hbefore, -, hserve⟩ := r.serve_cases key
  · rw [hserve, first, pairs_eq_nil_iff.mpr hnone]
    rfl
  · rw [hserve, first_append hbefore]

/-- Serving a key leaves the pairs with another one, in some order. -/
theorem pairs_serve (r : Record) (hc : c ≠ key) : ((r.serve key).2.pairs c).Perm (r.pairs c) := by
  obtain ⟨-, hserve⟩ | ⟨before, v, after, after', rfl, -, hperm, hserve⟩ := r.serve_cases key
  · rw [hserve]
  · have hskip : Record.pairs ((key, v) :: after) c = Record.pairs after c := by
      simp [pairs, hc.symm]
    rw [hserve, pairs_append, pairs_append, hskip]
    exact (hperm.filter _).append_left _

theorem serve_append_left (back : Record) (h : key ∉ front.keys) :
    ∃ back', (Record.serve (front ++ back) key).2 = front ++ back' := by
  obtain ⟨hback, -⟩ | ⟨before, v, after, -, rfl, hbefore, -, -⟩ := serve_cases back key
  · exact ⟨back, by rw [serve_of_not_mem (not_mem_keys_append.mpr ⟨h, hback⟩)]⟩
  · have hboth : key ∉ Record.keys (front ++ before) := not_mem_keys_append.mpr ⟨h, hbefore⟩
    obtain ⟨after', -, hserve⟩ := serve_append v after hboth
    exact ⟨before ++ after', by rw [← List.append_assoc, hserve, List.append_assoc]⟩

/-! ## Serving keys in order -/

theorem valuesAt_cons (r : Record) (key : String) (names : List String) :
    r.valuesAt (key :: names) = r.first key :: (r.serve key).2.valuesAt names := by
  rw [← fst_serve]
  rfl

theorem length_valuesAt (r : Record) (names : List String) : (r.valuesAt names).length = names.length := by
  induction names generalizing r with
  | nil => rfl
  | cons key names ih => rw [valuesAt_cons, List.length_cons, ih, List.length_cons]

/-- Served in any order, distinct keys get values that the record gives them. The keys that are still to be
    served find the pairs of the record `s` at the start. -/
theorem gives_valuesAt_of_pairs (distinct : names.Nodup)
    (h : ∀ c ∈ names, (r.pairs c).Perm (s.pairs c)) : List.Forall₂ s.Gives names (r.valuesAt names) := by
  induction names generalizing r with
  | nil => exact .nil
  | cons key names ih =>
    obtain ⟨hkey, distinct⟩ := List.nodup_cons.mp distinct
    obtain ⟨hhead, htail⟩ := List.forall_mem_cons.mp h
    rw [valuesAt_cons]
    refine .cons ((r.gives_first key).of_perm hhead) (ih distinct ?_)
    intro c hc
    have hne : c ≠ key := fun heq => hkey (heq ▸ hc)
    exact (r.pairs_serve hne).trans (htail c hc)

theorem gives_valuesAt (r : Record) (distinct : names.Nodup) :
    List.Forall₂ r.Gives names (r.valuesAt names) :=
  gives_valuesAt_of_pairs distinct fun _ _ => .refl _

/-- The pair with `c` stays in its place as long as no key of a pair in front of it is served. -/
theorem valuesAt_of_front (hc : c ∉ front.keys)
    (h : ∀ key ∈ names.takeWhile (· != c), key ∉ front.keys) (distinct : names.Nodup) :
    List.Forall₂ (fun k u => k = c → u = v) names
      (Record.valuesAt (front ++ (c, v) :: back) names) := by
  induction names generalizing back with
  | nil => exact .nil
  | cons key names ih =>
    obtain ⟨hkey, distinct⟩ := List.nodup_cons.mp distinct
    rw [valuesAt_cons]
    by_cases heq : key = c
    · -- Behind it the key does not come again.
      subst heq
      refine .cons (fun _ => first_append hc) ?_
      rw [List.forall₂_iff_zip]
      refine ⟨(length_valuesAt _ names).symm, ?_⟩
      intro k u hmem hk
      exact absurd (hk ▸ (List.of_mem_zip hmem).1) hkey
    · rw [List.takeWhile_cons_of_pos (by simpa using heq), List.forall_mem_cons] at h
      obtain ⟨hfront, h⟩ := h
      have hall : key ∉ Record.keys (front ++ [(c, v)]) :=
        not_mem_keys_append.mpr ⟨hfront, by simpa [keys] using heq⟩
      obtain ⟨back', hserve⟩ := serve_append_left back hall
      rw [List.append_assoc, List.singleton_append, List.append_assoc, List.singleton_append] at hserve
      rw [hserve]
      exact .cons (fun hk => absurd hk heq) (ih h distinct)

/-- The record has no two values with the key, or none of the keys that are served before it is that of a
    pair in front of its first pair with the key. -/
def Steady (r : Record) (earlier : List String) (key : String) : Prop :=
  r.HasOne key ∨ ∀ p ∈ r.takeWhile (fun p => p.1 != key), p.1 ∉ earlier

theorem first_valuesAt (distinct : names.Nodup) (h : r.Steady (names.takeWhile (· != c)) c) :
    List.Forall₂ (fun k u => k = c → u = r.first c) names (r.valuesAt names) := by
  have ofOne (one : r.HasOne c) :
      List.Forall₂ (fun k u => k = c → u = r.first c) names (r.valuesAt names) := by
    refine (r.gives_valuesAt distinct).imp ?_
    rintro k u hu rfl
    exact hu.eq_first one
  obtain one | hfront := h
  · exact ofOne one
  by_cases hc : c ∈ r.keys
  · obtain ⟨front, v, back, rfl, hnot⟩ := exists_append_of_mem_keys hc
    have htake : (front ++ (c, v) :: back).takeWhile (fun p => p.1 != c) = front := by
      rw [List.takeWhile_append_of_pos, List.takeWhile_cons_of_neg (by simp), List.append_nil]
      intro p hp
      exact bne_iff_ne.mpr fun hkey => hnot (hkey ▸ List.mem_map_of_mem hp)
    rw [htake] at hfront
    rw [first_append hnot]
    refine valuesAt_of_front hnot ?_ distinct
    intro key hkey hmem
    obtain ⟨p, hp, rfl⟩ := List.mem_map.mp hmem
    exact hfront p hp hkey
  · exact ofOne fun _ _ hv => absurd (List.mem_map_of_mem hv) hc

end FramePlan.Frame.Record
