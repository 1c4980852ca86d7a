import FramePlan.Text.Blank
import FramePlan.Text.Search
import Mathlib.Algebra.GroupWithZero.Nat

/-!
# Fields that were joined

Cutting a text at the delimiters undoes joining fields with delimiters between them (`fields_intercalate`), and
with one behind each (`fields_flatMap`), as long as no field holds the delimiter itself.

The last section is about joined fields that are not cut: how long they are, and where a field stands.
-/
namespace FramePlan.Text

variable {d : Char} {field : List Char} {parts : List (List Char)}

theorem fields_of_notMem (h : d ∉ field) : fields d field = [field] := by
  induction field with
  | nil => rfl
  | cons c cs ih =>
    rw [List.mem_cons, not_or] at h
    rw [fields, if_neg (Ne.symm h.1), ih h.2]

theorem fields_append (h : d ∉ field) (rest : List Char) :
    fields d (field ++ d :: rest) = field :: fields d rest := by
  induction field with
  | nil => rw [List.nil_append, fields, if_pos rfl]
  | cons c cs ih =>
    rw [List.mem_cons, not_or] at h
    rw [List.cons_append, fields, if_neg (Ne.symm h.1), ih h.2]

/-- **Fields between delimiters are cut apart again.** -/
theorem fields_intercalate (hne : parts ≠ []) (h : ∀ p ∈ parts, d ∉ p) :
    fields d ([d].intercalate parts) = parts := by
  induction parts with
  | nil => exact absurd rfl hne
  | cons p parts ih =>
    obtain ⟨hp, hrest⟩ := List.forall_mem_cons.mp h
    cases parts with
    | nil => rw [List.intercalate_singleton, fields_of_notMem hp]
    | cons q parts =>
      rw [List.intercalate_cons_cons, List.append_assoc, List.singleton_append, fields_append hp,
        ih (List.cons_ne_nil q parts) hrest]

/-- **Fields with a delimiter behind each are cut apart again**, with an empty one at the end. -/
theorem fields_flatMap (h : ∀ p ∈ parts, d ∉ p) :
    fields d (parts.flatMap fun p => p ++ [d]) = parts ++ [[]] := by
  induction parts with
  | nil => rfl
  | cons p parts ih =>
    obtain ⟨hp, hrest⟩ := List.forall_mem_cons.mp h
    rw [List.flatMap_cons, List.append_assoc, List.singleton_append, fields_append hp, ih hrest,
      List.cons_append]

/-! ## Joined fields -/

/-- Joined fields hold nothing but the delimiter and what the fields hold. -/
theorem notMem_intercalate {x : Char} (hd : x ≠ d) (h : ∀ p ∈ parts, x ∉ p) :
    x ∉ [d].intercalate parts := by
  induction parts with
  | nil => exact List.not_mem_nil
  | cons p parts ih =>
    obtain ⟨hp, hrest⟩ := List.forall_mem_cons.mp h
    cases parts with
    | nil => rwa [List.intercalate_singleton]
    | cons q parts =>
      rw [List.intercalate_cons_cons, List.mem_append, List.mem_append, List.mem_singleton, not_or,
        not_or]
      exact ⟨⟨hp, hd⟩, ih hrest⟩

theorem length_intercalate (hne : parts ≠ []) :
    ([d].intercalate parts).length + 1 = (parts.map fun p => p.length + 1).sum := by
  induction parts with
  | nil => exact absurd rfl hne
  | cons p parts ih =>
    cases parts with
    | nil => simp
    | cons q parts =>
      have hrest := ih (List.cons_ne_nil q parts)
      rw [List.map_cons, List.sum_cons, ← hrest, List.intercalate_cons_cons, List.length_append,
        List.length_append, List.length_singleton]
      omega

/-- A field stands behind those before it, each with its delimiter. -/
theorem take_drop_intercalate {i : Nat} (h : parts[i]? = some field) (rest : List Char) :
    (([d].intercalate parts ++ rest).drop ((parts.take i).map fun p => p.length + 1).sum).take
      field.length = field := by
  induction parts generalizing i with
  | nil => cases h
  | cons p parts ih =>
    cases i with
    | zero =>
      cases h
      cases parts with
      | nil => simp
      | cons q parts => simp [List.intercalate_cons_cons]
    | succ i =>
      rw [List.getElem?_cons_succ] at h
      cases parts with
      | nil => cases h
      | cons q parts =>
        have hbefore : p.length + 1 = (p ++ [d]).length := by simp
        rw [List.intercalate_cons_cons, List.append_assoc, List.take_succ_cons, List.map_cons,
          List.sum_cons, hbefore, ← List.drop_drop, List.drop_left]
        exact ih h

end FramePlan.Text
