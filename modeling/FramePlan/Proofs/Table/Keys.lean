import FramePlan.Eval.Group
import FramePlan.Proofs.Table.Typing
import FramePlan.Proofs.Text.Decimal
import Mathlib.Data.List.Basic

/-!
# Key texts

Rows are compared by the texts of their key cells, put one after the other with a separator between
them (`rowKey`). Such a text tells which cells it was made of (`rowKey_inj`) under two conditions.

1. Each cell is told by its own text. This is so for integers, counts, texts, truth values and nulls
   (`Cell.key_inj`): the first letter says what kind of cell it is, and the rest which one. Numbers
   are left out, since a whole number has the key of an integer, and so are lists.
2. No cell but the last has the separator in its text. Of the cells above only a text can have it
   (`Cell.separator_notMem_key`), so it is the texts that have to be free of it
   (`Series.Unseparated`).

The second condition is not checked anywhere, and two rows that break it can have one key text.
-/
namespace FramePlan

theorem Value.boolText_inj : ∀ {a b : Bool}, boolText a = boolText b → a = b := by decide

/-! ## Keys of cells -/

namespace Cell

/-- The cell is no number and no list, so that no other cell has its key. -/
def IsExact : Cell → Prop
  | .float _ => False
  | .list _ => False
  | _ => True

/-- The letter that the key of an exact cell begins with. -/
def keyLetter : Cell → Char
  | .int _ => 'i'
  | .str _ => 's'
  | .bool _ => 'b'
  | _ => 'n'

/-- The key of an exact cell behind its letter. -/
def keyBody : Cell → String
  | .int i => Integer.toText i
  | .str s => s
  | .bool b => Value.boolText b
  | _ => ""

theorem toList_key {c : Cell} (hc : c.IsExact) :
    c.key.toList = c.keyLetter :: c.keyBody.toList := by
  cases c with
  | float x => exact hc.elim
  | list items => exact hc.elim
  | null => rfl
  | _ => exact String.toList_append

/-- **An exact cell is told by its key.** -/
theorem key_inj {c d : Cell} (hc : c.IsExact) (hd : d.IsExact) : c.key = d.key ↔ c = d := by
  refine ⟨?_, congrArg key⟩
  intro h
  rw [← String.toList_inj, toList_key hc, toList_key hd, List.cons.injEq, String.toList_inj] at h
  obtain ⟨letter, body⟩ := h
  -- Cells of two kinds differ in the letter already, and those of one kind in what follows.
  cases c <;> cases d <;> simp_all [IsExact, keyLetter, keyBody]
  · exact Integer.toText_inj.mp body
  · exact Value.boolText_inj body

theorem map_key_inj : ∀ {cs ds : List Cell}, (∀ c ∈ cs, c.IsExact) → (∀ d ∈ ds, d.IsExact) →
    (cs.map key = ds.map key ↔ cs = ds)
  | [], [], _, _ => by simp
  | [], d :: ds, _, _ => by simp
  | c :: cs, [], _, _ => by simp
  | c :: cs, d :: ds, hc, hd => by
    obtain ⟨hc, hcs⟩ := List.forall_mem_cons.mp hc
    obtain ⟨hd, hds⟩ := List.forall_mem_cons.mp hd
    rw [List.map_cons, List.map_cons, List.cons.injEq, List.cons.injEq, key_inj hc hd,
      map_key_inj hcs hds]

/-- The separator stands in the key of an exact cell only if the cell is a text that has it. -/
theorem separator_notMem_key {c : Cell} (hc : c.IsExact)
    (text : ∀ s, c = .str s → '\x1f' ∉ s.toList) : '\x1f' ∉ c.key.toList := by
  rw [toList_key hc, List.mem_cons, not_or]
  cases c with
  | int i =>
    refine ⟨by simp [keyLetter], ?_⟩
    intro h
    obtain h | h := Integer.mem_toText h <;> exact absurd h (by decide)
  | str s => exact ⟨by simp [keyLetter], text s rfl⟩
  | bool b => cases b <;> decide
  | null => decide
  | float x => exact hc.elim
  | list items => exact hc.elim

end Cell

/-! ## Separated texts -/

theorem append_separator_inj {sep : Char} : ∀ {x y u v : List Char}, sep ∉ x → sep ∉ y →
    x ++ sep :: u = y ++ sep :: v → x = y ∧ u = v
  | [], [], _, _, _, _, h => ⟨rfl, (List.cons.inj h).2⟩
  | [], d :: y, _, _, _, hy, h => absurd (List.cons.inj h).1 (List.ne_of_not_mem_cons hy)
  | c :: x, [], _, _, hx, _, h => absurd (List.cons.inj h).1.symm (List.ne_of_not_mem_cons hx)
  | c :: x, d :: y, _, _, hx, hy, h => by
    obtain ⟨rfl, ht⟩ := List.cons.inj h
    obtain ⟨rfl, rfl⟩ := append_separator_inj (List.not_mem_of_not_mem_cons hx)
      (List.not_mem_of_not_mem_cons hy) ht
    exact ⟨rfl, rfl⟩

/-- As many texts with separators between them, of which only the last ones can hold a separator. -/
theorem intercalate_inj {sep : Char} : ∀ {xs ys : List (List Char)}, xs.length = ys.length →
    (∀ x ∈ xs.dropLast, sep ∉ x) → (∀ y ∈ ys.dropLast, sep ∉ y) →
    ([sep].intercalate xs = [sep].intercalate ys ↔ xs = ys)
  | [], [], _, _, _ => by simp
  | [x], [y], _, _, _ => by simp
  | x :: x' :: xs, y :: y' :: ys, hl, hx, hy => by
    refine ⟨?_, congrArg _⟩
    intro h
    rw [List.dropLast_cons_cons, List.forall_mem_cons] at hx hy
    rw [List.intercalate_cons_cons, List.intercalate_cons_cons, List.append_assoc,
      List.append_assoc, List.singleton_append, List.singleton_append] at h
    obtain ⟨rfl, ht⟩ := append_separator_inj hx.1 hy.1 h
    rw [(intercalate_inj (Nat.succ.inj hl) hx.2 hy.2).mp ht]

/-! ## Key columns -/

namespace Series

open Table

/-- A column of integers, counts, texts, truth values or nulls. -/
structure IsKey (s : Series) : Prop where
  dtype : s.dtype = .i64 ∨ s.dtype = .u32 ∨ s.dtype = .str ∨ s.dtype = .bool ∨ s.dtype = .null
  typed : SeriesTyped s

/-- No text of the column holds the separator. -/
def Unseparated (s : Series) : Prop := ∀ text, .str text ∈ s.cells → '\x1f' ∉ text.toList

variable {s : Series}

theorem IsKey.exact (h : s.IsKey) (row : Nat) : (s.cellAt row).IsExact := by
  obtain ⟨hd, typed⟩ := h
  have hc := has_cellAt typed row
  cases hcell : s.cellAt row with
  | float x =>
    rw [hcell] at hc
    obtain hd | hd | hd | hd | hd := hd <;> exact absurd (hd.symm.trans hc) (by decide)
  | list items =>
    rw [hcell] at hc
    obtain hd | hd | hd | hd | hd := hd <;> exact absurd (hd.symm.trans hc) (by decide)
  | _ => trivial

theorem Unseparated.cellAt (h : s.Unseparated) {row : Nat} {text : String}
    (hc : s.cellAt row = .str text) : '\x1f' ∉ text.toList := by
  obtain h0 | hm := s.cellAt_cases row
  · rw [hc] at h0
    cases h0
  · exact h text (hc ▸ hm)

end Series

/-! ## Key texts of rows -/

namespace Eval

def keyTuple (keys : List Series) (row : Nat) : List Cell := keys.map (·.cellAt row)

/-- Columns whose rows are told by their key texts. -/
structure KeyColumns (keys : List Series) : Prop where
  all : ∀ k ∈ keys, k.IsKey
  /-- Only texts of the last column can hold the separator. -/
  unseparated : ∀ k ∈ keys.dropLast, k.Unseparated

theorem toList_rowKey (keys : List Series) (row : Nat) :
    (rowKey keys row).toList =
      ['\x1f'].intercalate (((keyTuple keys row).map Cell.key).map String.toList) := by
  have hs : keySeparator.toList = ['\x1f'] := by decide
  rw [rowKey, String.toList_intercalate, hs, keyTuple, List.map_map, List.map_map, List.map_map]
  rfl

variable {ks ls : List Series} {i j : Nat}

theorem KeyColumns.exact (h : KeyColumns ks) : ∀ c ∈ keyTuple ks i, c.IsExact := by
  intro c hc
  obtain ⟨k, hk, rfl⟩ := List.mem_map.mp hc
  exact (h.all k hk).exact i

theorem KeyColumns.separator_notMem (h : KeyColumns ks) :
    ∀ t ∈ (((keyTuple ks i).map Cell.key).map String.toList).dropLast, '\x1f' ∉ t := by
  intro t ht
  rw [keyTuple, List.map_map, List.map_map, ← List.map_dropLast] at ht
  obtain ⟨k, hk, rfl⟩ := List.mem_map.mp ht
  exact Cell.separator_notMem_key ((h.all k (List.dropLast_subset ks hk)).exact i)
    fun s hs => (h.unseparated k hk).cellAt hs

/-- **Rows of key columns are told by their key texts.** -/
theorem rowKey_inj (hk : KeyColumns ks) (hl : KeyColumns ls) (count : ks.length = ls.length) :
    rowKey ks i = rowKey ls j ↔ keyTuple ks i = keyTuple ls j := by
  have hlen : (((keyTuple ks i).map Cell.key).map String.toList).length =
      (((keyTuple ls j).map Cell.key).map String.toList).length := by
    simp only [keyTuple, List.length_map, count]
  rw [← String.toList_inj, toList_rowKey, toList_rowKey,
    intercalate_inj hlen hk.separator_notMem hl.separator_notMem,
    List.map_inj_right fun _ _ => String.toList_inj.mp, Cell.map_key_inj hk.exact hl.exact]

end Eval
end FramePlan
