import FramePlan.Proofs.Eval.SeriesTyping
import FramePlan.Proofs.Integer.Division
import FramePlan.Text.Utf8

/-!
# Counts

A column of counts has the type `u32`, and its cells are words like those of any other integer column. That
they are unsigned numbers of thirty-two bits is kept by what is done to them: it is a property of cells that
a type asks for (`Dtype.Admits`), it goes over to wider types, and each operator keeps it for reasons of its
own. A difference and a negative leave the type, a quotient and a remainder of counts are counts, a length is
one if the text or the column is not too long.

Two operators do not keep it. A sum and a product of counts stay of the type and are checked against the
range of words alone, and the sum of a column of counts likewise. They are asked to be counts where they are
used (`counted_binary`, `counted_aggregate`).
-/
namespace FramePlan

def maxCount : Nat := 4294967295

namespace Cell

/-- The cell is null or an unsigned number of thirty-two bits. -/
def IsCount : Cell → Prop
  | .int i => 0 ≤ i.toInt ∧ i.toInt ≤ maxCount
  | .null => True
  | _ => False

instance : DecidablePred IsCount := fun c =>
  match c with
  | .int _ => inferInstanceAs (Decidable (_ ∧ _))
  | .null => isTrue trivial
  | .float _ => isFalse id
  | .str _ => isFalse id
  | .bool _ => isFalse id
  | .list _ => isFalse id

/-- The cell is no text with more bytes than can be counted. -/
def IsShort : Cell → Prop
  | .str text => Text.Utf8.byteCount text ≤ maxCount
  | _ => True

instance : DecidablePred IsShort := fun c =>
  match c with
  | .str _ => inferInstanceAs (Decidable (_ ≤ _))
  | .int _ => isTrue trivial
  | .null => isTrue trivial
  | .float _ => isTrue trivial
  | .bool _ => isTrue trivial
  | .list _ => isTrue trivial

theorem isCount_ofInt? {z : Int} (h : 0 ≤ z ∧ z ≤ maxCount) : (ofInt? (Integer.ofInt? z)).IsCount := by
  cases hw : Integer.ofInt? z with
  | none => trivial
  | some w =>
    have hz := Integer.toInt_of_ofInt? hw
    subst hz
    exact h

theorem isCount_ofCount {n : Nat} (h : n ≤ maxCount) : (ofCount n).IsCount := by
  unfold maxCount at h
  have hn : (Int64.ofNat n).toInt = n := Int64.toInt_ofNat_of_lt (by omega)
  unfold ofCount IsCount maxCount
  omega

end Cell

namespace Dtype

/-- What a column of the type holds: counts if it is a column of counts, nulls if it has no type, and
    anything else. -/
def Admits : Dtype → Cell → Prop
  | .u32, c => c.IsCount
  | .null, c => c = .null
  | _, _ => True

instance (d : Dtype) : DecidablePred d.Admits := fun c =>
  match d with
  | .u32 => inferInstanceAs (Decidable c.IsCount)
  | .null => inferInstanceAs (Decidable (c = .null))
  | .i64 => isTrue trivial
  | .f64 => isTrue trivial
  | .str => isTrue trivial
  | .bool => isTrue trivial
  | .listStr => isTrue trivial

variable {a b d : Dtype} {c : Cell}

theorem admits_null : d.Admits .null := by cases d <;> trivial

theorem admits_of_ne (hu : d ≠ .u32) (hn : d ≠ .null) : d.Admits c := by
  cases d <;> trivial

theorem Admits.isCount (h : d.Admits c) (hd : d = .u32 ∨ d = .null) : c.IsCount := by
  obtain rfl | rfl := hd
  · exact h
  · cases h
    trivial

/-- Types are unified to that of counts only from it and no type, and to no type from no other. -/
theorem unify?_counts (h : a.unify? b = some d) :
    (d = .u32 → a = .u32 ∨ a = .null) ∧ (d = .null → a = .null) := by
  cases a <;> cases b <;> cases h <;> simp

theorem Admits.widen (h : a.unify? b = some d) (hc : a.Admits c) : d.Admits c := by
  obtain ⟨hu, hn⟩ := unify?_counts h
  cases d with
  | u32 => exact hc.isCount (hu rfl)
  | null =>
    obtain rfl := hn rfl
    exact hc
  | _ => trivial

theorem Admits.widen_right (h : a.unify? b = some d) (hc : b.Admits c) : d.Admits c :=
  hc.widen ((unify?_comm b a).trans h)

/-- Integers become numbers only where numbers are admitted. -/
theorem Admits.coerced (h : d.Admits c) : d.Admits (coerceCell d c) := by
  cases d with
  | u32 => exact h
  | null => exact h
  | _ => trivial

end Dtype

/-! ## Series -/

namespace Series

variable {s full : Series} {n : Nat} {b d : Dtype} {c : Cell} {name : String} {cells : List Cell}

/-- No text of the series has more bytes than can be counted. -/
def Short (s : Series) : Prop := ∀ c ∈ s.cells, c.IsShort

/-- The type of the series admits all its cells. -/
def Counted (s : Series) : Prop := ∀ c ∈ s.cells, s.dtype.Admits c

instance : DecidablePred Short := fun s => inferInstanceAs (Decidable (∀ c ∈ s.cells, c.IsShort))

instance : DecidablePred Counted := fun s =>
  inferInstanceAs (Decidable (∀ c ∈ s.cells, s.dtype.Admits c))

theorem counted_of_ne (hu : d ≠ .u32) (hn : d ≠ .null) : Counted ⟨name, d, cells⟩ :=
  fun _ _ => Dtype.admits_of_ne hu hn

theorem counted_scalar (h : d.Admits c) : (scalar name d c).Counted := by
  intro b hb
  rw [List.mem_singleton.mp hb]
  exact h

theorem counted_coerce (h : ∀ c ∈ cells, d.Admits c) : Counted ⟨name, d, coerce d cells⟩ := by
  intro c hc
  obtain ⟨b, hb, rfl⟩ := List.mem_map.mp hc
  exact (h b hb).coerced

theorem counted_map {f : Cell → Cell} (hf : ∀ {c}, s.dtype.Admits c → s.dtype.Admits (f c))
    (h : s.Counted) : Counted { s with cells := s.cells.map f } := by
  intro c hc
  obtain ⟨b, hb, rfl⟩ := List.mem_map.mp hc
  exact hf (h b hb)

namespace Counted

theorem cellAt (h : s.Counted) (row : Nat) : s.dtype.Admits (s.cellAt row) :=
  Holds.cellAt (fun _ => Dtype.admits_null) h row

theorem take (h : s.Counted) (rows : List Nat) : (s.take rows).Counted :=
  Holds.take (fun _ => Dtype.admits_null) h rows

theorem broadcast (h : s.Counted) (n : Nat) : Yields (s.broadcast n) Counted := Holds.broadcast h n

end Counted
end Series

/-! ## Operators -/

namespace Eval

open Series

variable {s l r : Series} {a b d : Dtype} {x y : Cell} {i j : Int64}

theorem counted_literal (v : Value) : (literal v).Counted := by
  refine counted_scalar ?_
  cases v with
  | null => rfl
  | _ => trivial

theorem counted_unary (op : UnaryOp) (h : s.Counted) : Yields (unary op s) Counted := by
  cases op with
  | isNull => exact .ok (counted_of_ne (by decide) (by decide))
  | isNotNull => exact .ok (counted_of_ne (by decide) (by decide))
  | not => exact .ite (fun _ => .ok (counted_of_ne (by decide) (by decide))) fun _ => .error _
  | neg =>
    -- A column of counts becomes one of integers, and one without type holds only nulls.
    refine .ite (fun _ => .ok fun c hc => ?_) fun _ => .error _
    obtain ⟨e, he, rfl⟩ := List.mem_map.mp hc
    have hadm := h e he
    generalize s.dtype = d at hadm ⊢
    cases d with
    | null =>
      cases hadm
      rfl
    | _ => trivial

theorem isCount_intArith {op : BinaryOp} (hx : (Cell.int i).IsCount) (hy : (Cell.int j).IsCount)
    (hop : op = .div ∨ op = .mod) : (Cell.ofInt? (intArith op i j)).IsCount := by
  obtain ⟨hi, hi'⟩ := hx
  obtain ⟨hj, hj'⟩ := hy
  obtain rfl | rfl := hop
  · rw [intArith, Integer.floorDiv?_eq]
    split_ifs with hzero
    · trivial
    · refine Cell.isCount_ofInt? ?_
      rw [Int.fdiv_eq_ediv_of_nonneg _ hj]
      exact ⟨Int.ediv_nonneg hi hj, Int.le_trans (Int.ediv_le_self _ hi) hi'⟩
  · simp only [intArith]
    by_cases hd : Integer.divides i j = true
    · obtain ⟨q, r, -, hr, hfloors⟩ := Integer.exists_floored hd
      obtain ⟨-, hsign, hlt⟩ := hfloors
      rw [hr]
      exact ⟨by omega, by omega⟩
    · rw [Integer.floorMod?, if_neg hd]
      trivial

/-- Arithmetic gives a column of counts of two of them, unless it is a subtraction, or else of nulls. -/
theorem arithType_counts {op : BinaryOp} (h : arithType op a b = .ok .u32) :
    a = .null ∨ b = .null ∨ a = .u32 ∧ b = .u32 ∧ op ≠ .sub := by
  unfold arithType at h
  split_ifs at h with hnulls hleft hright htexts hcounts
  · exact .inl hnulls.1
  · exact .inl hleft.1
  · exact .inr (.inl hright.1)
  · cases h
  · exact .inr (.inr hcounts)
  · cases h
  · cases h

theorem arithType_ne_null {op : BinaryOp} : arithType op a b ≠ .ok .null := by
  unfold arithType
  split_ifs with hnulls hleft hright
  · simp
  · rintro ⟨⟩
    cases hleft.2
  · rintro ⟨⟩
    cases hright.2
  all_goals simp

theorem arith_null (op : BinaryOp) : arith op x .null = .null := by cases x <;> rfl

/-- A sum and a product of counts are counts where the one who asks sees to it. -/
theorem admits_cellOp {op : BinaryOp} (hx : a.Admits x) (hy : b.Admits y)
    (hop : ¬((op = .add ∨ op = .mul) ∧ a = .u32 ∧ b = .u32)) (h : resultType op a b = .ok d) :
    d.Admits (cellOp op x y) := by
  unfold resultType at h
  unfold cellOp
  cases hf : family op with
  | connective =>
    simp only [hf] at h
    split_ifs at h
    cases h
    trivial
  | comparison =>
    simp only [hf] at h
    split_ifs at h
    cases h
    trivial
  | arithmetic =>
    simp only [hf] at h ⊢
    cases d with
    | null => exact absurd h arithType_ne_null
    | u32 =>
      obtain rfl | rfl | ⟨rfl, rfl, hsub⟩ := arithType_counts h
      · cases hx
        trivial
      · cases hy
        rw [arith_null]
        trivial
      · have hdiv : op = .div ∨ op = .mod := by
          cases op <;> simp_all [family]
        cases x with
        | int i =>
          cases y with
          | int j => exact isCount_intArith hx hy hdiv
          | null => trivial
          | _ => cases hy
        | null => trivial
        | _ => cases hx
    | _ => trivial

/-- A series of two. A sum and a product of two columns of counts are to be counted for themselves. -/
theorem counted_binary {op : BinaryOp} (hl : l.Counted) (hr : r.Counted) (h : binary op l r = .ok s)
    (hcounts : (op = .add ∨ op = .mul) → l.dtype = .u32 → r.dtype = .u32 → s.Counted) : s.Counted := by
  by_cases hop : (op = .add ∨ op = .mul) ∧ l.dtype = .u32 ∧ r.dtype = .u32
  · exact hcounts hop.1 hop.2.1 hop.2.2
  · obtain ⟨⟨l', r'⟩, hal, h⟩ := bind_eq_ok.mp h
    obtain ⟨l₁, hl', hal⟩ := bind_eq_ok.mp hal
    obtain ⟨r₁, hr', hal⟩ := bind_eq_ok.mp hal
    cases hal
    obtain ⟨d, hd, h⟩ := bind_eq_ok.mp h
    cases h
    have hleft : l'.Counted := hl.broadcast _ l' hl'
    have hright : r'.Counted := hr.broadcast _ r' hr'
    rw [← (broadcast_spec hl').2.1, ← (broadcast_spec hr').2.1] at hop
    exact counted_coerce (forall_mem_zipWith fun x hx y hy =>
      admits_cellOp (hleft x hx) (hright y hy) hop hd)

theorem ofDataType_ne_counts (t : DataType) :
    Dtype.ofDataType t ≠ .u32 ∧ Dtype.ofDataType t ≠ .null := by
  cases t <;> decide

theorem counted_cast (s : Series) (target : DataType) : (cast s target).Counted :=
  counted_of_ne (ofDataType_ne_counts target).1 (ofDataType_ne_counts target).2

/-! ## Lengths -/

theorem length_le_byteCount (text : String) : text.toList.length ≤ Text.Utf8.byteCount text := by
  rw [Text.Utf8.byteCount, Text.Utf8.encode]
  generalize text.toList = cs
  induction cs with
  | nil => exact Nat.le_refl 0
  | cons c cs ih =>
    have hc : 1 ≤ (Text.Utf8.encodeChar c).length := by
      simp only [Text.Utf8.encodeChar]
      split_ifs <;> simp
    rw [List.flatMap_cons, List.length_append, List.length_cons]
    omega

theorem counted_string (op : StrOp) (h : s.Short) : Yields (string op s) Counted := by
  refine Yields.ite (fun _ => ?_) fun _ => .error _
  refine Yields.bind (P := fun cells => ∀ c ∈ cells, (textType op).Admits c) (Yields.mapM ?_)
    fun cells hc => .ok hc
  intro c hc
  cases c with
  | str text =>
    have hbytes : Text.Utf8.byteCount text ≤ maxCount := h _ hc
    have hchars := length_le_byteCount text
    cases op with
    | len => exact .ok (Cell.isCount_ofCount (Nat.le_trans hchars hbytes))
    | lenBytes => exact .ok (Cell.isCount_ofCount hbytes)
    | replace pattern value literal =>
      cases literal with
      | false => exact .error _
      | true => exact .ok trivial
    | _ => exact .ok trivial
  | _ => exact .ok Dtype.admits_null

/-! ## Aggregates and offsets -/

theorem admits_extreme (o : Ordering) {cells : List Cell} (h : ∀ c ∈ cells, d.Admits c) :
    d.Admits (extreme o cells) := by
  cases cells with
  | nil => exact Dtype.admits_null
  | cons c cs => exact h _ (extreme_mem o c cs)

theorem admits_getD {o : Option Cell} (h : ∀ c ∈ o, d.Admits c) : d.Admits (o.getD .null) := by
  cases o with
  | none => exact Dtype.admits_null
  | some c => exact h c rfl

theorem admits_sumCell {cells : List Cell} (hlen : cells.length ≤ maxCount) (hd : d ≠ .u32) :
    (sumCell d cells).1.Admits (sumCell d cells).2 := by
  cases d with
  | u32 => exact absurd rfl hd
  | bool => exact Cell.isCount_ofCount (Nat.le_trans List.countP_le_length hlen)
  | _ => trivial

theorem counted_aggregate {op : AggOp} (h : s.Counted) (hlen : s.length ≤ maxCount)
    (hr : aggregate op s = .ok r) (hsum : op = .sum → s.dtype = .u32 → r.Counted) : r.Counted := by
  by_cases hop : op = .sum ∧ s.dtype = .u32
  · exact hsum hop.1 hop.2
  unfold aggregate at hr
  split_ifs at hr
  cases hr
  refine counted_scalar ?_
  have hp : ∀ c ∈ present s.cells, s.dtype.Admits c := fun c hc => h c (List.mem_of_mem_filter hc)
  have hcount : (present s.cells).length ≤ maxCount :=
    Nat.le_trans (List.length_filter_le _ _) hlen
  cases op with
  | sum => exact admits_sumCell hcount fun hd => hop ⟨rfl, hd⟩
  | mean => trivial
  | min => exact admits_extreme .gt hp
  | max => exact admits_extreme .lt hp
  | count => exact Cell.isCount_ofCount hcount
  | first => exact admits_getD fun c hc => h c (List.mem_of_mem_head? hc)
  | last => exact admits_getD fun c hc => h c (List.mem_of_getLast? hc)

theorem counted_shifted (func : OffsetFunc) (h : s.Counted) : Yields (shifted func s) Counted := by
  intro r hr c hc
  obtain ⟨-, hdtype, -, hcells⟩ := offsetSteps_spec (shifted_eq_ok.mp hr)
  rw [hdtype]
  obtain rfl | ⟨i, rfl⟩ := hcells c hc
  · exact Dtype.admits_null
  · exact h.cellAt i

end Eval
end FramePlan
