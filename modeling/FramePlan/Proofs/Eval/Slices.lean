import FramePlan.Eval.Texts
import FramePlan.Eval.Scalar
import FramePlan.Proofs.Eval.Operators
import FramePlan.Proofs.Integer.Sum

/-!
# Parts of a text

The first characters of a text, the last ones and a slice are all cut at one place: `kept` brings a count,
or one from the end if it is negative, into the range of the text. What the first part keeps by a count and
what the last part keeps by the opposite count come to the whole text (`kept_add_kept_neg`), so the two put
together are the text again (`head_append_tail`), and so are two such columns (`head_add_tail`). Only zero is
its own opposite, and there both are empty.

The places are words, and the sums and differences are made without looking at the range. `headSteps`,
`tailSteps` and `sliceSteps` are the same computations with every step looked at, and with the places turned
into unsigned words as they are. On a text of fewer than `2 ^ 63` characters they never stop short
(`keptSteps_eq`): a negative count is added to a length, which is not negative, and what is kept is
subtracted from a length that is no less.
-/
namespace FramePlan.Eval

open Integer

variable {total : ℕ} {count offset : ℤ} {n : Int64} {cs : List Char} {length : Option ℕ}

/-! ## Places in a text -/

theorem kept_le (total : ℕ) (count : ℤ) : kept total count ≤ total := by
  unfold kept
  split <;> omega

/-- What a count keeps and what its opposite keeps come to the whole. -/
theorem kept_add_kept_neg (total : ℕ) (hcount : count ≠ 0) :
    kept total count + kept total (-count) = total := by
  unfold kept
  split <;> split <;> omega

/-- A slice begins where its offset, taken as a count, would stop keeping. -/
theorem charSlice_eq (offset : ℤ) (length : Option ℕ) (cs : List Char) : charSlice offset length cs =
    match length with
    | none => cs.drop (kept cs.length offset)
    | some k => (cs.drop (kept cs.length offset)).take k := by
  have hstart : (if offset < 0 then max ((cs.length : ℤ) + offset) 0 else min offset cs.length).toNat =
      kept cs.length offset := by
    unfold kept
    split <;> split <;> omega
  cases length with
  | none => simp only [charSlice, hstart]
  | some k => simp only [charSlice, hstart]

/-- Where a slice begins: at its offset, or so far from the end if that is negative, and within the text. -/
def sliceStart (total : ℕ) (offset : ℤ) : ℕ :=
  if offset < 0 then (total + offset).toNat else min offset.toNat total

/-- Where a slice from `start` stops: so many characters further on, and at the end of the text at the
latest. -/
def sliceStop (total start : ℕ) : Option ℕ → ℕ
  | none => total
  | some k => min total (start + k)

theorem kept_eq_sliceStart (total : ℕ) (offset : ℤ) : kept total offset = sliceStart total offset := by
  unfold kept sliceStart
  split <;> split <;> omega

theorem getElem?_charSlice (offset : ℤ) (length : Option ℕ) (cs : List Char) (i : ℕ) :
    (charSlice offset length cs)[i]? =
      if sliceStart cs.length offset + i < sliceStop cs.length (sliceStart cs.length offset) length then
        cs[sliceStart cs.length offset + i]?
      else none := by
  rw [charSlice_eq, kept_eq_sliceStart]
  generalize sliceStart cs.length offset = start
  cases length with
  | none =>
    rw [List.getElem?_drop, sliceStop]
    split
    · rfl
    · exact List.getElem?_eq_none (by omega)
  | some k =>
    rw [List.getElem?_take, List.getElem?_drop, sliceStop]
    by_cases hk : i < k
    · rw [if_pos hk]
      split
      · rfl
      · exact List.getElem?_eq_none (by omega)
    · rw [if_neg hk, if_neg (by omega)]

/-! ## Parts that fit together -/

theorem head_append_tail (hcount : count ≠ 0) (cs : List Char) : head count cs ++ tail (-count) cs = cs := by
  have hsum := kept_add_kept_neg cs.length hcount
  have hcut : cs.length - kept cs.length (-count) = kept cs.length count := by omega
  rw [head, tail, hcut, List.take_append_drop]

theorem head_zero (cs : List Char) : head 0 cs = [] := rfl

theorem tail_zero (cs : List Char) : tail 0 cs = [] := List.drop_length

theorem head_eq_charSlice (k : ℕ) (cs : List Char) : head k cs = charSlice 0 (some k) cs := by
  have hk : kept cs.length k = min k cs.length := by
    unfold kept
    split <;> omega
  rw [head, hk, charSlice_eq]
  exact List.take_eq_take_min.symm

theorem tail_eq_charSlice (hcount : count ≠ 0) (cs : List Char) :
    tail count cs = charSlice (-count) none cs := by
  have hsum := kept_add_kept_neg cs.length hcount
  have hcut : cs.length - kept cs.length count = kept cs.length (-count) := by omega
  rw [tail, hcut, charSlice_eq]

/-! ## Step by step -/

/-- What a count keeps of so many characters, if the sum is a word. -/
def keptSteps (total : ℕ) (count : Int64) : Option Int64 :=
  if 0 ≤ count then some (min count (Int64.ofNat total))
  else (add? (Int64.ofNat total) count).map (max · 0)

def headSteps (count : Int64) (cs : List Char) : Option (List Char) := do
  let keep ← keptSteps cs.length count
  pure (cs.take keep.toUInt64.toNat)

def tailSteps (count : Int64) (cs : List Char) : Option (List Char) := do
  let keep ← keptSteps cs.length count
  let drop ← sub? (Int64.ofNat cs.length) keep
  pure (cs.drop drop.toUInt64.toNat)

/-- A slice without a length takes as many characters as there are words, at most. -/
def sliceSteps (offset : Int64) (length : Option UInt32) (cs : List Char) : Option (List Char) := do
  let start ← keptSteps cs.length offset
  let most : Int64 := match length with
    | none => Int64.maxValue
    | some k => Int64.ofNat k.toNat
  pure ((cs.drop start.toUInt64.toNat).take most.toUInt64.toNat)

theorem toNat_toUInt64 {w : Int64} {k : ℕ} (h : w.toInt = k) : w.toUInt64.toNat = k := by
  have hcond := BitVec.toInt_eq_toNat_cond w.toBitVec
  have hlt := w.toBitVec.isLt
  change w.toBitVec.toInt = k at h
  change w.toBitVec.toNat = k
  rw [h] at hcond
  split at hcond <;> omega

/-- The place where a text is cut is always found. -/
theorem keptSteps_eq (htotal : total < 2 ^ 63) (n : Int64) :
    ∃ w, keptSteps total n = some w ∧ w.toInt = kept total n.toInt := by
  have hrange := inRange_toInt n
  unfold InRange at hrange
  have hlength : (Int64.ofNat total).toInt = total := Int64.toInt_ofNat_of_lt htotal
  unfold keptSteps kept
  simp only [Int64.le_iff_toInt_le, Int64.toInt_zero]
  split
  · refine ⟨_, rfl, ?_⟩
    have hmin : min n (Int64.ofNat total) = if n ≤ Int64.ofNat total then n else Int64.ofNat total := rfl
    rw [hmin]
    split
    · next hle =>
      rw [Int64.le_iff_toInt_le, hlength] at hle
      omega
    · next hlt =>
      rw [Int64.le_iff_toInt_le, hlength] at hlt
      omega
  · -- The length is not negative and the count is, so their sum lies between the two.
    obtain ⟨b, hb⟩ : ∃ b, add? (Int64.ofNat total) n = some b := by
      rw [← Option.ne_none_iff_exists', add?, Ne, ofInt?_eq_none, not_not, hlength, InRange]
      omega
    have hsum := add?_eq_some.mp hb
    rw [hlength] at hsum
    refine ⟨max b 0, by rw [hb]; rfl, ?_⟩
    have hmax : max b 0 = if b ≤ 0 then 0 else b := rfl
    rw [hmax]
    split
    · next hle =>
      rw [Int64.le_iff_toInt_le, Int64.toInt_zero] at hle
      rw [Int64.toInt_zero]
      omega
    · next hlt =>
      rw [Int64.le_iff_toInt_le, Int64.toInt_zero] at hlt
      omega

theorem headSteps_eq (hcs : cs.length < 2 ^ 63) (n : Int64) : headSteps n cs = some (head n.toInt cs) := by
  obtain ⟨w, hw, hkept⟩ := keptSteps_eq hcs n
  simp only [headSteps, hw, Option.bind_eq_bind, Option.bind_some, toNat_toUInt64 hkept]
  rfl

theorem tailSteps_eq (hcs : cs.length < 2 ^ 63) (n : Int64) : tailSteps n cs = some (tail n.toInt cs) := by
  obtain ⟨w, hw, hkept⟩ := keptSteps_eq hcs n
  have hle := kept_le cs.length n.toInt
  have hrest : (Int64.ofNat cs.length).toInt - w.toInt = (cs.length - kept cs.length n.toInt : ℕ) := by
    rw [Int64.toInt_ofNat_of_lt hcs, hkept]
    omega
  obtain ⟨b, hb⟩ : ∃ b, sub? (Int64.ofNat cs.length) w = some b := by
    rw [← Option.ne_none_iff_exists', sub?, Ne, ofInt?_eq_none, not_not, hrest, InRange]
    omega
  have hdrop := toInt_of_ofInt? hb
  rw [hrest] at hdrop
  simp only [tailSteps, hw, hb, Option.bind_eq_bind, Option.bind_some, toNat_toUInt64 hdrop]
  rfl

theorem sliceSteps_eq (hcs : cs.length < 2 ^ 63) (offset : Int64) (length : Option UInt32) :
    sliceSteps offset length cs = some (charSlice offset.toInt (length.map UInt32.toNat) cs) := by
  obtain ⟨w, hw, hkept⟩ := keptSteps_eq hcs offset
  simp only [sliceSteps, hw, Option.bind_eq_bind, Option.bind_some, toNat_toUInt64 hkept, charSlice_eq]
  cases length with
  | none =>
    have hmost : Int64.maxValue.toUInt64.toNat = 2 ^ 63 - 1 := by decide
    simp only [hmost, Option.map_none]
    rw [List.take_of_length_le (by rw [List.length_drop]; omega)]
    rfl
  | some k =>
    have hk : (Int64.ofNat k.toNat).toInt = k.toNat :=
      Int64.toInt_ofNat_of_lt (k.toNat_lt.trans (by decide))
    simp only [toNat_toUInt64 hk, Option.map_some]
    rfl

/-! ## Texts -/

/-- **The first characters, the last ones and slices fit together.** The first part by a count and the last
part by its opposite make up the text, but for the least word, which has no opposite, and for zero, where
both are empty. The first part is a slice from the beginning, the last part a slice to the end, and a slice
has the characters from its start to its stop. On texts shorter than the largest word no step on the way
leaves the range of words. -/
theorem parts_fit (s : String) :
    (∀ n : Int64, n ≠ Int64.minValue → n ≠ 0 → ∃ front back,
      textCell (.head n) s = .ok (.str front) ∧ textCell (.tail (-n)) s = .ok (.str back) ∧ front ++ back = s) ∧
    (textCell (.head 0) s = .ok (.str "") ∧ textCell (.tail 0) s = .ok (.str "")) ∧
    (∀ k : UInt32, textCell (.head (Int64.ofNat k.toNat)) s = textCell (.slice 0 (some k)) s) ∧
    (∀ n : Int64, 1 ≤ n → textCell (.tail n) s = textCell (.slice (-n) none) s) ∧
    (∀ (offset : Int64) (length : Option UInt32), ∃ part,
      textCell (.slice offset length) s = .ok (.str part) ∧
      ∀ i, part.toList[i]? =
        if sliceStart s.length offset.toInt + i <
            sliceStop s.length (sliceStart s.length offset.toInt) (length.map UInt32.toNat) then
          s.toList[sliceStart s.length offset.toInt + i]?
        else none) ∧
    (s.length < 2 ^ 63 → ∀ (n : Int64) (length : Option UInt32), ∃ front back part,
      (headSteps n s.toList = some front ∧ textCell (.head n) s = .ok (.str (String.ofList front))) ∧
      (tailSteps n s.toList = some back ∧ textCell (.tail n) s = .ok (.str (String.ofList back))) ∧
      (sliceSteps n length s.toList = some part ∧
        textCell (.slice n length) s = .ok (.str (String.ofList part)))) := by
  refine ⟨?_, ⟨?_, ?_⟩, ?_, ?_, ?_, ?_⟩
  · intro n hmin hzero
    refine ⟨_, _, rfl, rfl, ?_⟩
    rw [toInt_neg_of_ne hmin, ← String.ofList_append, head_append_tail (mt eq_zero_iff.mpr hzero),
      String.ofList_toList]
  · simp only [textCell, Int64.toInt_zero, head_zero, String.ofList_nil]
  · simp only [textCell, Int64.toInt_zero, tail_zero, String.ofList_nil]
  · intro k
    have hk : (Int64.ofNat k.toNat).toInt = k.toNat :=
      Int64.toInt_ofNat_of_lt (k.toNat_lt.trans (by decide))
    simp only [textCell, hk, head_eq_charSlice, Int64.toInt_zero, Option.map_some]
  · intro n hpos
    rw [Int64.le_iff_toInt_le, Int64.toInt_one] at hpos
    have hmin : n ≠ Int64.minValue := by
      rintro rfl
      rw [Int64.toInt_minValue] at hpos
      omega
    simp only [textCell, toInt_neg_of_ne hmin, Option.map_none]
    rw [tail_eq_charSlice (by omega)]
  · intro offset length
    refine ⟨_, rfl, fun i => ?_⟩
    rw [String.toList_ofList, getElem?_charSlice, String.length_toList]
  · intro hs n length
    rw [← String.length_toList] at hs
    exact ⟨_, _, _, ⟨headSteps_eq hs n, rfl⟩, ⟨tailSteps_eq hs n, rfl⟩,
      ⟨sliceSteps_eq hs n length, rfl⟩⟩

/-- The first two characters of a text of three and what is behind them, and the slice from the offset that
is furthest from the end. -/
theorem parts_fit_accents :
    ((2 : Int64) ≠ Int64.minValue ∧ (2 : Int64) ≠ 0 ∧ (1 : Int64) ≤ 2 ∧ "née".length < 2 ^ 63) ∧
    (∃ front back, textCell (.head 2) "née" = .ok (.str front) ∧
      textCell (.tail (-2)) "née" = .ok (.str back) ∧ front ++ back = "née") ∧
    textCell (.tail 2) "née" = textCell (.slice (-2) none) "née" ∧
    (∃ part, sliceSteps Int64.minValue none "née".toList = some part ∧
      textCell (.slice Int64.minValue none) "née" = .ok (.str (String.ofList part))) := by
  have hlen : "née".length < 2 ^ 63 := by decide
  obtain ⟨hfit, -, -, htail, -, hsteps⟩ := parts_fit "née"
  obtain ⟨-, -, part, -, -, hpart⟩ := hsteps hlen Int64.minValue none
  exact ⟨⟨by decide, by decide, by decide, hlen⟩, hfit 2 (by decide) (by decide), htail 2 (by decide),
    part, hpart⟩

/-- No characters from the front and no characters from the end do not make up a text. -/
theorem parts_of_zero_empty : ¬∀ (s : String) (n : Int64), n ≠ Int64.minValue → ∃ front back,
    textCell (.head n) s = .ok (.str front) ∧ textCell (.tail (-n)) s = .ok (.str back) ∧
      front ++ back = s := by
  intro h
  obtain ⟨front, back, hfront, hback, happend⟩ := h "née" 0 (by decide)
  have hempty : textCell (.head 0) "née" = .ok (.str "") ∧ textCell (.tail (-0)) "née" = .ok (.str "") := by
    decide
  rw [hempty.1] at hfront
  rw [hempty.2] at hback
  cases hfront
  cases hback
  exact absurd happend (by decide)

/-! ## Columns of texts -/

/-- A function of texts on a cell; a cell that is no text gives null. -/
def onText (f : List Char → List Char) : Cell → Cell
  | .str s => .str (String.ofList (f s.toList))
  | _ => .null

theorem string_eq_onText {op : StrOp} {f : List Char → List Char} {s : Series} (hd : s.dtype = .str)
    (hop : ∀ t, textCell op t = .ok (.str (String.ofList (f t.toList)))) (htype : textType op = .str) :
    string op s = .ok ⟨s.name, .str, s.cells.map (onText f)⟩ := by
  have hcells : s.cells.mapM (stringCell op) = .ok (s.cells.map (onText f)) := by
    rw [mapM_eq_ok, List.forall₂_map_right_iff, List.forall₂_same]
    intro c hc
    cases c with
    | str t => exact hop t
    | _ => rfl
  rw [string, if_pos (.inl hd), hcells, htype]
  rfl

/-- **A column of texts that is cut in two is put together again by adding the parts.** -/
theorem head_add_tail {s : Series} (hd : s.dtype = .str) (hs : Table.SeriesTyped s)
    (hmin : n ≠ Int64.minValue) (hzero : n ≠ 0) : ∃ front back,
      string (.head n) s = .ok front ∧ string (.tail (-n)) s = .ok back ∧
      binary .add front back = .ok s := by
  refine ⟨_, _, string_eq_onText hd (fun _ => rfl) rfl, string_eq_onText hd (fun _ => rfl) rfl, ?_⟩
  have hcell : ∀ c ∈ s.cells,
      cellOp .add (onText (head n.toInt) c) (onText (tail (-n).toInt) c) = c := by
    intro c hc
    have htyped := hs c hc
    rw [hd] at htyped
    cases c with
    | str t =>
      change Cell.str (String.ofList (head n.toInt t.toList) ++ String.ofList (tail (-n).toInt t.toList)) = _
      rw [toInt_neg_of_ne hmin, ← String.ofList_append, head_append_tail (mt eq_zero_iff.mpr hzero),
        String.ofList_toList]
    | null => rfl
    | int i => obtain h | h := htyped <;> cases h
    | _ => cases htyped
  have hcells : (s.cells.map (onText (head n.toInt))).zipWith (cellOp .add)
      (s.cells.map (onText (tail (-n).toInt))) = s.cells := by
    rw [List.zipWith_map, List.zipWith_self]
    exact (List.map_congr_left hcell).trans (List.map_id' _)
  have htype : resultType .add .str .str = .ok .str := rfl
  have hname : resultName ⟨s.name, .str, s.cells.map (onText (head n.toInt))⟩
      ⟨s.name, .str, s.cells.map (onText (tail (-n).toInt))⟩ = s.name :=
    if_neg fun h => h.2 h.1
  rw [binary, align_of_length_eq (by simp [Series.length])]
  simp only [ok_bind, htype, hcells, hname, pure_eq_ok]
  rw [coerce_of_has (hd ▸ hs), ← hd]

end FramePlan.Eval
