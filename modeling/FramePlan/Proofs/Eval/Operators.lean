import FramePlan.Eval.Aggregate
import FramePlan.Eval.Rows
import FramePlan.Eval.Scalar
import FramePlan.Eval.Texts
import FramePlan.Proofs.Table.Selection

/-!
# Operators by their types and their cells

An operator on series is a rule for types and a rule for cells. Whether it applies, and the type that
it gives, come from the types of its operands alone; each cell that it gives comes from the cells of
its operands at one row, where an operand of one cell has it in every row.
-/
namespace FramePlan.Eval

open Table Series

variable {s l r : Series} {m n i : Nat} {op : StrOp}

/-! ## Unary operators -/

/-- The type that an operator gives on a type. -/
def unaryType (op : UnaryOp) (d : Dtype) : Outcome Dtype :=
  match op with
  | .isNull => .ok .bool
  | .isNotNull => .ok .bool
  | .not => if d = .bool ∨ d = .null then .ok .bool else .error (.unaryType op d)
  | .neg =>
    if d.isNumeric ∨ d = .null then .ok (if d = .u32 then .i64 else d)
    else .error (.unaryType op d)

def unaryCell (op : UnaryOp) (c : Cell) : Cell :=
  match op with
  | .isNull => .bool c.isNull
  | .isNotNull => .bool !c.isNull
  | .not => notCell c
  | .neg => negCell c

theorem unary_eq (op : UnaryOp) (s : Series) : unary op s =
    (unaryType op s.dtype).map fun d => ⟨s.name, d, s.cells.map (unaryCell op)⟩ := by
  cases op with
  | isNull => rfl
  | isNotNull => rfl
  | not =>
    simp only [unary, unaryType]
    split <;> rfl
  | neg =>
    simp only [unary, unaryType]
    split <;> rfl

theorem spreadAt_unary {op : UnaryOp} (h : unary op s = .ok r) (hs : s.length = 1 ∨ s.length = n)
    (hi : i < n) : r.spreadAt i = unaryCell op (s.spreadAt i) := by
  rw [unary_eq] at h
  obtain ⟨d, -, rfl⟩ := map_eq_ok.mp h
  exact spreadAt_map (unaryCell op) hs hi

/-! ## Binary operators -/

/-- Two operands of one cell or of `m`, not both of one cell unless `m` is one, are spread over `m`
    rows. -/
theorem align_eq (hl : l.length = 1 ∨ l.length = m) (hr : r.length = 1 ∨ r.length = m)
    (hm : l.length = m ∨ r.length = m) : align l r = .ok (l.spread m, r.spread m) := by
  have hn : (if l.length = 1 then r.length else l.length) = m := by
    split <;> omega
  simp only [align, hn, broadcast_eq hl, broadcast_eq hr, ok_bind, pure_eq_ok]

theorem align_of_length_eq (h : l.length = r.length) : align l r = .ok (l, r) := by
  rw [align_eq (.inr h) (.inr rfl) (.inl h), spread_length, ← h, spread_length]

/-- The cells at a row give the cell at that row, and nothing else counts but the types and names. -/
theorem binary_eq (op : BinaryOp) (hl : l.length = 1 ∨ l.length = m)
    (hr : r.length = 1 ∨ r.length = m) (hm : l.length = m ∨ r.length = m) : binary op l r =
    (resultType op l.dtype r.dtype).map fun d => ⟨resultName l r, d,
      (List.range m).map fun i => coerceCell d (cellOp op (l.spreadAt i) (r.spreadAt i))⟩ := by
  have hcells (d : Dtype) : coerce d ((l.spread m).cells.zipWith (cellOp op) (r.spread m).cells) =
      (List.range m).map fun i => coerceCell d (cellOp op (l.spreadAt i) (r.spreadAt i)) := by
    simp [coerce, spread, List.zipWith_map, List.zipWith_self]
  unfold binary
  rw [align_eq hl hr hm]
  cases hd : resultType op l.dtype r.dtype with
  | error fault => simp only [ok_bind, spread_dtype, hd]; rfl
  | ok d =>
    simp only [ok_bind, spread_dtype, hd, hcells]
    rfl

/-- The type that an operator gives is that of its operands' types, whatever their lengths. -/
theorem resultType_of_binary {op : BinaryOp} (h : binary op l r = .ok s) :
    resultType op l.dtype r.dtype = .ok s.dtype := by
  obtain ⟨⟨l', r'⟩, halign, h⟩ := bind_eq_ok.mp h
  obtain ⟨d, hd, h⟩ := bind_eq_ok.mp h
  obtain ⟨full, hl, hrest⟩ := bind_eq_ok.mp halign
  obtain ⟨full', hr, hpair⟩ := bind_eq_ok.mp hrest
  cases h
  cases hpair
  rwa [(broadcast_spec hl).2.1, (broadcast_spec hr).2.1] at hd

theorem spreadAt_binary {op : BinaryOp} (h : binary op l r = .ok s)
    (hl : l.length = 1 ∨ l.length = n) (hr : r.length = 1 ∨ r.length = n) (hi : i < n) :
    s.spreadAt i = coerceCell s.dtype (cellOp op (l.spreadAt i) (r.spreadAt i)) := by
  -- Over `m` rows the result has the cells that the operator gives there.
  have computed {m j : Nat} (h1 : l.length = 1 ∨ l.length = m) (h2 : r.length = 1 ∨ r.length = m)
      (hm : l.length = m ∨ r.length = m) (hj : j < m) :
      s.length = m ∧ s.cellAt j = coerceCell s.dtype (cellOp op (l.spreadAt j) (r.spreadAt j)) := by
    rw [binary_eq op h1 h2 hm] at h
    obtain ⟨d, -, rfl⟩ := map_eq_ok.mp h
    refine ⟨by simp [length], ?_⟩
    simp [cellAt, List.getElem?_range hj]
  by_cases hm : l.length = n ∨ r.length = n
  · obtain ⟨hlen, hcell⟩ := computed hl hr hm hi
    have hlt : i < s.length := by omega
    rw [spreadAt_of_lt hlt, hcell]
  · -- Two single cells give one, and each of the three stands in every row.
    have h1 : l.length = 1 := by omega
    have h2 : r.length = 1 := by omega
    obtain ⟨hlen, hcell⟩ := computed (.inl h1) (.inl h2) (.inl h1) Nat.zero_lt_one
    rw [spreadAt_of_single hlen, hcell, spreadAt_of_single h1, spreadAt_of_single h1,
      spreadAt_of_single h2, spreadAt_of_single h2]

/-! ## Functions of texts -/

def stringType (op : StrOp) (d : Dtype) : Outcome Dtype :=
  if d = .str ∨ d = .null then .ok (textType op) else .error (.textExpected op d)

/-- A function that has a result on every text: all but the replacement of a pattern. -/
theorem exists_textCell (h : ∀ p v, op ≠ .replace p v false) (s : String) :
    ∃ c, textCell op s = .ok c := by
  cases op with
  | replace p v lit =>
    cases lit with
    | false => exact absurd rfl (h p v)
    | true => exact ⟨_, rfl⟩
  | _ => exact ⟨_, rfl⟩

theorem exists_string (h : ∀ p v, op ≠ .replace p v false) (s : Series) :
    ∃ cells, string op s = (stringType op s.dtype).map fun d => ⟨s.name, d, cells⟩ := by
  have hcell (c : Cell) : ∃ b, stringCell op c = .ok b := by
    cases c with
    | str text => exact exists_textCell h text
    | _ => exact ⟨.null, rfl⟩
  obtain ⟨cells, hcells⟩ := exists_mapM_eq_ok.mpr fun c (_ : c ∈ s.cells) => hcell c
  refine ⟨cells, ?_⟩
  simp only [string, stringType, hcells]
  split <;> rfl

/-! ## Aggregates -/

def aggregateType (op : AggOp) (name : String) (d : Dtype) : Outcome Dtype :=
  if (op = .sum ∨ op = .mean) ∧ !isAddable d then .error (.aggregateType op d name)
  else .ok (aggregateCell op d []).1

theorem aggregateCell_fst (op : AggOp) (d : Dtype) (cells : List Cell) :
    (aggregateCell op d cells).1 = (aggregateCell op d []).1 := by
  cases op with
  | sum => cases d <;> rfl
  | _ => rfl

theorem aggregate_eq (op : AggOp) (s : Series) : aggregate op s =
    (aggregateType op s.name s.dtype).map fun d =>
      .scalar s.name d (aggregateCell op s.dtype s.cells).2 := by
  simp only [aggregate, aggregateType]
  split
  · rfl
  · rw [← aggregateCell_fst op s.dtype s.cells]
    rfl

end FramePlan.Eval
