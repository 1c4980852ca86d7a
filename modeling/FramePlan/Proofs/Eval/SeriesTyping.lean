import FramePlan.Eval.Aggregate
import FramePlan.Eval.Rows
import FramePlan.Eval.Scalar
import FramePlan.Eval.Texts
import FramePlan.Proofs.Eval.Offsets
import FramePlan.Proofs.Table.Typing

/-!
# Types of computed series

Operators, casts, text functions, aggregates and offsets give typed series of typed series. Each has
its type computed in one place and its cells in another, so the lemmas about single cells say that
the two agree. The length is kept, or is one, or is that of one of two operands.
-/
namespace FramePlan.Eval

open Table Series

variable {s l r : Series} {n : Nat} {a b d : Dtype} {x y : Cell}

theorem fits_map {name : String} {f : Cell → Cell} (h : s.Fits n)
    (hf : ∀ c, CellHas s.dtype c → CellHas d (f c)) : Fits n ⟨name, d, s.cells.map f⟩ := by
  refine h.same (List.length_map _) fun c hc => ?_
  obtain ⟨b, hb, rfl⟩ := List.mem_map.mp hc
  exact hf b (h.typed b hb)

theorem forall_mem_zipWith {α β γ : Type} {f : α → β → γ} {P : γ → Prop} :
    ∀ {xs : List α} {ys : List β}, (∀ x ∈ xs, ∀ y ∈ ys, P (f x y)) →
      ∀ z ∈ xs.zipWith f ys, P z
  | [], _, _, _, hz => by simp at hz
  | _ :: _, [], _, _, hz => by simp at hz
  | x :: xs, y :: ys, h, z, hz => by
    rw [List.zipWith_cons_cons] at hz
    obtain rfl | hz := List.mem_cons.mp hz
    · exact h x List.mem_cons_self y List.mem_cons_self
    · exact forall_mem_zipWith (fun u hu v hv =>
        h u (List.mem_cons_of_mem x hu) v (List.mem_cons_of_mem y hv)) z hz

/-! ## Literals -/

theorem has_ofValue (v : Value) : CellHas (Cell.ofValue v).dtype (Cell.ofValue v) := by
  cases v with
  | int i => exact .inl rfl
  | null => trivial
  | _ => rfl

theorem fits_literal (v : Value) : (literal v).Fits n := .scalar (has_ofValue v)

theorem has_ofInt? (i : Option Int64) (hd : d = .i64 ∨ d = .u32) : CellHas d (Cell.ofInt? i) := by
  cases i with
  | none => trivial
  | some i => exact hd

/-! ## Unary operators -/

theorem has_notCell (hd : d = .bool ∨ d = .null) (h : CellHas d x) : CellHas .bool (notCell x) := by
  cases x with
  | null => trivial
  | bool t => rfl
  | int i => obtain rfl | rfl := hd <;> simp [CellHas] at h
  | _ => obtain rfl | rfl := hd <;> cases h

theorem has_negCell (h : CellHas d x) : CellHas (if d = .u32 then .i64 else d) (negCell x) := by
  cases x with
  | null => trivial
  | int i => exact has_ofInt? _ (by obtain rfl | rfl := h <;> decide)
  | float f =>
    cases h
    rfl
  | _ =>
    cases h
    rfl

theorem fits_unary (op : UnaryOp) (h : s.Fits n) : Yields (unary op s) (Fits n) := by
  cases op with
  | isNull => exact .ok (fits_map h fun c _ => rfl)
  | isNotNull => exact .ok (fits_map h fun c _ => rfl)
  | not => exact .ite (fun hd => .ok (fits_map h fun c hc => has_notCell hd hc)) fun _ => .error _
  | neg => exact .ite (fun _ => .ok (fits_map h fun c hc => has_negCell hc)) fun _ => .error _

/-! ## Binary operators -/

theorem arithType_numeric {op : BinaryOp} (h : arithType op a b = .ok d)
    (ha : a.isNumeric = true) (hb : b.isNumeric = true) :
    if a.isInteger && b.isInteger then d.isInteger = true else d = .f64 := by
  cases a <;> cases b <;> simp_all [arithType, Dtype.isNumeric, Dtype.isInteger]
  split_ifs at h <;> simp_all

theorem arithType_str {op : BinaryOp} (h : arithType op .str .str = .ok d) : d = .str := by
  simp only [arithType, Dtype.isNumeric, Dtype.isInteger] at h
  split_ifs at h <;> simp_all

theorem isInteger_of_has {i : Int64} (h : CellHas d (.int i)) : d.isInteger = true := by
  obtain rfl | rfl := h <;> rfl

theorem isNumeric_of_isInteger (h : d.isInteger = true) : d.isNumeric = true := by
  simp [Dtype.isNumeric, h]

/-- Arithmetic on cells of two types gives what a column of the result type takes. -/
theorem takes_arith {op : BinaryOp} (h : arithType op a b = .ok d) (hx : CellHas a x)
    (hy : CellHas b y) : d.Takes (arith op x y) := by
  -- Two texts, two integers, or a number on one side: any other pair of cells gives null.
  cases x with
  | null => exact Dtype.takes_null
  | str s =>
    cases y with
    | str t =>
      cases hx
      cases hy
      exact Dtype.takes_str.mpr (arithType_str h)
    | _ => exact Dtype.takes_null
  | int i =>
    have ha := isInteger_of_has hx
    cases y with
    | int j =>
      have hb := isInteger_of_has hy
      have hd := arithType_numeric h (isNumeric_of_isInteger ha) (isNumeric_of_isInteger hb)
      simp only [ha, hb, Bool.and_self, if_true] at hd
      simp only [arith, Cell.ofInt?]
      cases intArith op i j with
      | none => exact Dtype.takes_null
      | some k => exact Dtype.takes_int.mpr (isNumeric_of_isInteger hd)
    | float g =>
      cases hy
      have hd := arithType_numeric h (isNumeric_of_isInteger ha) rfl
      exact Dtype.takes_float.mpr (by simpa [Dtype.isInteger] using hd)
    | _ => exact Dtype.takes_null
  | float f =>
    cases hx
    cases y with
    | int j =>
      have hd := arithType_numeric h rfl (isNumeric_of_isInteger (isInteger_of_has hy))
      exact Dtype.takes_float.mpr (by simpa [Dtype.isInteger] using hd)
    | float g =>
      cases hy
      have hd := arithType_numeric h rfl rfl
      exact Dtype.takes_float.mpr (by simpa [Dtype.isInteger] using hd)
    | _ => exact Dtype.takes_null
  | _ => cases y <;> exact Dtype.takes_null

theorem has_comparison (op : BinaryOp) (x y : Cell) : CellHas .bool (comparison op x y) := by
  unfold comparison
  split
  · trivial
  · rfl

theorem has_truth (o : Option Bool) : CellHas .bool ((o.map Cell.bool).getD .null) := by
  cases o with
  | none => trivial
  | some t => rfl

theorem takes_cellOp {op : BinaryOp} (h : resultType op a b = .ok d) (hx : CellHas a x)
    (hy : CellHas b y) : d.Takes (cellOp op x y) := by
  unfold resultType at h
  unfold cellOp
  cases hf : family op with
  | arithmetic =>
    rw [hf] at h
    exact takes_arith h hx hy
  | comparison =>
    rw [hf] at h
    dsimp only at h
    split_ifs at h
    cases h
    exact Dtype.takes_of_has (has_comparison op x y)
  | connective =>
    rw [hf] at h
    dsimp only at h
    split_ifs at h
    cases h
    exact Dtype.takes_of_has (has_truth _)

theorem full_align (hl : l.Fits n) (hr : r.Fits n) :
    Yields (align l r) fun p => ∃ m, (m = 1 ∨ m = n) ∧ p.1.Full m ∧ p.2.Full m := by
  -- The length that is chosen is that of one of the two.
  have hm : (if l.length = 1 then r.length else l.length) = 1 ∨
      (if l.length = 1 then r.length else l.length) = n := by
    split
    · exact hr.spread
    · exact hl.spread
  refine Yields.bind (full_broadcast hl.typed) ?_
  intro l' hl'
  refine Yields.bind (full_broadcast hr.typed) ?_
  intro r' hr'
  refine Yields.ok ?_
  exact ⟨_, hm, hl', hr'⟩

theorem fits_binary (op : BinaryOp) (hl : l.Fits n) (hr : r.Fits n) :
    Yields (binary op l r) (Fits n) := by
  refine Yields.bind (full_align hl hr) ?_
  intro p hp
  obtain ⟨m, hm, hl', hr'⟩ := hp
  refine Yields.after ?_
  intro d hd
  refine Yields.ok ⟨typed_coerce ?_, ?_⟩
  · exact forall_mem_zipWith fun x hx y hy => takes_cellOp hd (hl'.1 x hx) (hr'.1 y hy)
  · have hlen : (coerce d (p.1.cells.zipWith (cellOp op) p.2.cells)).length = m := by
      have h1 : p.1.cells.length = m := hl'.2
      have h2 : p.2.cells.length = m := hr'.2
      rw [coerce, List.length_map, List.length_zipWith, h1, h2, Nat.min_self]
    rw [Series.length, hlen]
    exact hm

/-! ## Casts -/

theorem has_castCell (target : DataType) (c : Cell) :
    CellHas (Dtype.ofDataType target) (castCell target c) := by
  cases target with
  | int64 =>
    cases c with
    | float f =>
      simp only [castCell, castInt]
      split
      · exact .inl rfl
      · trivial
    | str s => exact has_ofInt? _ (.inl rfl)
    | int i => exact .inl rfl
    | bool t => exact .inl rfl
    | _ => trivial
  | float64 =>
    cases c with
    | str s =>
      simp only [castCell, castFloat]
      cases Binary64.ofChars? (trimmed s) with
      | none => trivial
      | some f => rfl
    | list items => trivial
    | null => trivial
    | _ => rfl
  | utf8 =>
    cases c with
    | null => trivial
    | _ => rfl
  | boolean =>
    cases c with
    | str s =>
      simp only [castCell, castBool]
      split_ifs
      · rfl
      · rfl
      · trivial
    | list items => trivial
    | null => trivial
    | _ => rfl

theorem fits_cast (h : s.Fits n) (target : DataType) : (cast s target).Fits n :=
  fits_map h fun c _ => has_castCell target c

/-! ## Functions of texts -/

theorem has_textCell (op : StrOp) (s : String) :
    Yields (textCell op s) (CellHas (textType op)) := by
  cases op with
  | replace pattern value literal =>
    cases literal with
    | false => exact .error _
    | true => exact .ok rfl
  | len => exact .ok (.inr rfl)
  | lenBytes => exact .ok (.inr rfl)
  | _ => exact .ok rfl

theorem has_stringCell (op : StrOp) (c : Cell) :
    Yields (stringCell op c) (CellHas (textType op)) := by
  cases c with
  | str s => exact has_textCell op s
  | _ => exact .ok trivial

theorem fits_string (op : StrOp) (h : s.Fits n) : Yields (string op s) (Fits n) := by
  refine Yields.ite (fun _ => ?_) fun _ => .error _
  intro r hr
  obtain ⟨cells, hc, hr⟩ := bind_eq_ok.mp hr
  cases hr
  have hlen : cells.length = s.cells.length := (mapM_eq_ok.mp hc).length_eq.symm
  exact h.same hlen (Yields.mapM (fun c _ => has_stringCell op c) cells hc)

/-! ## Aggregates and offsets -/

theorem extreme_mem (o : Ordering) : ∀ (c : Cell) (cs : List Cell), extreme o (c :: cs) ∈ c :: cs
  | c, [] => List.mem_singleton_self c
  | c, d :: ds => by
    have ih := extreme_mem o (if compareCells c d = o then d else c) ds
    rw [extreme] at ih ⊢
    rw [List.foldl_cons]
    obtain h | h := List.mem_cons.mp ih
    · rw [h]
      split <;> simp
    · exact List.mem_cons_of_mem c (List.mem_cons_of_mem d h)

theorem has_extreme (o : Ordering) {cells : List Cell} (h : ∀ c ∈ cells, CellHas d c) :
    CellHas d (extreme o cells) := by
  cases cells with
  | nil => trivial
  | cons c cs => exact h _ (extreme_mem o c cs)

theorem has_getD {o : Option Cell} (h : ∀ c ∈ o, CellHas d c) : CellHas d (o.getD .null) := by
  cases o with
  | none => trivial
  | some c => exact h c rfl

theorem has_sumCell (cells : List Cell) (hd : isAddable d = true) :
    CellHas (sumCell d cells).1 (sumCell d cells).2 := by
  cases d with
  | i64 => exact has_ofInt? _ (.inl rfl)
  | u32 => exact has_ofInt? _ (.inr rfl)
  | f64 => rfl
  | bool => exact .inr rfl
  | null => exact has_ofInt? _ (.inl rfl)
  | str => cases hd
  | listStr => cases hd

theorem has_meanCell (cells : List Cell) : CellHas .f64 (meanCell cells) := by
  unfold meanCell
  split
  · trivial
  · rfl

theorem has_aggregateCell (op : AggOp) {cells : List Cell} (h : ∀ c ∈ cells, CellHas d c)
    (hd : op = .sum ∨ op = .mean → isAddable d = true) :
    CellHas (aggregateCell op d cells).1 (aggregateCell op d cells).2 := by
  have hp : ∀ c ∈ present cells, CellHas d c := fun c hc => h c (List.mem_of_mem_filter hc)
  cases op with
  | sum => exact has_sumCell _ (hd (.inl rfl))
  | mean => exact has_meanCell _
  | min => exact has_extreme .gt hp
  | max => exact has_extreme .lt hp
  | count => exact .inr rfl
  | first => exact has_getD fun c hc => h c (List.mem_of_mem_head? hc)
  | last => exact has_getD fun c hc => h c (List.mem_of_getLast? hc)

theorem fits_aggregate (op : AggOp) (h : SeriesTyped s) : Yields (aggregate op s) (Fits n) := by
  refine Yields.ite (fun _ => .error _) fun hd => .ok (.scalar (has_aggregateCell op h ?_))
  intro hop
  by_contra hadd
  exact hd ⟨hop, by simpa using hadd⟩

theorem fits_shifted (func : OffsetFunc) (h : s.Fits n) : Yields (shifted func s) (Fits n) := by
  intro r hr
  obtain ⟨-, hdtype, hlen, hcells⟩ := offsetSteps_spec (shifted_eq_ok.mp hr)
  refine ⟨fun c hc => ?_, hlen ▸ h.spread⟩
  rw [hdtype]
  obtain rfl | ⟨i, rfl⟩ := hcells c hc
  · trivial
  · exact has_cellAt h.typed i

end FramePlan.Eval
