import FramePlan.Proofs.Eval.RowSelection
import FramePlan.Proofs.Eval.Soundness
import FramePlan.Sql.Parser.Statement

/-!
# Filters

A filter takes the rows at which its predicate is true (`filter_eq`), and no others: neither those at
which it is false nor those at which it is unknown. What this says of predicates that are built from
others:

1. `filters_fuse`: the rows of a conjunction are those that two filters leave, one after the other and
   in either order, if the two predicates look at one row at a time. The second filter sees fewer rows
   than the first one, maybe one or none, and a predicate of single cells is spread over what there is;
   `filter_taken` says that it takes the same of the rows that are left.
2. `filter_splits`: a predicate, its negation and the question whether it is unknown take every row of
   the table once.
-/
namespace FramePlan.Eval

open Table Series

variable {t u : Table} {s : Series} {p q : Expr} {rows : List Nat} {n i : Nat} {a b : Cell}

/-! ## The rows of a filter -/

/-- The series, spread over the rows of a table, has the cell at the row. -/
def hasAt (s : Series) (c : Cell) (i : Nat) : Bool := s.spreadAt i == c

/-- The rows below `n` at which the series has the cell. -/
def rowsWith (s : Series) (n : Nat) (c : Cell) : List Nat := (List.range n).filter (hasAt s c)

@[simp] theorem hasAt_iff {c : Cell} : hasAt s c i = true ↔ s.spreadAt i = c := beq_iff_eq

theorem mem_rowsWith {c : Cell} : i ∈ rowsWith s n c ↔ i < n ∧ s.spreadAt i = c := by
  simp [rowsWith]

theorem pairwise_rowsWith (s : Series) (n : Nat) (c : Cell) : (rowsWith s n c).Pairwise (· < ·) :=
  List.pairwise_lt_range.filter _

theorem trueRows_spread (s : Series) (n : Nat) :
    trueRows (s.spread n).cells = rowsWith s n (.bool true) := by
  have hlen : (s.spread n).cells.length = n := by simp [spread]
  rw [trueRows, rowsWith, hlen]
  apply List.filter_congr
  intro i hi
  have hi : i < n := List.mem_range.mp hi
  simp [spread, hasAt, List.getElem?_range hi]

theorem mask_eq (hs : s.length = 1 ∨ s.length = t.height) (truth : isTruthType s.dtype = true) :
    mask t s = .ok (t.take (rowsWith s t.height (.bool true))) := by
  have hd : s.dtype = .bool ∨ s.dtype = .null := by simpa [isTruthType] using truth
  rw [mask, if_pos hd, broadcast_eq hs, ← trueRows_spread]
  rfl

/-- A filter by a predicate that has a series of truth values takes the rows at which it is true. -/
theorem filter_eq [Sql.Reader] (ht : t.WellFormed) (hs : p.eval t = .ok s) (truth : isTruthType s.dtype = true) :
    filter t (.expr p) = .ok (t.take (rowsWith s t.height (.bool true))) := by
  have heval : (Selector.expr p).eval t = .ok s := hs
  rw [filter, heval, ok_bind]
  exact mask_eq (fitting_eval p t ht s hs).spread truth

/-! ## One filter after another -/

/-- A filter of selected rows takes those of them that it takes of the whole table. -/
theorem filter_taken [Sql.Reader] (rowwise : p.Made Expr.isRowWise) (ht : t.WellFormed)
    (hrows : ∀ i ∈ rows, i < t.height) (hs : p.eval t = .ok s)
    (truth : isTruthType s.dtype = true) :
    filter (t.take rows) (.expr p) = .ok (t.take (rows.filter (hasAt s (.bool true)))) := by
  obtain ⟨s', hs', hpicked⟩ := picked_eval rowwise ht hrows s hs
  have truth' : isTruthType s'.dtype = true := by rw [hpicked.dtype_eq, truth]
  -- At its place among the selected rows, a row has the truth value that it has in the table.
  have hplaces : rowsWith s' rows.length (.bool true) =
      (List.range rows.length).filter fun j => hasAt s (.bool true) ((rows[j]?).getD 0) := by
    apply List.filter_congr
    intro j hj
    have hj : j < rows.length := List.mem_range.mp hj
    rw [hasAt, hasAt, hpicked.spreadAt hrows hj, List.getElem?_eq_getElem hj, Option.getD_some]
  have hlt : ∀ j ∈ rowsWith s' rows.length (.bool true), j < rows.length :=
    fun j hj => (mem_rowsWith.mp hj).1
  rw [filter_eq (ht.take rows) hs' truth', height_take, take_take t hlt, hplaces,
    pickRows_filter]

theorem connective_and_eq_true :
    connective .and a b = .bool true ↔ a = .bool true ∧ b = .bool true := by
  have htruth : ∀ c : Cell, truth? c = some true ↔ c = .bool true := by
    intro c
    cases c <;> simp [truth?]
  rw [← htruth a, ← htruth b]
  simp only [connective]
  rcases truth? a with _ | _ | _ <;> rcases truth? b with _ | _ | _ <;> simp [conjunction]

theorem rowsWith_and {l r : Series} (h : binary .and l r = .ok s)
    (hl : l.length = 1 ∨ l.length = n) (hr : r.length = 1 ∨ r.length = n) :
    rowsWith s n (.bool true) = (rowsWith l n (.bool true)).filter (hasAt r (.bool true)) := by
  have hcoerce (c : Cell) (d : Dtype) : coerceCell d c = .bool true ↔ c = .bool true := by
    cases c <;> cases d <;> simp [coerceCell]
  have hrow : ∀ i < n, s.spreadAt i = .bool true ↔
      l.spreadAt i = .bool true ∧ r.spreadAt i = .bool true := by
    intro i hi
    rw [spreadAt_binary h hl hr hi, hcoerce]
    exact connective_and_eq_true
  rw [rowsWith, rowsWith, List.filter_filter]
  apply List.filter_congr
  intro i hi
  rw [Bool.eq_iff_iff, Bool.and_eq_true, hasAt_iff, hasAt_iff, hasAt_iff,
    hrow i (List.mem_range.mp hi)]
  exact and_comm

theorem filter_rowsWith_comm (l r : Series) (n : Nat) :
    (rowsWith l n (.bool true)).filter (hasAt r (.bool true)) =
      (rowsWith r n (.bool true)).filter (hasAt l (.bool true)) := by
  rw [rowsWith, rowsWith, List.filter_comm]

theorem types_of_and {d e f : Dtype} (h : resultType .and d e = .ok f) :
    isTruthType d = true ∧ isTruthType e = true ∧ isTruthType f = true := by
  simp only [resultType, family] at h
  split_ifs at h with htypes
  rw [Bool.and_eq_true] at htypes
  cases h
  exact ⟨htypes.1, htypes.2, rfl⟩

/-- **Filters fuse.** Let two predicates look at one row at a time, and let the filter by their
conjunction succeed. Then the filter by the one predicate succeeds, and so does that by the other one on
the rows that are left, in either order, and both ways they leave the table that the conjunction
leaves. -/
theorem filters_fuse [Sql.Reader] (hp : p.Made Expr.isRowWise) (hq : q.Made Expr.isRowWise) (ht : t.WellFormed)
    (h : filter t (.expr (.binary .and p q)) = .ok u) :
    ∃ v w, filter t (.expr p) = .ok v ∧ filter v (.expr q) = .ok u ∧
      filter t (.expr q) = .ok w ∧ filter w (.expr p) = .ok u := by
  obtain ⟨s, hs, -⟩ := bind_eq_ok.mp h
  have hs : (Expr.binary .and p q).eval t = .ok s := hs
  obtain ⟨l, hl, hs'⟩ := bind_eq_ok.mp hs
  obtain ⟨r, hr, hand⟩ := bind_eq_ok.mp hs'
  obtain ⟨ltruth, rtruth, struth⟩ := types_of_and (resultType_of_binary hand)
  have hfl := (fitting_eval p t ht l hl).spread
  have hfr := (fitting_eval q t ht r hr).spread
  have hu : u = t.take (rowsWith s t.height (.bool true)) := by
    rw [filter_eq ht hs struth] at h
    exact (Except.ok.inj h).symm
  have below (s : Series) : ∀ i ∈ rowsWith s t.height (.bool true), i < t.height :=
    fun i hi => (mem_rowsWith.mp hi).1
  refine ⟨_, _, filter_eq ht hl ltruth, ?_, filter_eq ht hr rtruth, ?_⟩
  · rw [filter_taken hq ht (below l) hr rtruth, ← rowsWith_and hand hfl hfr, hu]
  · rw [filter_taken hp ht (below r) hl ltruth, filter_rowsWith_comm r l,
      ← rowsWith_and hand hfl hfr, hu]

theorem wellFormed_readings : readings.WellFormed := by
  simp [WellFormed, SeriesTyped, CellHas, Series.length, names, readings]

def isLarge : Expr := .binary .lt (.literal (.int 1)) (.column "n")

def isListed : Expr := .unary .not (.binary .eq (.column "label") (.literal (.str "b")))

attribute [local instance] Sql.dialect

/-- The first filter leaves the last row of three, and the other one looks at that row alone. -/
theorem filters_fuse_readings : ∃ v w,
    filter readings (.expr isLarge) = .ok v ∧
      filter v (.expr isListed) = .ok (readings.take [2]) ∧
      filter readings (.expr isListed) = .ok w ∧
      filter w (.expr isLarge) = .ok (readings.take [2]) := by
  have hp : isLarge.Made Expr.isRowWise := by
    simp [Expr.Made, Expr.isRowWise, Expr.nodes, isLarge]
  have hq : isListed.Made Expr.isRowWise := by
    simp [Expr.Made, Expr.isRowWise, Expr.nodes, isListed]
  exact filters_fuse hp hq wellFormed_readings (by decide +kernel)

/-! ## Three filters of one predicate -/

theorem rowsWith_unary {op : UnaryOp} {r : Series} {c d : Cell} (h : unary op s = .ok r)
    (hs : s.length = 1 ∨ s.length = n)
    (hop : ∀ i < n, unaryCell op (s.spreadAt i) = d ↔ s.spreadAt i = c) :
    rowsWith r n d = rowsWith s n c := by
  apply List.filter_congr
  intro i hi
  have hi : i < n := List.mem_range.mp hi
  rw [Bool.eq_iff_iff, hasAt_iff, hasAt_iff, spreadAt_unary h hs hi]
  exact hop i hi

theorem truth_cases (hs : SeriesTyped s) (hd : s.dtype = .bool) (i : Nat) :
    s.spreadAt i = .bool true ∨ s.spreadAt i = .bool false ∨ s.spreadAt i = .null := by
  have has : CellHas .bool (s.spreadAt i) := by
    rw [spreadAt, ← hd]
    split <;> exact has_cellAt hs _
  cases hc : s.spreadAt i with
  | null => exact .inr (.inr rfl)
  | bool b => cases b <;> simp
  | int j => rw [hc] at has; simp [CellHas] at has
  | _ => rw [hc] at has; cases has

/-- Every row has one of the three truth values, and has it once. -/
theorem rowsWith_perm (hs : SeriesTyped s) (hd : s.dtype = .bool) (n : Nat) :
    (rowsWith s n (.bool true) ++ rowsWith s n (.bool false) ++ rowsWith s n .null).Perm
      (List.range n) := by
  have nodup (c : Cell) : (rowsWith s n c).Nodup := List.nodup_range.filter _
  have apart {c d : Cell} (hcd : c ≠ d) : (rowsWith s n c).Disjoint (rowsWith s n d) := by
    intro i hc hd
    exact hcd ((mem_rowsWith.mp hc).2.symm.trans (mem_rowsWith.mp hd).2)
  have hall :
      (rowsWith s n (.bool true) ++ rowsWith s n (.bool false) ++ rowsWith s n .null).Nodup := by
    refine List.Nodup.append (List.Nodup.append (nodup _) (nodup _) (apart (by simp))) (nodup _) ?_
    exact List.disjoint_append_left.mpr ⟨apart (by simp), apart (by simp)⟩
  rw [List.perm_ext_iff_of_nodup hall List.nodup_range]
  intro i
  have hcases := truth_cases hs hd i
  simp only [List.mem_append, mem_rowsWith, List.mem_range, or_assoc, ← and_or_left]
  exact and_iff_left hcases

/-- **A predicate splits the rows in three.** Let a predicate of any kind have a series of truth values
over a table. Then the filters by the predicate, by its negation and by the question whether it is null
succeed. They take the rows at which it is true, those at which it is false and those at which it is
null, each in their order, and together these are all rows of the table, each of them once; so the
heights of the three results add up. -/
theorem filter_splits [Sql.Reader] (ht : t.WellFormed) (hs : p.eval t = .ok s) (hd : s.dtype = .bool) :
    ∃ yes no unknown : List Nat,
      filter t (.expr p) = .ok (t.take yes) ∧
      filter t (.expr (.unary .not p)) = .ok (t.take no) ∧
      filter t (.expr (.unary .isNull p)) = .ok (t.take unknown) ∧
      (yes = rowsWith s t.height (.bool true) ∧ no = rowsWith s t.height (.bool false) ∧
        unknown = rowsWith s t.height .null) ∧
      (yes ++ no ++ unknown).Perm (List.range t.height) ∧
      (yes.Pairwise (· < ·) ∧ no.Pairwise (· < ·) ∧ unknown.Pairwise (· < ·)) ∧
      (t.take yes).height + (t.take no).height + (t.take unknown).height = t.height := by
  have hfits := fitting_eval p t ht s hs
  have hperm := rowsWith_perm hfits.typed hd t.height
  have hnot : unary .not s = .ok ⟨s.name, .bool, s.cells.map notCell⟩ := if_pos (.inl hd)
  have hnull : unary .isNull s = .ok ⟨s.name, .bool, s.cells.map fun c => .bool c.isNull⟩ := rfl
  have heval (op : UnaryOp) {r : Series} (h : unary op s = .ok r) :
      (Expr.unary op p).eval t = .ok r := bind_eq_ok.mpr ⟨s, hs, h⟩
  -- The negation is true where the predicate is false, and the question where it is null.
  have hno := rowsWith_unary (c := .bool false) (d := .bool true) hnot hfits.spread fun i _ => by
    cases hc : s.spreadAt i <;> simp [unaryCell, notCell]
  have hunknown := rowsWith_unary (c := .null) (d := .bool true) hnull hfits.spread fun i _ => by
    cases hc : s.spreadAt i <;> simp [unaryCell, Cell.isNull]
  refine ⟨_, _, _, filter_eq ht hs (by rw [hd]; rfl), ?_, ?_, ⟨rfl, rfl, rfl⟩, hperm,
    ⟨pairwise_rowsWith .., pairwise_rowsWith .., pairwise_rowsWith ..⟩, ?_⟩
  · rw [filter_eq ht (heval .not hnot) rfl, hno]
  · rw [filter_eq ht (heval .isNull hnull) rfl, hunknown]
  · have hlen := hperm.length_eq
    rw [List.length_append, List.length_append, List.length_range] at hlen
    exact hlen

def isHighest : Expr := .binary .eq (.column "n") (.agg .max (.column "n"))


/-- The single cell of an aggregate goes with each of the three rows: the last reading is the highest,
    the first one is not, and of the missing one it is not known. -/
theorem filter_splits_readings :
    filter readings (.expr isHighest) = .ok (readings.take [2]) ∧
      filter readings (.expr (.unary .not isHighest)) = .ok (readings.take [0]) ∧
      filter readings (.expr (.unary .isNull isHighest)) = .ok (readings.take [1]) := by
  have heval : isHighest.eval readings = .ok ⟨"n", .bool, [.bool false, .null, .bool true]⟩ := by
    decide +kernel
  obtain ⟨_, _, _, hyes, hno, hunknown, ⟨rfl, rfl, rfl⟩, -⟩ :=
    filter_splits wellFormed_readings heval rfl
  exact ⟨hyes, hno, hunknown⟩

end FramePlan.Eval
