import FramePlan.Eval.Expr
import FramePlan.Proofs.Eval.Operators
import FramePlan.Proofs.Expr.Nodes
import FramePlan.Sql.Parser.Statement

/-!
# Values of selected rows

An expression that looks at one row at a time has, over selected rows of a table, the cells that it
has at these rows of the table: rows can be selected before it is evaluated or behind.

What the series over the selected rows is depends on the one over the table (`Picked`). A series of
one cell may come from a literal, and then it is the same series over any rows; one with a cell for
each row of the table becomes the cells at the selected rows. In both cases the two agree at each row,
if single cells are spread (`Picked.spreadAt`), and this is what operators look at (`binary_eq`).
`picked_eval` goes by the recursion of the expression.
-/
namespace FramePlan.Eval

open Table Series

/-- The series over the selected rows of `n`, as it comes from the series over all of them: the same
    one cell, or the cells at the rows. -/
inductive Picked (rows : List Nat) (n : Nat) (s : Series) : Series → Prop
  | constant (h : s.length = 1) : Picked rows n s s
  | column (h : s.length = n) : Picked rows n s (s.take rows)

/-- What the first computation gives on all rows, the second gives on the selected ones. -/
def PickedIn (rows : List Nat) (n : Nat) (x y : Outcome Series) : Prop :=
  Yields x fun s => ∃ s', y = .ok s' ∧ Picked rows n s s'

variable {rows : List Nat} {n : Nat} {s s' l l' r r' : Series} {t : Table}

namespace Picked

theorem name_eq (h : Picked rows n s s') : s'.name = s.name := by cases h <;> rfl

theorem dtype_eq (h : Picked rows n s s') : s'.dtype = s.dtype := by cases h <;> rfl

theorem length_or (h : Picked rows n s s') : s.length = 1 ∨ s.length = n := by
  cases h with
  | constant h => exact .inl h
  | column h => exact .inr h

theorem length_selected_or (h : Picked rows n s s') : s'.length = 1 ∨ s'.length = rows.length := by
  cases h with
  | constant h => exact .inl h
  | column h => exact .inr (length_take s rows)

theorem renamed (h : Picked rows n s s') (name : String) :
    Picked rows n (s.renamed name) (s'.renamed name) := by
  cases h with
  | constant h => exact .constant h
  | column h => exact .column h

section

variable (hrows : ∀ i ∈ rows, i < n)

include hrows

theorem spreadAt (h : Picked rows n s s') {j : Nat} (hj : j < rows.length) :
    s'.spreadAt j = s.spreadAt rows[j] := by
  cases h with
  | constant h => rw [Series.spreadAt, Series.spreadAt, if_pos h, if_pos h]
  | column h =>
    have hi : rows[j] < s.length := by
      rw [h]
      exact hrows _ (List.getElem_mem hj)
    have hj' : j < (s.take rows).length := by
      rw [length_take]
      exact hj
    rw [spreadAt_of_lt hj', spreadAt_of_lt hi, cellAt_take s hj]

theorem map_range_take {name : String} {d : Dtype} {f g : Nat → Cell}
    (h : ∀ j (hj : j < rows.length), g j = f rows[j]) :
    (⟨name, d, (List.range rows.length).map g⟩ : Series) =
      (⟨name, d, (List.range n).map f⟩ : Series).take rows := by
  have hcells : (List.range rows.length).map g =
      rows.map (⟨name, d, (List.range n).map f⟩ : Series).cellAt := by
    apply List.ext_getElem
    · simp
    · intro j hj _
      have hj : j < rows.length := by simpa using hj
      have hi : (List.range n)[rows[j]]? = some rows[j] :=
        List.getElem?_range (hrows _ (List.getElem_mem hj))
      simp [h j hj, cellAt, List.getElem?_map, hi]
  rw [hcells]
  rfl

theorem range {name : String} {d : Dtype} {f g : Nat → Cell}
    (h : ∀ j (hj : j < rows.length), g j = f rows[j]) :
    Picked rows n ⟨name, d, (List.range n).map f⟩ ⟨name, d, (List.range rows.length).map g⟩ := by
  rw [map_range_take hrows h]
  exact .column (by simp [length])

theorem spread_take (h : Picked rows n s s') : s'.spread rows.length = (s.spread n).take rows := by
  rw [spread, h.name_eq, h.dtype_eq]
  exact map_range_take hrows fun j hj => h.spreadAt hrows hj

end

end Picked

/-! ## Operators -/

namespace PickedIn

theorem bind {x y : Outcome Series} {f g : Series → Outcome Series} (hx : PickedIn rows n x y)
    (hf : ∀ {a b}, Picked rows n a b → PickedIn rows n (f a) (g b)) :
    PickedIn rows n (x >>= f) (y >>= g) := by
  refine Yields.bind hx ?_
  intro a ha
  obtain ⟨b, rfl, hab⟩ := ha
  exact hf hab

theorem ok (h : Picked rows n s s') : PickedIn rows n (.ok s) (.ok s') := Yields.ok ⟨s', rfl, h⟩

section

variable (hrows : ∀ i ∈ rows, i < n)

include hrows

theorem mapM {f : Cell → Outcome Cell} {name : String} {d : Dtype} (h : Picked rows n s s') :
    PickedIn rows n (s.cells.mapM f >>= fun cells => .ok ⟨name, d, cells⟩)
      (s'.cells.mapM f >>= fun cells => .ok ⟨name, d, cells⟩) := by
  refine Yields.after ?_
  intro cells hcells
  have hall := mapM_eq_ok.mp hcells
  have hlen : s.cells.length = cells.length := hall.length_eq
  refine Yields.ok ?_
  cases h with
  | constant h =>
    rw [hcells]
    exact ⟨_, rfl, .constant (hlen.symm.trans h)⟩
  | column h =>
    -- At each selected row the computation gives the cell that it gives there over all rows.
    have hpicked : (s.take rows).cells.mapM f =
        .ok (rows.map (⟨name, d, cells⟩ : Series).cellAt) := by
      rw [mapM_eq_ok, Series.take, List.forall₂_map_left_iff, List.forall₂_map_right_iff,
        List.forall₂_same]
      intro i hi
      have hs : i < s.cells.length := lt_of_lt_of_eq (hrows i hi) h.symm
      have hc : i < cells.length := lt_of_lt_of_eq hs hlen
      have hcell := (List.forall₂_iff_get.mp hall).2 i hs hc
      simpa [cellAt, List.getElem?_eq_getElem hs, List.getElem?_eq_getElem hc] using hcell
    rw [hpicked]
    exact ⟨_, rfl, .column (hlen.symm.trans h)⟩

theorem map {f : Cell → Cell} {name : String} {d : Dtype} (h : Picked rows n s s') :
    PickedIn rows n (.ok ⟨name, d, s.cells.map f⟩) (.ok ⟨name, d, s'.cells.map f⟩) := by
  have hpure (cs : List Cell) : cs.mapM (fun c => (.ok (f c) : Outcome Cell)) = .ok (cs.map f) :=
    List.mapM_pure
  have hmap : PickedIn rows n
      (s.cells.mapM (fun c => .ok (f c)) >>= fun cells => .ok ⟨name, d, cells⟩)
      (s'.cells.mapM (fun c => .ok (f c)) >>= fun cells => .ok ⟨name, d, cells⟩) := mapM hrows h
  rwa [hpure, hpure] at hmap

theorem unary (op : UnaryOp) (h : Picked rows n s s') :
    PickedIn rows n (unary op s) (unary op s') := by
  rw [unary_eq, unary_eq, h.name_eq, h.dtype_eq]
  cases unaryType op s.dtype with
  | error fault => exact Yields.error fault
  | ok d => exact map hrows h

theorem string (op : StrOp) (h : Picked rows n s s') :
    PickedIn rows n (string op s) (string op s') := by
  unfold Eval.string
  rw [h.dtype_eq, h.name_eq]
  refine Yields.ite ?_ fun _ => Yields.error _
  intro hd
  rw [if_pos hd]
  exact mapM hrows h

theorem cast (target : DataType) (h : Picked rows n s s') :
    PickedIn rows n (.ok (cast s target)) (.ok (cast s' target)) := by
  rw [Eval.cast, Eval.cast, h.name_eq]
  exact map hrows h

/-- Two single cells stay one, over any rows. Else both results are spread, the one over all rows and
    the other over the selected ones, where the operands have the same cells. -/
theorem binary (op : BinaryOp) (hl : Picked rows n l l') (hr : Picked rows n r r') :
    PickedIn rows n (binary op l r) (binary op l' r') := by
  have spread (hm : l.length = n ∨ r.length = n)
      (hm' : l'.length = rows.length ∨ r'.length = rows.length) :
      PickedIn rows n (Eval.binary op l r) (Eval.binary op l' r') := by
    rw [binary_eq op hl.length_or hr.length_or hm,
      binary_eq op hl.length_selected_or hr.length_selected_or hm', hl.dtype_eq, hr.dtype_eq,
      resultName, resultName, hl.name_eq, hr.name_eq]
    cases resultType op l.dtype r.dtype with
    | error fault => exact Yields.error fault
    | ok d =>
      refine Yields.ok ⟨_, rfl, Picked.range hrows ?_⟩
      intro j hj
      rw [hl.spreadAt hrows hj, hr.spreadAt hrows hj]
  cases hl with
  | constant h1 =>
    cases hr with
    | constant h2 =>
      intro s hs
      refine ⟨s, hs, .constant ?_⟩
      rw [binary_eq op (.inl h1) (.inl h2) (.inl h1)] at hs
      obtain ⟨d, -, rfl⟩ := map_eq_ok.mp hs
      simp [length]
    | column h2 => exact spread (.inr h2) (.inr (length_take r rows))
  | column h1 => exact spread (.inl h1) (.inl (length_take l rows))

end

end PickedIn

/-! ## Expressions -/

/-- **What an expression is over selected rows comes from what it is over all rows**, if it looks at
    one row at a time. -/
theorem picked_eval [Sql.Reader] {e : Expr} (rowwise : e.Made Expr.isRowWise) (ht : t.WellFormed)
    (hrows : ∀ i ∈ rows, i < t.height) :
    PickedIn rows t.height (e.eval t) (e.eval (t.take rows)) := by
  induction e with
  | column name =>
    intro s hs
    have hs : t.column name = .ok s := hs
    have hpicked : (t.take rows).column name = .ok (s.take rows) := by
      rw [column_take, hs]
      rfl
    exact ⟨s.take rows, hpicked, .column (ht.1 s (mem_column s hs)).1⟩
  | literal v => exact .ok (.constant rfl)
  | unary op e ih =>
    exact (ih (rowwise.only rfl)).bind (.unary hrows op)
  | binary op l r ihl ihr =>
    refine (ihl rowwise.left).bind ?_
    intro a a' ha
    refine (ihr rowwise.right).bind ?_
    intro b b' hb
    exact .binary hrows op ha hb
  | cast e target ih =>
    exact (ih (rowwise.only rfl)).bind (.cast hrows target)
  | str op e ih =>
    exact (ih (rowwise.only rfl)).bind (.string hrows op)
  | aliased e name ih =>
    refine (ih (rowwise.only rfl)).bind ?_
    intro a a' ha
    exact .ok (ha.renamed name)
  | _ => exact absurd rowwise.self Bool.false_ne_true

/-- **Rows can be selected before an expression is evaluated or behind.** Let an expression be made of
columns, literals, operators, casts, functions of texts and aliases, and let it have a series over a
table. Then over any selection of the table's rows, in any order and with repetitions, it has a series
too, of the same name and type; and with both series spread over their tables, its cells are those of
the series over the whole table at the selected rows. -/
theorem eval_selected [Sql.Reader] {e : Expr} (rowwise : e.Made Expr.isRowWise) (ht : t.WellFormed)
    (hrows : ∀ i ∈ rows, i < t.height) (h : e.eval t = .ok s) :
    ∃ s', e.eval (t.take rows) = .ok s' ∧ s'.name = s.name ∧ s'.dtype = s.dtype ∧
      ∃ full full', s.broadcast t.height = .ok full ∧ s'.broadcast rows.length = .ok full' ∧
        full'.cells = (full.take rows).cells := by
  obtain ⟨s', hs', hpicked⟩ := picked_eval rowwise ht hrows s h
  refine ⟨s', hs', hpicked.name_eq, hpicked.dtype_eq, s.spread t.height, s'.spread rows.length,
    broadcast_eq hpicked.length_or, broadcast_eq hpicked.length_selected_or, ?_⟩
  rw [hpicked.spread_take hrows]

def readings : Table :=
  ⟨[⟨"n", .i64, [.int 1, .null, .int 3]⟩, ⟨"label", .str, [.str "a", .str "b", .str "c"]⟩], 3⟩

def raised : Expr := .aliased (.binary .add (.literal (.int 1)) (.column "n")) "m"

attribute [local instance] Sql.dialect

/-- Rows in another order, one of them twice: the literal goes with four rows as it goes with three. -/
theorem eval_selected_repeated : ∃ s', raised.eval (readings.take [2, 0, 2, 1]) = .ok s' ∧
    s'.name = "m" ∧ s'.dtype = .i64 ∧ ∃ full full',
      (⟨"m", .i64, [.int 2, .null, .int 4]⟩ : Series).broadcast 3 = .ok full ∧
        s'.broadcast 4 = .ok full' ∧ full'.cells = (full.take [2, 0, 2, 1]).cells := by
  have rowwise : raised.Made Expr.isRowWise := by
    simp [Expr.Made, Expr.isRowWise, Expr.nodes, raised]
  have wellFormed : readings.WellFormed := by
    simp [WellFormed, SeriesTyped, CellHas, Series.length, names, readings]
  have heval : raised.eval readings = .ok ⟨"m", .i64, [.int 2, .null, .int 4]⟩ := by decide +kernel
  exact eval_selected rowwise wellFormed (by decide) heval

end FramePlan.Eval
