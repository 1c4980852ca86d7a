import FramePlan.Eval.Expr
import FramePlan.Proofs.Eval.Offsets
import FramePlan.Proofs.Eval.Windowing
import FramePlan.Proofs.Expr.Nodes
import FramePlan.Sql.Parser.Statement

/-!
# What the column of an expression is called

The name of a column is found from the inside out: an operand without a name of its own is called
`literal`, and a binary operator takes the name of its right operand exactly if the left one is called
that and the right one is not.

1. `name_eval`: what comes of this is the leftmost name that the expression has to give
   (`Expr.leadName?`), that is its alias, or else its leftmost column or alias, or else `literal`. It is
   so over every table that has the columns under just these names, provided that nothing is called
   `literal` on purpose (`Expr.NamedIn`).
2. `outputName_eq_iff`: `Expr.outputName` looks for the same name from the outside in, but into the
   left operand of a binary operator only one step deep. It finds the name exactly if no left operand
   that is nameless without being a literal hides a name on the right (`Expr.Foreseen`).
3. `name_foreseen` puts the two together, and `negated_literal_hides_name` is the operand that the
   condition is about: a negated literal, in front of a column.
-/
namespace FramePlan

open Table

namespace Expr

variable {e c : Expr} {t : Table} {name : String}

/-- The leftmost name in an expression that reaches its column: an alias hides what is inside it, and
    a literal has none. -/
def leadName? : Expr → Option String
  | .aliased _ name => some name
  | .column name => some name
  | .literal _ => none
  | .raw _ => none
  | .binary _ l r => l.leadName? <|> r.leadName?
  | .unary _ e => e.leadName?
  | .cast e _ => e.leadName?
  | .str _ e => e.leadName?
  | .agg _ e => e.leadName?
  | .offset _ e => e.leadName?
  | .window e _ => e.leadName?

theorem mem_nodes_of_leadName? (h : e.leadName? = some name) :
    .column name ∈ e.nodes ∨ ∃ x, .aliased x name ∈ e.nodes := by
  -- What is found in a child stands in the expression, so only the nodes with a name are left.
  have lift {c e : Expr} (hc : c ∈ e.children)
      (hm : .column name ∈ c.nodes ∨ ∃ x, .aliased x name ∈ c.nodes) :
      .column name ∈ e.nodes ∨ ∃ x, .aliased x name ∈ e.nodes := by
    have hsub := nodes_subset_of_child hc
    exact hm.imp (fun hx => hsub hx) fun ⟨x, hx⟩ => ⟨x, hsub hx⟩
  induction e with
  | column n =>
    obtain rfl := Option.some.inj h
    exact .inl (self_mem_nodes _)
  | aliased x n ih =>
    obtain rfl := Option.some.inj h
    exact .inr ⟨x, self_mem_nodes _⟩
  | literal v => cases h
  | raw text => cases h
  | binary op l r ihl ihr =>
    rw [leadName?] at h
    cases hl : l.leadName? with
    | some n =>
      rw [hl] at h
      exact lift List.mem_cons_self (ihl (hl.trans h))
    | none =>
      rw [hl] at h
      exact lift (List.mem_cons_of_mem _ (List.mem_singleton_self r)) (ihr h)
  | unary _ e ih | cast e _ ih | str _ e ih | agg _ e ih | offset _ e ih | window e _ ih =>
    exact lift (List.mem_singleton_self e) (ih h)

/-- The table has the columns of the expression under just their names, and no column and no alias in
    it is called `literal`, which is what nameless columns are called. -/
structure NamedIn (e : Expr) (t : Table) : Prop where
  exact : ∀ name, .column name ∈ e.nodes → name ∈ t.names
  column_ne : .column "literal" ∉ e.nodes
  alias_ne : ∀ x, .aliased x "literal" ∉ e.nodes

theorem NamedIn.child (h : e.NamedIn t) (hc : c ∈ e.children) : c.NamedIn t := by
  have hsub := nodes_subset_of_child hc
  refine ⟨?_, ?_, ?_⟩
  · intro name hn
    exact h.exact name (hsub hn)
  · intro hm
    exact h.column_ne (hsub hm)
  · intro x hm
    exact h.alias_ne x (hsub hm)

theorem NamedIn.take (h : e.NamedIn t) (rows : List Nat) : e.NamedIn (t.take rows) := by
  refine ⟨?_, h.column_ne, h.alias_ne⟩
  intro name hn
  rw [names_take]
  exact h.exact name hn

theorem NamedIn.leadName?_ne (h : e.NamedIn t) : e.leadName? ≠ some "literal" := by
  intro hn
  obtain hm | ⟨x, hm⟩ := mem_nodes_of_leadName? hn
  · exact h.column_ne hm
  · exact h.alias_ne x hm

end Expr

/-! ## Names of results -/

namespace Eval

variable {s l r : Series} {n : Nat}

theorem broadcast_name : Yields (s.broadcast n) fun full => full.name = s.name :=
  fun _ h => (Series.broadcast_spec h).1

theorem name_after {x : Outcome Series} {f : Series → Outcome Series} {name : String}
    (hx : Yields x fun s => s.name = name) (hf : ∀ s, Yields (f s) fun r => r.name = s.name) :
    Yields (x >>= f) fun r => r.name = name := by
  refine Yields.bind hx ?_
  intro s hs
  exact (hf s).mono fun r hr => hr.trans hs

theorem unary_name (op : UnaryOp) (s : Series) : Yields (unary op s) fun r => r.name = s.name := by
  cases op with
  | isNull => exact .ok rfl
  | isNotNull => exact .ok rfl
  | not => exact .ite (fun _ => .ok rfl) fun _ => .error _
  | neg => exact .ite (fun _ => .ok rfl) fun _ => .error _

theorem string_name (op : StrOp) (s : Series) : Yields (string op s) fun r => r.name = s.name := by
  refine Yields.ite ?_ fun _ => .error _
  intro _
  refine Yields.after ?_
  intro cells _
  exact Yields.ok rfl

theorem aggregate_name (op : AggOp) (s : Series) :
    Yields (aggregate op s) fun r => r.name = s.name :=
  .ite (fun _ => .error _) fun _ => .ok rfl

theorem shifted_name (func : OffsetFunc) (s : Series) :
    Yields (shifted func s) fun r => r.name = s.name :=
  fun _ hr => (offsetSteps_spec (shifted_eq_ok.mp hr)).1

theorem binary_name (op : BinaryOp) (l r : Series) :
    Yields (binary op l r) fun s => s.name = resultName l r := by
  have halign : Yields (align l r) fun p => p.1.name = l.name ∧ p.2.name = r.name := by
    refine Yields.bind broadcast_name ?_
    intro l' hl
    refine Yields.bind broadcast_name ?_
    intro r' hr
    exact Yields.ok ⟨hl, hr⟩
  refine Yields.bind halign ?_
  intro p hp
  refine Yields.after ?_
  intro d _
  refine Yields.ok ?_
  simp only [resultName, hp.1, hp.2]

/-- Of two operands that are called `literal` unless they have a name, a binary operator takes the
    first name. -/
theorem resultName_eq {x y : Option String} (hl : l.name = x.getD "literal")
    (hr : r.name = y.getD "literal") (hx : x ≠ some "literal") :
    resultName l r = (x <|> y).getD "literal" := by
  unfold resultName
  cases x with
  | none =>
    have hl : l.name = "literal" := hl
    have hy : (none <|> y).getD "literal" = r.name := by rw [hr]; rfl
    rw [hy, hl]
    split
    · rfl
    · rename_i hboth
      by_contra hne
      exact hboth ⟨rfl, fun h => hne h.symm⟩
  | some name =>
    have hl : l.name = name := hl
    have hne : l.name ≠ "literal" := fun h => hx (congrArg some (hl.symm.trans h))
    rw [if_neg fun h => hne h.1, hl]
    rfl

/-! ## Names of columns -/

/-- **The column of an expression has the leftmost name in it**, or is called `literal`. A window has
    to have rows to look at, since it is called what its inner expression is called over them. -/
theorem name_eval [Sql.Reader] {e : Expr} (tree : e.Made Expr.isTree) : ∀ {t : Table}, e.NamedIn t →
    0 < t.height ∨ e.Made Expr.isFlat →
      Yields (e.eval t) fun s => s.name = e.leadName?.getD "literal" := by
  induction e with
  | column name =>
    intro t named _
    exact name_column (named.exact name (Expr.self_mem_nodes _))
  | literal v => exact fun _ _ => .ok rfl
  | raw text => exact absurd tree.self Bool.false_ne_true
  | aliased e name ih =>
    intro t named rows
    refine Yields.after ?_
    intro s _
    exact Yields.ok rfl
  | unary op e ih =>
    intro t named rows
    have hc := List.mem_singleton_self e
    exact name_after (ih (tree.child hc) (named.child hc) (rows.imp id (·.child hc))) (unary_name op)
  | binary op l r ihl ihr =>
    intro t named rows
    have hl : l ∈ (Expr.binary op l r).children := List.mem_cons_self
    have hr : r ∈ (Expr.binary op l r).children := List.mem_cons_of_mem _ (List.mem_singleton_self r)
    refine Yields.bind (ihl (tree.child hl) (named.child hl) (rows.imp id (·.child hl))) ?_
    intro a ha
    refine Yields.bind (ihr (tree.child hr) (named.child hr) (rows.imp id (·.child hr))) ?_
    intro b hb
    refine (binary_name op a b).mono ?_
    intro s hs
    exact hs.trans (resultName_eq ha hb (named.child hl).leadName?_ne)
  | cast e target ih =>
    intro t named rows
    have hc := List.mem_singleton_self e
    exact name_after (ih (tree.child hc) (named.child hc) (rows.imp id (·.child hc)))
      fun _ => .ok rfl
  | str op e ih =>
    intro t named rows
    have hc := List.mem_singleton_self e
    exact name_after (ih (tree.child hc) (named.child hc) (rows.imp id (·.child hc))) (string_name op)
  | agg op e ih =>
    intro t named rows
    have hc := List.mem_singleton_self e
    exact name_after (ih (tree.child hc) (named.child hc) (rows.imp id (·.child hc)))
      (aggregate_name op)
  | offset func e ih =>
    intro t named rows
    have hc := List.mem_singleton_self e
    exact name_after (ih (tree.child hc) (named.child hc) (rows.imp id (·.child hc)))
      (shifted_name func)
  | window e spec ih =>
    intro t named rows
    have hc : e ∈ (Expr.window e spec).children := List.mem_singleton_self e
    have filled : 0 < t.height := rows.resolve_right fun flat => Bool.false_ne_true flat.self
    refine window_name (P := (· = e.leadName?.getD "literal")) filled ?_
    intro part hpart
    exact ih (tree.child hc) ((named.child hc).take part) (.inl (List.length_pos_of_ne_nil hpart))

end Eval

/-! ## Names foreseen -/

namespace Expr

variable {e : Expr}

/-- No left operand hides a name: where it is not a literal and has no name, the right operand has none
    either. Only operators whose name is the name of the whole expression count. -/
def Foreseen : Expr → Prop
  | .binary _ l r =>
    if l.isLiteral then r.Foreseen else l.Foreseen ∧ (l.leadName? = none → r.leadName? = none)
  | .aliased _ _ => True
  | .column _ => True
  | .literal _ => True
  | .raw _ => True
  | .unary _ e => e.Foreseen
  | .cast e _ => e.Foreseen
  | .str _ e => e.Foreseen
  | .agg _ e => e.Foreseen
  | .offset _ e => e.Foreseen
  | .window e _ => e.Foreseen

theorem leadName?_of_isLiteral (h : e.isLiteral = true) : e.leadName? = none := by
  cases e with
  | literal v => rfl
  | _ => cases h

theorem outputName_of_nameless (tree : e.Made isTree) (h : e.leadName? = none) :
    e.outputName = "literal" := by
  induction e with
  | column name => cases h
  | aliased e name ih => cases h
  | literal v => rfl
  | raw text => exact absurd tree.self Bool.false_ne_true
  | binary op l r ihl ihr =>
    obtain ⟨hl, hr⟩ : l.leadName? = none ∧ r.leadName? = none := by
      simpa [leadName?] using h
    rw [outputName]
    split
    · exact ihr tree.right hr
    · exact ihl tree.left hl
  | unary _ e ih | cast e _ ih | str _ e ih | agg _ e ih | offset _ e ih | window e _ ih =>
    exact ih (tree.only rfl) h

/-- **The leftmost name is the expected one exactly if no left operand hides it.** -/
theorem outputName_eq_iff {t : Table} (tree : e.Made isTree) (named : e.NamedIn t) :
    e.leadName?.getD "literal" = e.outputName ↔ e.Foreseen := by
  induction e with
  | column name => exact iff_of_true rfl trivial
  | literal v => exact iff_of_true rfl trivial
  | aliased e name ih => exact iff_of_true rfl trivial
  | raw text => exact absurd tree.self Bool.false_ne_true
  | binary op l r ihl ihr =>
    have hl : l ∈ (Expr.binary op l r).children := List.mem_cons_self
    have hr : r ∈ (Expr.binary op l r).children := List.mem_cons_of_mem _ (List.mem_singleton_self r)
    have left := ihl (tree.child hl) (named.child hl)
    have right := ihr (tree.child hr) (named.child hr)
    rw [leadName?, outputName, Foreseen]
    by_cases lit : l.isLiteral = true
    · rw [if_pos lit, if_pos lit, leadName?_of_isLiteral lit, ← right]
      rfl
    · rw [if_neg lit, if_neg lit, ← left]
      cases hn : l.leadName? with
      | some name => simp
      | none =>
        -- The name is the right operand's now, and the expected one is still `literal`.
        have expected := outputName_of_nameless (tree.child hl) hn
        have hne := (named.child hr).leadName?_ne
        rw [expected]
        cases hm : r.leadName? with
        | none => simp
        | some name =>
          rw [hm] at hne
          have hname : name ≠ "literal" := fun h => hne (congrArg some h)
          simp [hname]
  | unary _ e ih | cast e _ ih | str _ e ih | agg _ e ih | offset _ e ih | window e _ ih =>
    have hc := List.mem_singleton_self e
    exact ih (tree.child hc) (named.child hc)

end Expr

namespace Eval

/-- **The expected name is the name of the column exactly if no left operand hides it.** Over a table
that has rows and the columns of the expression under just their names, where nothing is called
`literal` on purpose, the column of an expression without raw fragments has the leftmost name in it, or
is called `literal`; and this is its expected name exactly if every left operand that is no literal and
has no name stands beside a right operand without a name. -/
theorem name_foreseen [Sql.Reader] {e : Expr} {t : Table} {s : Series} (tree : e.Made Expr.isTree)
    (named : e.NamedIn t) (filled : 0 < t.height) (h : e.eval t = .ok s) :
    s.name = e.leadName?.getD "literal" ∧ (s.name = e.outputName ↔ e.Foreseen) := by
  have hname : s.name = e.leadName?.getD "literal" := name_eval tree named (.inl filled) s h
  refine ⟨hname, ?_⟩
  rw [hname]
  exact Expr.outputName_eq_iff tree named

/-- Amounts in two groups, with a gap. -/
def amounts : Table :=
  ⟨[⟨"k", .str, [.str "x", .str "y", .str "x"]⟩, ⟨"n", .i64, [.int 1, .null, .int 3]⟩], 3⟩

/-- The sum of the doubled amounts of each group. -/
def doubledSums : Expr :=
  .window (.agg .sum (.binary .mul (.literal (.int 2)) (.column "n"))) (.partitioned ["k"])

attribute [local instance] Sql.dialect

/-- The literal on the left gives way, inside the sum and the window: the column is called `n`, as
    expected. -/
theorem name_foreseen_doubledSums :
    doubledSums.eval amounts = .ok ⟨"n", .i64, [.int 8, .int 0, .int 8]⟩ ∧
      doubledSums.NamedIn amounts ∧ "n" = doubledSums.outputName := by
  have heval : doubledSums.eval amounts = .ok ⟨"n", .i64, [.int 8, .int 0, .int 8]⟩ := by
    decide +kernel
  have htree : doubledSums.Made Expr.isTree := by
    simp [Expr.Made, Expr.isTree, Expr.nodes, doubledSums]
  have hnamed : doubledSums.NamedIn amounts := by
    refine ⟨?_, ?_, ?_⟩ <;> simp [Expr.nodes, doubledSums, names, amounts]
  refine ⟨heval, hnamed, ?_⟩
  refine (name_foreseen htree hnamed (by decide) heval).2.mpr ?_
  simp [Expr.Foreseen, Expr.isLiteral, doubledSums]

def lessOne : Expr := .binary .add (.unary .neg (.literal (.int 1))) (.column "n")


/-- A negated literal hides the name behind it: it is not a literal, and it has no name. The column is
    called `n` after its only column, and expected to be called `literal`. -/
theorem negated_literal_hides_name :
    lessOne.Made Expr.isTree ∧ amounts.WellFormed ∧ 0 < amounts.height ∧ lessOne.NamedIn amounts ∧
      lessOne.eval amounts = .ok ⟨"n", .i64, [.int 0, .null, .int 2]⟩ ∧
      lessOne.outputName = "literal" := by
  refine ⟨?_, ?_, by decide, ?_, by decide +kernel, rfl⟩
  · simp [Expr.Made, Expr.isTree, Expr.nodes, lessOne]
  · simp [WellFormed, SeriesTyped, CellHas, Series.length, names, amounts]
  · refine ⟨?_, ?_, ?_⟩ <;> simp [Expr.nodes, lessOne, names, amounts]

end Eval
end FramePlan
