import FramePlan.Proofs.Eval.Fading
import FramePlan.Sql.Parser.Statement

/-!
# Schemas of results

What an expression has for a name and a type, or for a fault, comes from the schema of the table, and from
whether it has rows. `schema_independent` says this of two tables of one schema.

1. If both have rows, or both have none, an expression has the same head on both, or the same fault. This
   is so of any two tables if there are no windows in it.
2. Between rows and no rows windows make a difference. On no rows a window does not report a fault of its
   inner expression (`sum_of_texts_hidden`), so it fails only if a column to partition by is missing. What
   succeeds on rows succeeds on no rows, under the same name and with the same type. What succeeds on no
   rows succeeds on rows if its windows do.
3. A window has no type on no rows. The second point is about expressions to which this does not matter:
   of what succeeds on rows, additions of texts have to keep a text; of what succeeds on no rows, operators
   must not look at the type of a window. Types are the same if they are not those of windows.

An overflow is neither a success nor an error, and it depends on the number of rows whether an offset
overflows. None does if the offsets of an expression are in range for the rows of the table.
-/
namespace FramePlan.Eval

open Table Series

variable {t u : Table} {s s' : Series} {spec : WindowSpec} {inner : Table → Outcome Series} {e : Expr}

/-- Without windows it does not matter whether there are rows. -/
theorem head_flat (flat : e.Made Expr.isFlat) (a b : Bool) (schema : List Head) :
    e.head a schema = e.head b schema := by
  induction e with
  | column name => rfl
  | literal v => rfl
  | raw text => rfl
  | window e spec ih => exact absurd flat.self Bool.false_ne_true
  | binary op l r ihl ihr => rw [Expr.head, Expr.head, ihl flat.left, ihr flat.right]
  | unary _ e ih | cast e _ ih | str _ e ih | agg _ e ih | offset _ e ih | aliased e _ ih =>
    rw [Expr.head, Expr.head, ih (flat.only rfl)]

/-- Without rows a window fails only if a column to partition by is missing. -/
theorem exists_window_empty (empty : u.height = 0) (hinner : Unstopped (inner u)) :
    (∃ s, window u spec inner = .ok s) ↔ ∀ k ∈ spec.partitionBy, ∃ c, u.column k = .ok c := by
  constructor
  · rintro ⟨s, h⟩
    obtain ⟨groups, hgroups⟩ := exists_of_bind_eq_ok h
    exact exists_mapM_eq_ok.mp (exists_of_bind_eq_ok hgroups)
  · intro hkeys
    obtain ⟨columns, named⟩ := exists_mapM_eq_ok.mpr hkeys
    obtain ⟨o, ho⟩ := hinner.exists_attempt
    rw [window_of_empty empty named, ho]
    exact ⟨_, rfl⟩

section

variable [Sql.Reader] (structured : e.Made Expr.isStructured) (ht : t.WellFormed) (hu : u.WellFormed)
  (same : t.schema = u.schema)

include structured ht

theorem head_of_eval (h : e.eval t = .ok s) : e.head (decide (0 < t.height)) t.schema = .ok s.head :=
  (headIs_eval True structured (.inl trivial) ht (Nat.le_refl _)).of_ok h

theorem map_head_eval (h : e.eval t ≠ .error .overflow) :
    (e.eval t).map Series.head = e.head (decide (0 < t.height)) t.schema :=
  (headIs_eval True structured (.inl trivial) ht (Nat.le_refl _)).resolve_right fun hover =>
    h hover.2

include hu

/-- An overflow on no rows is one on rows too: what succeeds on rows has no offset that is out of range for a
    row. -/
theorem unstopped_empty (filled : 0 < t.height) (empty : u.height = 0) (h : e.eval t = .ok s) :
    e.eval u ≠ .error .overflow := by
  have hrange := isInRange_of_eval ht filled h
  exact unstopped_eval structured hu (by omega) (by rwa [empty])

include same

theorem heads_agree (h : (0 < t.height ↔ 0 < u.height) ∨ e.Made Expr.isFlat)
    (htover : e.eval t ≠ .error .overflow) (huover : e.eval u ≠ .error .overflow) :
    (e.eval t).map Series.head = (e.eval u).map Series.head := by
  rw [map_head_eval structured ht htover, map_head_eval structured hu huover, same]
  obtain rows | flat := h
  · rw [decide_eq_decide.mpr rows]
  · exact head_flat flat _ _ _

/-- What succeeds on rows succeeds on no rows. -/
theorem eval_empty_of_filled (filled : 0 < t.height) (empty : u.height = 0)
    (texts : ∀ x ∈ e.nodes, x.KeepsText t.schema) (h : e.eval t = .ok s) :
    ∃ s', e.eval u = .ok s' ∧ s'.name = s.name ∧ (e.hasOwnType = true → s'.dtype = s.dtype) := by
  have hhead := head_of_eval structured ht h
  rw [decide_eq_true filled] at hhead
  obtain ⟨h', hh', hfades⟩ := Expr.fades_head texts hhead
  have hempty := map_head_eval structured hu (unstopped_empty structured ht hu filled empty h)
  rw [empty, ← same] at hempty
  obtain ⟨s', hs', rfl⟩ := map_eq_ok.mp (hempty.trans hh')
  exact ⟨s', hs', hfades.name, hfades.own⟩

/-- What succeeds on no rows succeeds on rows, if its windows do. -/
theorem eval_filled_of_empty (filled : 0 < t.height) (empty : u.height = 0)
    (checks : e.Made Expr.checksOwnTypes) (h : e.eval u = .ok s')
    (windows : ∀ w ∈ e.nodes, w.isFlat = false → ∃ r, w.eval t = .ok r)
    (hover : e.eval t ≠ .error .overflow) :
    ∃ s, e.eval t = .ok s ∧ s'.name = s.name ∧ (e.hasOwnType = true → s'.dtype = s.dtype) := by
  have hempty := head_of_eval structured hu h
  rw [decide_eq_false (by omega), ← same] at hempty
  obtain ⟨head, hhead⟩ | ⟨w, hm, hwindow, fault, hfault⟩ := Expr.unfades_head checks hempty
  · have hfilled := map_head_eval structured ht hover
    rw [decide_eq_true filled, hhead] at hfilled
    obtain ⟨s, hs, rfl⟩ := map_eq_ok.mp hfilled
    obtain ⟨h', hh', hfades⟩ :=
      Expr.fades_head (fun x hx => Expr.keepsText_of_checksOwnTypes (checks x hx)) hhead
    cases hh'.symm.trans hempty
    exact ⟨s, hs, hfades.name, hfades.own⟩
  · obtain ⟨r, hr⟩ := windows w hm hwindow
    have hfilled := head_of_eval (structured.of_mem hm) ht hr
    rw [decide_eq_true filled, hfault] at hfilled
    cases hfilled

end

/-- **The schema of a result comes from the schema of the table.** Let `t` and `u` have columns of the same
names and types in the same order, and let an expression be structured.

1. If both have rows, or both have none, or the expression has no window in it, it has the same fault on
   both, or series of the same name and type, unless an overflow stops it on one of them.
2. Let `t` have rows and `u` have none. What succeeds on `t` succeeds on `u`, if its additions of texts keep a
   text. What succeeds on `u` succeeds on `t`, if its operators look at no window's type and its windows
   succeed on `t`, unless an overflow stops it. The names are the same, and so are the types if they are not
   those of windows.
3. On no rows a window succeeds exactly if the columns to partition by are there.
4. No overflow stops an expression whose offsets are in range for the rows of the table. -/
theorem schema_independent [Sql.Reader] (structured : e.Made Expr.isStructured) (ht : t.WellFormed)
    (hu : u.WellFormed) (same : t.schema = u.schema) :
    ((0 < t.height ↔ 0 < u.height) ∨ e.Made Expr.isFlat →
      e.eval t ≠ .error .overflow → e.eval u ≠ .error .overflow →
        (e.eval t).map Series.head = (e.eval u).map Series.head) ∧
    (0 < t.height → u.height = 0 →
      (∀ s, e.eval t = .ok s → (∀ x ∈ e.nodes, x.KeepsText t.schema) →
        ∃ s', e.eval u = .ok s' ∧ s'.name = s.name ∧ (e.hasOwnType = true → s'.dtype = s.dtype)) ∧
      ∀ s', e.eval u = .ok s' → e.Made Expr.checksOwnTypes →
        (∀ w ∈ e.nodes, w.isFlat = false → ∃ r, w.eval t = .ok r) →
          e.eval t ≠ .error .overflow →
            ∃ s, e.eval t = .ok s ∧ s'.name = s.name ∧ (e.hasOwnType = true → s'.dtype = s.dtype)) ∧
    (u.height = 0 → e.eval u ≠ .error .overflow → ∀ spec,
      (∃ s, (Expr.window e spec).eval u = .ok s) ↔ ∀ k ∈ spec.partitionBy, ∃ c, u.column k = .ok c) ∧
    (t.height < 2 ^ 63 → e.Made (Expr.isInRange (max 1 t.height)) → e.eval t ≠ .error .overflow) := by
  refine ⟨?_, ?_, ?_, ?_⟩
  · exact heads_agree structured ht hu same
  · intro filled empty
    refine ⟨?_, ?_⟩
    · intro s h texts
      exact eval_empty_of_filled structured ht hu same filled empty texts h
    · intro s' h checks windows hover
      exact eval_filled_of_empty structured ht hu same filled empty checks h windows hover
  · intro empty hover spec
    exact exists_window_empty empty hover
  · exact unstopped_eval structured ht

/-- Sales of two kinds, with a gap. -/
def sales : Table :=
  ⟨[⟨"kind", .str, [.str "x", .str "y", .str "x"]⟩, ⟨"n", .i64, [.int 1, .null, .int 3]⟩], 3⟩

def total : Expr := .agg .sum (.column "n")

def before : Expr := .aliased (.window (.offset (.lag 1) (.column "n")) (.partitioned ["kind"])) "before"

/-- More sales than before. -/
def grows : Expr := .binary .gt (.column "n") before

theorem wellFormed_sales : sales.WellFormed := by
  simp [WellFormed, SeriesTyped, CellHas, Series.length, names, sales]

attribute [local instance] Sql.dialect

/-- The sum is `n`, of integers, without any sales too, and it has a window there. Whether sales grow is
    told by truth values, with sales or without, and what they were before has its name. Nothing here is
    stopped by an overflow. -/
theorem schema_independent_sales :
    (total.eval sales).map Series.head = (total.eval (sales.take [])).map Series.head ∧
      (∃ s, (Expr.window total (.partitioned ["kind"])).eval (sales.take []) = .ok s) ∧
      (∃ s', grows.eval (sales.take []) = .ok s' ∧ s'.name = "n" ∧ s'.dtype = .bool) ∧
      (∃ s, before.eval sales = .ok s ∧ "before" = s.name) ∧ before.eval sales ≠ .error .overflow := by
  have empty : sales.schema = (sales.take []).schema := (schema_take sales []).symm
  have hempty : (sales.take []).WellFormed := wellFormed_sales.take []
  have structured {e : Expr} (h : e ∈ [total, before, grows]) : e.Made Expr.isStructured := by
    revert e
    simp [Expr.Made, Expr.isStructured, Expr.nodes, total, before, grows]
  obtain ⟨heads, -, windows, -⟩ :=
    schema_independent (structured (e := total) (by simp)) wellFormed_sales hempty empty
  obtain ⟨-, forward, -, -⟩ :=
    schema_independent (structured (e := grows) (by simp)) wellFormed_sales hempty empty
  obtain ⟨-, backward, -, unstopped⟩ :=
    schema_independent (structured (e := before) (by simp)) wellFormed_sales hempty empty
  have hbefore : before.eval sales ≠ .error .overflow :=
    unstopped (by decide) (by simp [Expr.Made, Expr.isInRange, Expr.nodes, before]; decide)
  refine ⟨heads (.inr ?_) (by decide +kernel) (by decide +kernel), ?_, ?_, ?_, hbefore⟩
  · simp [Expr.Made, Expr.isFlat, Expr.nodes, total]
  · exact (windows rfl (by decide +kernel) _).mpr (by simp [WindowSpec.partitioned]; exact ⟨_, rfl⟩)
  · have hgrows : grows.eval sales = .ok ⟨"n", .bool, [.null, .null, .bool true]⟩ := by decide +kernel
    obtain ⟨s', hs', hname, hdtype⟩ := (forward (by decide) rfl).1 _ hgrows
      (by simp [Expr.nodes, grows, before, Expr.KeepsText])
    exact ⟨s', hs', hname, hdtype rfl⟩
  · have hnone : before.eval (sales.take []) = .ok ⟨"before", .null, []⟩ := by decide +kernel
    have windows : ∀ w ∈ before.nodes, w.isFlat = false → ∃ r, w.eval sales = .ok r := by
      simp only [before, Expr.nodes, List.forall_mem_cons, Expr.isFlat, List.not_mem_nil, reduceCtorEq,
        false_imp_iff, forall_const, and_true, true_and]
      exact ⟨⟨"n", .i64, [.null, .null, .int 1]⟩, by decide +kernel⟩
    obtain ⟨s, hs, hname, -⟩ := (backward (by decide) rfl).2 _ hnone
      (by simp [Expr.Made, Expr.checksOwnTypes, Expr.nodes, before]) windows hbefore
    exact ⟨s, hs, hname⟩

def kindSums : Expr := .window (.agg .sum (.column "kind")) (.partitioned ["n"])

/-- Texts have no sum. A window over sales says so; over no sales it has a column. -/
theorem sum_of_texts_hidden :
    kindSums.Made Expr.isStructured ∧ sales.WellFormed ∧ (sales.take []).WellFormed ∧
      sales.schema = (sales.take []).schema ∧
      kindSums.eval sales = .error (.aggregateType .sum .str "kind") ∧
      ∃ s, kindSums.eval (sales.take []) = .ok s := by
  have hempty : kindSums.eval (sales.take []) = .ok ⟨"", .null, []⟩ := by decide +kernel
  refine ⟨?_, wellFormed_sales, wellFormed_sales.take [], (schema_take sales []).symm,
    by decide +kernel, _, hempty⟩
  simp [Expr.Made, Expr.isStructured, Expr.nodes, kindSums]

def firstKind : Expr := .window (.agg .first (.column "kind")) (.partitioned ["n"])

/-- Two texts of windows are added to a text on rows, and to a number on no rows, which has no length. -/
example : (Expr.str .len (.binary .add firstKind firstKind)).eval sales =
      .ok ⟨"kind", .u32, [.int 2, .int 2, .int 2]⟩ ∧
    (Expr.str .len (.binary .add firstKind firstKind)).eval (sales.take []) =
      .error (.textExpected .len .i64) := by
  decide +kernel

/-- A text of a window is no truth value on rows, and may be one on no rows. -/
example : (Expr.unary .not firstKind).eval sales = .error (.unaryType .not .str) ∧
    (Expr.unary .not firstKind).eval (sales.take []) = .ok ⟨"kind", .bool, []⟩ := by
  decide +kernel

/-- By how far a row may be moved depends on how many rows there are. -/
example : (Expr.offset (.lead Int64.maxValue) (.column "n")).eval (sales.take [0]) =
      .ok ⟨"n", .i64, [.null]⟩ ∧
    (Expr.offset (.lead Int64.maxValue) (.column "n")).eval sales = .error .overflow := by
  decide +kernel

end FramePlan.Eval
