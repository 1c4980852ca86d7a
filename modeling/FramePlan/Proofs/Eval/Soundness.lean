import FramePlan.Eval.Plan
import FramePlan.Proofs.Sql.Typing
import FramePlan.Sql.Parser.Statement

/-!
# Types of plans

Evaluation is sound for types: expressions and selectors give fitting series on well-formed tables,
every operation makes a well-formed table of well-formed tables, and so does a plan, by the recursion
of the plan and of the plans that its joins and concatenations hold.
-/
namespace FramePlan

open Table

namespace Eval

variable {t : Table}

/-! ## Expressions -/

theorem fitting_eval [Sql.Reader] (e : Expr) : Fitting e.eval := by
  induction e with
  | column name => exact fun t ht => ht.column name
  | literal v => exact fun t _ => .ok (fits_literal v)
  | unary op e ih =>
    intro t ht
    refine Yields.bind (ih t ht) ?_
    intro s hs
    exact fits_unary op hs
  | binary op l r ihl ihr =>
    intro t ht
    refine Yields.bind (ihl t ht) ?_
    intro a ha
    refine Yields.bind (ihr t ht) ?_
    intro b hb
    exact fits_binary op ha hb
  | cast e target ih =>
    intro t ht
    refine Yields.bind (ih t ht) ?_
    intro s hs
    exact .ok (fits_cast hs target)
  | str op e ih =>
    intro t ht
    refine Yields.bind (ih t ht) ?_
    intro s hs
    exact fits_string op hs
  | agg op e ih =>
    intro t ht
    refine Yields.bind (ih t ht) ?_
    intro s hs
    exact fits_aggregate op hs.typed
  | offset func e ih =>
    intro t ht
    refine Yields.bind (ih t ht) ?_
    intro s hs
    exact fits_shifted func hs
  | window e spec ih => exact fun t ht => fits_window ih ht spec
  | aliased e name ih =>
    intro t ht
    refine Yields.bind (ih t ht) ?_
    intro s hs
    exact .ok (hs.renamed name)
  | raw text => exact fun t ht => Sql.fits_evalFragment ht text

theorem fitting_selector [Sql.Reader] (x : Selector) : Fitting x.eval := by
  cases x with
  | name column => exact fun t ht => ht.column column
  | expr e => exact fitting_eval e
  | raw text => exact fun t ht => Sql.fits_evalFragment ht text

/-! ## Operations -/

theorem typed_items [Sql.Reader] (ht : t.WellFormed) (items : List Selector) :
    Yields (items.mapM (·.eval t)) fun series => ∀ s ∈ series, SeriesTyped s :=
  Yields.mapM fun x _ => (fitting_selector x t ht).mono fun _ hs => hs.typed

theorem wellFormed_select [Sql.Reader] (ht : t.WellFormed) (items : List Selector) :
    Yields (select t items) WellFormed :=
  Yields.bind (typed_items ht items) fun _ h => typing.project h

theorem wellFormed_filter [Sql.Reader] (ht : t.WellFormed) (predicate : Selector) :
    Yields (filter t predicate) WellFormed :=
  Yields.after fun s _ => typing.mask ht s

/-- All columns are evaluated first, so each is put into a table that is still well formed. -/
theorem wellFormed_withColumns [Sql.Reader] (ht : t.WellFormed) (items : List Selector) :
    Yields (withColumns t items) WellFormed := by
  refine Yields.bind (typed_items ht items) ?_
  intro series h
  exact Yields.foldlM (fun u hu s hs => (hu.upsert (h s hs)).mono fun _ hr => hr.1) ht

theorem wellFormed_groupBy [Sql.Reader] (ht : t.WellFormed) (keys aggs : List Selector) :
    Yields (groupBy t keys aggs) WellFormed := by
  refine Yields.bind (P := fun series => ∀ s ∈ series, SeriesTyped s)
    (Yields.mapM fun k _ => ?_) fun series h => ?_
  · refine Yields.bind (fitting_selector k t ht) ?_
    intro s hs
    exact (Series.full_broadcast hs.typed).mono fun _ hf => hf.1
  · refine typing.groupTable h fun item hm => ?_
    obtain ⟨a, -, rfl⟩ := List.mem_map.mp hm
    exact typed_aggregateGroups (fitting_selector a) ht _

theorem wellFormed_countTable (t : Table) : Yields (countTable t) WellFormed := by
  have hcount : CellHas .u32 (Cell.ofCount t.height) := .inr rfl
  refine wellFormed_ofColumns fun c hc => ?_
  rw [List.mem_singleton.mp hc]
  exact (Series.Fits.scalar (n := 1) hcount).typed

theorem wellFormed_source [Sql.Reader] (files : Files) (op : Operation) :
    Yields (source files op) WellFormed := by
  cases op with
  | readCsv path options => exact typing.read typed_columnOf files path options
  | fromMemory columns =>
    exact Yields.bind (Yields.mapM fun c _ => typed_ofValues c.name c.values) fun _ h =>
      wellFormed_ofColumns h
  | query sql => exact Sql.wellFormed_query (fun t h => absurd h (Option.not_mem_none t)) sql
  | _ => exact .error _

/-! ## Plans -/

mutual

theorem wellFormed_apply [Sql.Reader] (files : Files) {t : Table} (ht : t.WellFormed) : ∀ (op : Operation),
    Yields (apply files t op) WellFormed
  | .query sql => Sql.wellFormed_query (fun u hu => by cases hu; exact ht) sql
  | .select items => wellFormed_select ht items
  | .filter predicate => wellFormed_filter ht predicate
  | .withColumns items => wellFormed_withColumns ht items
  | .groupBy keys aggs => wellFormed_groupBy ht keys aggs
  | .sort fields => typing.sort ht _
  | .limit n => .ok (ht.truncate n.toNat)
  | .join other spec =>
    Yields.bind (wellFormed_run files other) fun u hu => typing.join ht hu spec
  | .concat other => Yields.bind (wellFormed_run files other) fun u hu => typing.concat ht hu
  | .count => wellFormed_countTable t
  | .readCsv _ _ => .error _
  | .fromMemory _ => .error _

theorem wellFormed_run [Sql.Reader] (files : Files) : ∀ (ops : Plan), Yields (run files ops) WellFormed
  | [] => .error _
  | op :: rest => Yields.bind (wellFormed_source files op) fun _ ht => wellFormed_applyAll files ht rest

theorem wellFormed_applyAll [Sql.Reader] (files : Files) {t : Table} (ht : t.WellFormed) : ∀ (ops : Plan),
    Yields (applyAll files t ops) WellFormed
  | [] => .ok ht
  | op :: rest =>
    Yields.bind (wellFormed_apply files ht op) fun _ hu => wellFormed_applyAll files hu rest

end

/-- **Evaluation is sound for types.** The table of a plan is well formed, whatever syntax trees its
texts are read as: its columns have its height, distinct names, and cells that are null or of their
types. On a well-formed table, expressions, selectors and select items of any syntax tree give typed
series of one cell or of one for each row, and the rows of a SELECT of any syntax tree, sorted and
cut, are a well-formed table. -/
theorem evaluation_sound [Sql.Reader] (files : Files) :
    (∀ ops t, Plan.run files ops = .ok t → t.WellFormed) ∧
    (∀ t : Table, t.WellFormed → ∀ s : Series,
      (∃ e : Expr, e.eval t = .ok s) ∨ (∃ x : Selector, x.eval t = .ok s) ∨
          (∃ item : Sql.Item, item.eval t = .ok s) →
        SeriesTyped s ∧ (s.length = 1 ∨ s.length = t.height)) ∧
    ∀ (select : Sql.Select) (order : List Sql.OrderItem) (limit : Option Sql.Expr)
      (input : Option Table) (t : Table), (∀ u ∈ input, u.WellFormed) →
        (do
          let output ← select.rows input
          let sorted ← Sql.ordered output order
          Sql.limited sorted limit) = .ok t → t.WellFormed := by
  refine ⟨?_, ?_, ?_⟩
  · intro ops t h
    have hrun := wellFormed_run files ops
    unfold Plan.run at h
    cases hr : run files ops with
    | error fault => simp [hr, Except.mapError] at h
    | ok u =>
      rw [hr] at h
      cases h
      exact hrun t hr
  · intro t ht s hs
    rcases hs with ⟨e, he⟩ | ⟨x, hx⟩ | ⟨item, hi⟩
    · exact ⟨(fitting_eval e t ht s he).typed, (fitting_eval e t ht s he).spread⟩
    · exact ⟨(fitting_selector x t ht s hx).typed, (fitting_selector x t ht s hx).spread⟩
    · exact ⟨(Sql.fits_item ht item s hi).typed, (Sql.fits_item ht item s hi).spread⟩
  · intro select order limit input t hi h
    refine Yields.bind (Sql.wellFormed_rows hi select) (fun output ho => ?_) t h
    refine Yields.bind (typing.ordered ho order) ?_
    intro _ hs
    exact typing.limited hs limit

/-- A column of an integer and a null. -/
def halfNull : Table := ⟨[⟨"n", .i64, [.int 1, .null]⟩], 2⟩

def selectN : Sql.Select :=
  ⟨none, "", [.unnamed (.ident ⟨"n", none⟩)], "", [⟨"df", true, "", false, []⟩], "", none, .exprs [],
    "", none, ""⟩

attribute [local instance] Sql.dialect

/-- The table comes of a plan, an aggregate of its column is an integer, and a SELECT over it gives
    its column. -/
theorem evaluation_sound_halfNull :
    halfNull.WellFormed ∧
    (SeriesTyped ⟨"n", .i64, [.int 1]⟩ ∧
      (Series.length ⟨"n", .i64, [.int 1]⟩ = 1 ∨
        Series.length ⟨"n", .i64, [.int 1]⟩ = halfNull.height)) ∧
    (∀ u ∈ some halfNull, u.WellFormed) ∧
    Table.WellFormed ⟨[⟨"n", .i64, [.int 1, .null]⟩], 2⟩ := by
  have ht : halfNull.WellFormed :=
    (evaluation_sound []).1 [.fromMemory [⟨"n", [.int 1, .null]⟩]] halfNull rfl
  have hi : ∀ u ∈ some halfNull, u.WellFormed := by
    intro u hu
    cases hu
    exact ht
  refine ⟨ht, ?_, hi, ?_⟩
  · exact (evaluation_sound []).2.1 halfNull ht _ (.inl ⟨.agg .sum (.column "n"), rfl⟩)
  · exact (evaluation_sound []).2.2 selectN [] none (some halfNull) _ hi rfl

end Eval
end FramePlan
