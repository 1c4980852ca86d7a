import FramePlan.Proofs.Eval.ColumnRules
import FramePlan.Sql.Query

/-!
# Rules for the cells of queries

A rule for the cells of columns goes through a query where the query only moves cells: through the arguments
of a call, where a cell is the first of several that is not null, through the branches of a `CASE`, and
through the rows that a statement takes, sorts and cuts. Operators, casts and aggregates make new cells, and
keep a rule for reasons of its own.
-/
namespace FramePlan

open Eval Sql Series

namespace Sql

variable {P Q : Series → Prop} {args : List Given} {n : Nat}

/-- The series of the argument, if it is one, has the property. -/
def Given.Meets (P : Series → Prop) : Given → Prop
  | .series result => Yields result P
  | .star => True
  | .foreign _ => True

theorem Given.Meets.mono {a : Given} (h : a.Meets P) (hPQ : ∀ s, P s → Q s) : a.Meets Q := by
  cases a with
  | series result => exact Yields.mono h hPQ
  | star => trivial
  | foreign text => trivial

theorem meets_understood : ∀ {args : List Given}, (∀ a ∈ args, a.Meets P) →
    Yields (understood args) fun more => ∀ a ∈ more, a.Meets P
  | [], h => .ok h
  | .foreign text :: _, _ => .error _
  | .star :: rest, h => by
    refine Yields.bind (meets_understood fun a ha => h a (List.mem_cons_of_mem _ ha)) ?_
    exact fun more hm => .ok (List.forall_mem_cons.mpr ⟨trivial, hm⟩)
  | .series result :: rest, h => by
    refine Yields.bind (meets_understood fun a ha => h a (List.mem_cons_of_mem _ ha)) ?_
    exact fun more hm => .ok (List.forall_mem_cons.mpr ⟨h _ List.mem_cons_self, hm⟩)

theorem meets_single (name : String) (h : ∀ a ∈ args, a.Meets P) : Yields (single name args) P := by
  unfold single
  split
  · exact h _ (List.mem_singleton_self _)
  · exact .error _

theorem meets_seriesOnly : ∀ {args : List Given}, (∀ a ∈ args, a.Meets P) →
    Yields (seriesOnly args) fun more => ∀ s ∈ more, P s
  | [], _ => .ok fun _ hs => absurd hs List.not_mem_nil
  | .series result :: rest, h => by
    refine Yields.bind (h _ List.mem_cons_self) fun s hs => ?_
    refine Yields.bind (meets_seriesOnly fun a ha => h a (List.mem_cons_of_mem _ ha)) ?_
    exact fun more hm => .ok (List.forall_mem_cons.mpr ⟨hs, hm⟩)
  | .star :: _, _ => .error _
  | .foreign _ :: _, _ => .error _

/-! ## Lengths -/

theorem length_fillNulls {out next : Series} (ho : out.length = n) (hn : next.length = n) :
    Yields (fillNulls out next) fun s => s.length = n := by
  refine Yields.after fun d _ => .ok ?_
  have h1 : out.cells.length = n := ho
  have h2 : next.cells.length = n := hn
  rw [Series.length, List.length_zipWith, h1, h2, Nat.min_self]

theorem length_coalesce : Yields (coalesce n args) fun s => s.length = n := by
  have spread {s : Series} : Yields (s.broadcast n) fun full => full.length = n :=
    fun full hf => (broadcast_spec hf).2.2.1
  refine Yields.after fun series _ => ?_
  cases series with
  | nil => exact .error _
  | cons first rest =>
    refine Yields.bind spread fun start hstart => ?_
    refine Yields.bind (P := fun s => s.length = n) (Yields.foldlM ?_ hstart) fun out ho => ?_
    · exact fun out ho next _ => Yields.bind spread fun _ hn => length_fillNulls ho hn
    · exact .ok ((List.length_map _).trans ho)

theorem length_caseSeries {branches : List (Series × Series)} {fallback : Series} :
    Yields (caseSeries n branches fallback) fun s => s.length = n :=
  Yields.after fun d _ => .ok (by simp [Series.length, coerce])

theorem sourceRows_spec {P : Table → Prop} (unit : P .unit) {input : Option Table}
    (hi : ∀ t ∈ input, P t) (sources : List Source) : Yields (sourceRows input sources) P := by
  unfold sourceRows
  split
  · exact .ok unit
  · refine Yields.ite (fun _ => .error _) fun _ => Yields.ite (fun _ => ?_) fun _ => .error _
    cases input with
    | none => exact .error _
    | some t => exact .ok (hi t rfl)
  · exact .error _

end Sql

namespace ColumnRule

variable {has takes : Dtype → Cell → Prop} {good : Table → Prop} (rule : ColumnRule has takes good)
  {t : Table} {n : Nat} {item : Item} {items : List Item}

include rule

/-! ## Cells of several series -/

theorem fillNulls {out next : Series} (ho : out.Holds takes) (hn : next.Holds takes) :
    Yields (Sql.fillNulls out next) (Holds takes) :=
  Yields.after fun _ hd => .ok (forall_mem_orElse (rule.takes_left ho hd) (rule.takes_right hn hd))

theorem coalesce {args : List Given} (h : ∀ a ∈ args, a.Meets (Holds has)) :
    Yields (Sql.coalesce n args) (Holds has) := by
  refine Yields.bind (meets_seriesOnly h) fun series hs => ?_
  cases series with
  | nil => exact .error _
  | cons first rest =>
    obtain ⟨hf, hr⟩ := List.forall_mem_cons.mp hs
    refine Yields.bind (hf.broadcast n) fun start hstart => ?_
    refine Yields.bind (P := Holds takes) (Yields.foldlM ?_ (rule.holds_taken hstart)) fun out ho =>
      .ok (rule.holds_coerce ho)
    intro out ho next hm
    exact Yields.bind ((hr next hm).broadcast n) fun _ hn => rule.fillNulls ho (rule.holds_taken hn)

theorem branches : ∀ {branches : List (Series × Series)} {a d : Dtype},
    branches.foldlM (fun d b => unify d b.2.dtype) a = .ok d →
      (∀ c, takes a c → takes d c) ∧ ∀ b ∈ branches, ∀ c, takes b.2.dtype c → takes d c
  | [], _, _, h => by
    cases h
    exact ⟨fun _ hc => hc, fun _ hb => absurd hb List.not_mem_nil⟩
  | b :: bs, a, d, h => by
    rw [List.foldlM_cons] at h
    obtain ⟨u, hu, h⟩ := bind_eq_ok.mp h
    obtain ⟨hw, hbs⟩ := branches h
    have hu := unify_eq_ok.mp hu
    refine ⟨fun c hc => hw c (rule.widen hu hc), List.forall_mem_cons.mpr ⟨?_, hbs⟩⟩
    exact fun c hc => hw c (rule.widen ((Dtype.unify?_comm _ _).trans hu) hc)

theorem caseSeries {branches : List (Series × Series)} {fallback : Series}
    (hb : ∀ b ∈ branches, b.2.Holds has) (hf : fallback.Holds has) :
    Yields (Sql.caseSeries n branches fallback) (Holds has) := by
  refine Yields.after fun d hd => .ok (rule.holds_coerce fun c hc => ?_)
  obtain ⟨hw, hbs⟩ := rule.branches hd
  obtain ⟨row, -, rfl⟩ := List.mem_map.mp hc
  unfold caseCell
  split
  · rename_i b hfind
    have hm := List.mem_of_find?_eq_some hfind
    exact hbs b hm _ (rule.taken ((hb b hm).cellAt rule.null row))
  · exact hw _ (rule.taken (hf.cellAt rule.null row))

/-! ## Statements -/

theorem itemColumns (ht : good t) (h : Yields (item.eval t) (Holds has)) :
    Yields (item.columns t) fun columns => ∀ c ∈ columns, c.Holds has := by
  have one : Yields (do pure [← item.eval t] : Outcome (List Series)) fun columns =>
      ∀ c ∈ columns, c.Holds has :=
    Yields.bind h fun s hs => .ok fun c hc => List.mem_singleton.mp hc ▸ hs
  cases item with
  | wildcard tail => exact .ok (rule.columns ht)
  | unnamed e => exact one
  | named e name => exact one
  | foreign text => exact one

theorem projected (ht : good t) (h : ∀ item ∈ items, Yields (item.eval t) (Holds has)) :
    Yields (Sql.projected t items) good := by
  refine Yields.bind (Yields.mapM fun item hm => rule.itemColumns ht (h item hm)) fun series hs => ?_
  refine rule.project fun c hc => ?_
  obtain ⟨columns, hm, hc⟩ := List.mem_flatten.mp hc
  exact hs columns hm c hc

theorem ordered (ht : good t) (items : List OrderItem) : Yields (Sql.ordered t items) good := by
  refine Yields.after fun keys _ => ?_
  split
  · exact .ok ht
  · exact .ok (rule.take ht _)

theorem limited (ht : good t) (limit : Option Sql.Expr) : Yields (Sql.limited t limit) good := by
  cases limit with
  | none => exact .ok ht
  | some e => exact Yields.after fun n _ => .ok (rule.take ht _)

end ColumnRule
end FramePlan
