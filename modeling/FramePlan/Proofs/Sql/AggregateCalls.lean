import FramePlan.Proofs.Sql.Grouping
import FramePlan.Proofs.Sql.Operands
import FramePlan.Sql.Parser.Statement

/-!
# Calls of aggregates in queries

A query that groups asks of each expression whether it aggregates (`Expr.isAggregate`): if so, it takes the
value of the expression on all rows of a group, and else its value on the first row. This ought to be asked
of every call that stands in the expression, and it is, but for the tests of a range and of a list: they are
not looked into (`isAggregate_eq`). What an expression is seen to call stands outside of them
(`isAggregate_iff`).

`aggregates_recognised` says what this means for expressions and for the groups of a query, and
`unrecognised_in_range` what becomes of an aggregate that is called in nothing but a range.
-/
namespace FramePlan.Sql

open FramePlan.Eval Series

variable {t group : Table} {s : Series} {groups all : List (List Nat)} {c d e : Expr}

namespace Expr

def callsAggregate : Expr → Bool
  | .call name _ _ _ => aggregateNames.contains (functionName name)
  | _ => false

/-- It is a test whether something is in a range, or whether it is in a list. -/
def isRange : Expr → Bool
  | .between _ _ _ _ => true
  | .inList _ _ _ => true
  | _ => false

/-- It is no call with an argument of a form that functions do not take. -/
def hasPlainArgs : Expr → Bool
  | .call _ (.list _ args _) _ _ => !args.any Arg.isForeign
  | _ => true

/-- All arguments of the calls that stand in the expression are of forms that functions take. -/
def Understood (e : Expr) : Prop := ∀ c : Expr, c.StandsIn e → c.hasPlainArgs = true

/-- The one expression is the other, or stands in it without a test of a range or a list between. -/
def StandsOutsideRanges : Expr → Expr → Prop :=
  Relation.ReflTransGen fun c e => e.isRange = false ∧ c ∈ e.operands

/-- An aggregate function is called in the expression, and not only in tests of a range or a list. -/
def Aggregates (e : Expr) : Prop := ∃ c : Expr, c.StandsOutsideRanges e ∧ c.callsAggregate = true

/-- No aggregate function is called in a test of a range or a list that stands in the expression. -/
def RangesPlain (e : Expr) : Prop :=
  ∀ r : Expr, r.StandsIn e → r.isRange = true → ∀ c : Expr, c.StandsIn r → c.callsAggregate = false

/-! ## What stands in an expression -/

theorem Understood.operand (h : e.Understood) (hd : d ∈ e.operands) : d.Understood :=
  fun c hc => h c (hc.operand hd)

theorem RangesPlain.operand (h : e.RangesPlain) (hd : d ∈ e.operands) : d.RangesPlain :=
  fun r hr => h r (hr.operand hd)

theorem rangesPlain_of_operands (h : e.isRange = false) (hd : ∀ d ∈ e.operands, d.RangesPlain) :
    e.RangesPlain := by
  intro r hr hrange
  obtain rfl | ⟨d, hrd, hde⟩ := hr.cases_tail
  · rw [h] at hrange
    cases hrange
  · exact hd d hde r hrd hrange

theorem StandsOutsideRanges.standsIn (h : c.StandsOutsideRanges e) : c.StandsIn e :=
  Relation.ReflTransGen.mono (fun _ _ step => step.2) _ _ h

theorem RangesPlain.outside (h : e.RangesPlain) (hc : c.StandsIn e) (hcalls : c.callsAggregate = true) :
    c.StandsOutsideRanges e := by
  induction hc with
  | refl => exact .refl
  | @tail d e hcd hde ih =>
    refine .tail (ih (h.operand hde)) ⟨?_, hde⟩
    by_contra hrange
    have hplain := h e (.self e) (eq_true_of_ne_false hrange) c (StandsIn.operand hcd hde)
    rw [hcalls] at hplain
    cases hplain

/-! ## The recursion -/

theorem optionalAggregate_eq (o : Option Expr) : optionalAggregate o = o.toList.any isAggregate := by
  cases o <;> simp [optionalAggregate]

theorem anyBranchAggregate_eq (branches : List (Expr × Expr)) :
    anyBranchAggregate branches = (branches.flatMap fun b => [b.1, b.2]).any isAggregate := by
  induction branches with
  | nil => rfl
  | cons b rest ih => simp [anyBranchAggregate, ih, Bool.or_assoc]

theorem anyArgAggregate_eq (args : List Arg) :
    anyArgAggregate args = (args.filterMap Arg.expr?).any isAggregate := by
  induction args with
  | nil => rfl
  | cons a rest ih => cases a <;> simp [anyArgAggregate, Arg.expr?, ih]

/-- An expression aggregates if it calls an aggregate or one of its operands aggregates, but a range or a
    list never does. -/
theorem isAggregate_eq (h : e.hasPlainArgs = true) :
    e.isAggregate = (e.callsAggregate || (!e.isRange && e.operands.any isAggregate)) := by
  cases e with
  | case operand branches otherwise =>
    simp [isAggregate, callsAggregate, isRange, operands, optionalAggregate_eq, anyBranchAggregate_eq,
      Bool.or_assoc]
  | call name args windowed tail =>
    cases args with
    | list before args behind =>
      have hargs : args.any Arg.isForeign = false := by simpa [hasPlainArgs] using h
      simp [isAggregate, Args.isAggregate, callsAggregate, isRange, operands, Args.operands, hargs,
        anyArgAggregate_eq]
    | bare => simp [isAggregate, Args.isAggregate, callsAggregate, operands, Args.operands]
    | query text => simp [isAggregate, Args.isAggregate, callsAggregate, operands, Args.operands]
  | _ => simp [isAggregate, callsAggregate, isRange, operands]

/-- What an expression is seen to call is what stands in it outside of ranges. -/
theorem isAggregate_iff (h : e.Understood) : e.isAggregate = true ↔ e.Aggregates := by
  induction e using induction_operands with
  | step e ih =>
    have hoperands : (e.operands.any isAggregate = true) ↔ ∃ d ∈ e.operands, d.Aggregates := by
      rw [List.any_eq_true]
      exact exists_congr fun d => and_congr_right fun hd => ih d hd (h.operand hd)
    rw [isAggregate_eq (h e (.self e)), Bool.or_eq_true, Bool.and_eq_true, Bool.not_eq_true', hoperands]
    constructor
    · rintro (hcalls | ⟨hrange, d, hd, c, hc, hcalls⟩)
      · exact ⟨e, .refl, hcalls⟩
      · exact ⟨c, .tail hc ⟨hrange, hd⟩, hcalls⟩
    · rintro ⟨c, hc, hcalls⟩
      obtain rfl | ⟨d, hcd, hrange, hd⟩ := hc.cases_tail
      · exact .inl hcalls
      · exact .inr ⟨hrange, d, hd, c, hcd, hcalls⟩

/-! ## Values -/

theorem not_foreign_of_understood : ∀ {args : List Arg} {given : List Given},
    understood (evalArgs t args) = .ok given → args.any Arg.isForeign = false
  | [], _, _ => rfl
  | .expr e :: rest, _, h => by
    rw [evalArgs] at h
    obtain ⟨more, hmore, -⟩ := bind_eq_ok.mp h
    simpa [Arg.isForeign] using not_foreign_of_understood hmore
  | .wildcard :: rest, _, h => by
    rw [evalArgs] at h
    obtain ⟨more, hmore, -⟩ := bind_eq_ok.mp h
    simpa [Arg.isForeign] using not_foreign_of_understood hmore
  | .foreign text :: rest, _, h => by
    rw [evalArgs] at h
    cases h

theorem hasPlainArgs_of_eval (h : e.eval t = .ok s) : e.hasPlainArgs = true := by
  cases e with
  | call name args windowed tail =>
    cases args with
    | list before args behind =>
      rw [eval] at h
      split at h
      · cases h
      · obtain ⟨given, hgiven, -⟩ := bind_eq_ok.mp h
        rw [hasPlainArgs, not_foreign_of_understood hgiven, Bool.not_false]
    | _ => rfl
  | _ => rfl

/-- An expression that has a value on some table is understood. -/
theorem understood_of_eval (h : e.eval t = .ok s) : e.Understood := by
  intro c hc
  obtain ⟨v, hv⟩ := hc.exists_eval h
  exact hasPlainArgs_of_eval hv

/-- All that stands in the expression has a value on the table. -/
def EvaluatedOn (e : Expr) (t : Table) : Prop := ∀ c : Expr, c.StandsIn e → ∃ v, c.eval t = .ok v

end Expr

/-! ## Groups -/

/-- The only value of an expression on all rows of a group. -/
def overGroup (e : Expr) (group : Table) : Outcome Series := do (← e.eval group).broadcast 1

theorem evaluatedOn_of_overGroup (h : overGroup e group = .ok s) : e.EvaluatedOn group := by
  obtain ⟨v, hv⟩ := exists_of_bind_eq_ok h
  exact fun c hc => hc.exists_eval hv

theorem exists_eval_of_perGroup (h : perGroup e group = .ok s) : ∃ u v, e.eval u = .ok v := by
  unfold perGroup at h
  split at h
  · exact ⟨group, exists_of_bind_eq_ok h⟩
  · split at h
    · exact ⟨group, exists_of_bind_eq_ok h⟩
    · exact ⟨group.take [0], s, h⟩

theorem overGroup_of_perGroup (h : e.Aggregates) (hs : perGroup e group = .ok s) :
    overGroup e group = .ok s := by
  obtain ⟨u, v, hv⟩ := exists_eval_of_perGroup hs
  have hseen : e.isAggregate = true := (Expr.isAggregate_iff (Expr.understood_of_eval hv)).mpr h
  rwa [perGroup, if_pos hseen] at hs

theorem HasValues.overGroup {column : Series} (h : HasValues t (perGroup e) groups column)
    (hagg : e.Aggregates) : HasValues t (overGroup e) groups column :=
  h.congr fun _ _ hs => overGroup_of_perGroup hagg hs

theorem HasValues.evaluatedOn {column : Series} (h : HasValues t (Sql.overGroup e) groups column) :
    ∀ g ∈ groups, e.EvaluatedOn (t.take g) := by
  intro g hg
  obtain ⟨s, hs⟩ := h.exists_value g hg
  exact evaluatedOn_of_overGroup hs

/-- If the item is of the expression, its column has the item's name and the values of the expression on all
    rows of the groups, where all that stands in it was evaluated. -/
def OverGroups (t : Table) (groups : List (List Nat)) (e : Expr) (item : Item) (column : Series) : Prop :=
  ∀ name, item.reading? = some (e, name) →
    column.name = name ∧ (∀ g ∈ groups, e.EvaluatedOn (t.take g)) ∧ HasValues t (overGroup e) groups column

/-- **Aggregates are recognised outside of ranges.** An expression is seen to aggregate exactly if an
aggregate function is called somewhere in it but in the test of a range or a list. So it is seen exactly if
one is called anywhere, if it calls none in such a test.

An expression that calls one outside of such tests may stand in a query that groups. As its HAVING it is
evaluated, with all that stands in it, on all rows of each group, and the groups are kept at which it is
true there; as the expression of an item it is evaluated so on all rows of each group that is kept, and the
column of the item has its values there. -/
theorem aggregates_recognised (e : Expr) :
    (e.Understood → (e.isAggregate = true ↔ e.Aggregates)) ∧
    (e.Understood → e.RangesPlain →
      (e.isAggregate = true ↔ ∃ c : Expr, c.StandsIn e ∧ c.callsAggregate = true)) ∧
    (e.Aggregates → ∀ (t : Table) (select : Select) (keys : List Expr) (out : Table),
      grouped t select keys = .ok out →
        ∃ all groups, allGroups t keys = .ok all ∧ keepGroups t all select.having = .ok groups ∧
          (select.having = some e →
            (∀ g ∈ all, e.EvaluatedOn (t.take g)) ∧ groups = all.filter (isTrueOn (overGroup e) t)) ∧
          List.Forall₂ (OverGroups t groups e) select.items out.columns) := by
  refine ⟨Expr.isAggregate_iff, ?_, ?_⟩
  · intro he hranges
    rw [Expr.isAggregate_iff he]
    constructor
    · rintro ⟨c, hc, hcalls⟩
      exact ⟨c, hc.standsIn, hcalls⟩
    · rintro ⟨c, hc, hcalls⟩
      exact ⟨c, hranges.outside hc hcalls, hcalls⟩
  · intro hagg t select keys out h
    obtain ⟨all, groups, hall, hgroups, hcolumns, -⟩ := grouped_spec h
    refine ⟨all, groups, hall, hgroups, ?_, hcolumns.imp ?_⟩
    · intro hhaving
      rw [hhaving] at hgroups
      obtain ⟨keep, hkeep, rfl⟩ := keepGroups_some hgroups
      exact ⟨(hkeep.overGroup hagg).evaluatedOn, (hkeep.overGroup hagg).filter_true⟩
    · rintro item column ⟨d, hitem, hvalues⟩ name hname
      cases hitem.symm.trans hname
      exact ⟨rfl, (hvalues.overGroup hagg).evaluatedOn, hvalues.overGroup hagg⟩

/-! ### Parcels by kind -/

def parcels : Table :=
  ⟨[⟨"kind", .str, [.str "box", .str "box", .str "bag"]⟩, ⟨"n", .i64, [.int 1, .int 4, .int 2]⟩], 3⟩

def sumOfN : Expr := .call [⟨"sum", none⟩] (.list "" [.expr (.ident ⟨"n", none⟩)] "") false ""

def number (text : String) : Expr := .literal (.number text false)

/-- The condition `sum(n) > 4`. -/
def manyParcels : Expr := .binary (.plain .gt) sumOfN (number "4")

/-- The statement `SELECT sum(n) > 4 AS many FROM df GROUP BY kind HAVING sum(n) > 4`. -/
def manyOnly : Select :=
  selectGroups [.named manyParcels ⟨"many", none⟩] [.ident ⟨"kind", none⟩] (some manyParcels)

/-- The kinds with many parcels are kept, and are told to be many, by all their rows. -/
theorem aggregates_recognised_parcels :
    (manyParcels.isAggregate = true ↔ manyParcels.Aggregates) ∧
    (manyParcels.isAggregate = true ↔ ∃ c : Expr, c.StandsIn manyParcels ∧ c.callsAggregate = true) ∧
    ∃ all groups, allGroups parcels [.ident ⟨"kind", none⟩] = .ok all ∧
      keepGroups parcels all (some manyParcels) = .ok groups ∧
      groups = all.filter (isTrueOn (overGroup manyParcels) parcels) ∧
      HasValues parcels (overGroup manyParcels) groups ⟨"many", .bool, [.bool true]⟩ := by
  have hmany : manyParcels.Aggregates := ⟨sumOfN, .single ⟨rfl, List.mem_cons_self⟩, by decide⟩
  have hvalue : manyParcels.eval parcels = .ok ⟨"n", .bool, [.bool true]⟩ := by decide +kernel
  have hunderstood : manyParcels.Understood := Expr.understood_of_eval hvalue
  have leaf {e : Expr} (h : e.isRange = false) (hnone : e.operands = []) : e.RangesPlain :=
    Expr.rangesPlain_of_operands h (by simp [hnone])
  have hplain : manyParcels.RangesPlain := by
    refine Expr.rangesPlain_of_operands rfl (List.forall_mem_cons.mpr
      ⟨?_, List.forall_mem_singleton.mpr (leaf rfl rfl)⟩)
    exact Expr.rangesPlain_of_operands rfl (List.forall_mem_singleton.mpr (leaf rfl rfl))
  have hout : grouped parcels manyOnly [.ident ⟨"kind", none⟩] =
      .ok ⟨[⟨"many", .bool, [.bool true]⟩], 1⟩ := by decide +kernel
  obtain ⟨hseen, heverywhere, hgrouped⟩ := aggregates_recognised manyParcels
  obtain ⟨all, groups, hall, hgroups, hhaving, hitems⟩ := hgrouped hmany _ _ _ _ hout
  obtain ⟨hcolumn, -⟩ := List.forall₂_cons.mp hitems
  exact ⟨hseen hunderstood, heverywhere hunderstood hplain, all, groups, hall, hgroups, (hhaving rfl).2,
    (hcolumn "many" rfl).2.2⟩

/-- The condition `sum(n) BETWEEN 5 AND 10`. -/
def fittingParcels : Expr := .between sumOfN false (number "5") (number "10")

attribute [local instance] Sql.dialect

/-- There are five boxes in all. The condition calls an aggregate and is true of them, but it is not seen to
    aggregate, and is asked of their first row alone. -/
theorem unrecognised_in_range :
    (fittingParcels.Understood ∧ ∃ c : Expr, c.StandsIn fittingParcels ∧ c.callsAggregate = true) ∧
    fittingParcels.isAggregate = false ∧
    overGroup fittingParcels (parcels.take [0, 1]) = .ok ⟨"n", .bool, [.bool true]⟩ ∧
    groupedItem parcels [[0, 1], [2]] (.named fittingParcels ⟨"fits", none⟩) =
      .ok ⟨"fits", .bool, [.bool false, .bool false]⟩ ∧
    query "SELECT kind, sum(n) BETWEEN 5 AND 10 AS fits FROM df GROUP BY kind" (some parcels) =
      .ok ⟨[⟨"kind", .str, [.str "box", .str "bag"]⟩, ⟨"fits", .bool, [.bool false, .bool false]⟩], 2⟩ := by
  have hvalue : fittingParcels.eval parcels = .ok ⟨"n", .bool, [.bool true]⟩ := by decide +kernel
  have hcall : sumOfN.StandsIn fittingParcels := .single List.mem_cons_self
  refine ⟨⟨Expr.understood_of_eval hvalue, sumOfN, hcall, by decide⟩, by rfl, ?_, ?_, ?_⟩
  · decide +kernel
  · decide +kernel
  · decide +kernel

end FramePlan.Sql
