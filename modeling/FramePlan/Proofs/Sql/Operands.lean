import FramePlan.Proofs.Outcome
import FramePlan.Sql.Query
import Mathlib.Logic.Relation

/-!
# What stands in a query expression

`Expr.operands` lists the expressions that stand directly in an expression, and `Expr.StandsIn` is its
closure: what stands anywhere in it. An expression is larger than its operands, so a property goes from
the operands of every expression to all expressions (`Expr.induction_operands`).

Evaluation comes by all that stands in an expression: on a table where it has a value, everything in it
has one (`Expr.StandsIn.exists_eval`).
-/
namespace FramePlan.Sql

open FramePlan.Eval

/-! ## Operands -/

def Arg.expr? : Arg → Option Expr
  | .expr e => some e
  | .wildcard => none
  | .foreign _ => none

def Args.operands : Args → List Expr
  | .list _ args _ => args.filterMap Arg.expr?
  | .bare => []
  | .query _ => []

/-- The expressions that stand directly in an expression. -/
def Expr.operands : Expr → List Expr
  | .nested e => [e]
  | .binary _ l r => [l, r]
  | .unary _ e => [e]
  | .isNull e => [e]
  | .isNotNull e => [e]
  | .between e _ low high => [e, low, high]
  | .inList e items _ => e :: items
  | .cast e _ _ _ => [e]
  | .case operand branches otherwise =>
    operand.toList ++ branches.flatMap (fun b => [b.1, b.2]) ++ otherwise.toList
  | .call _ args _ _ => args.operands
  | .ident _ => []
  | .compound _ => []
  | .literal _ => []
  | .subquery _ => []
  | .foreign _ => []

namespace Expr

variable {c d e : Expr}

theorem sizeOf_operand (h : c ∈ e.operands) : sizeOf c < sizeOf e := by
  cases e with
  | nested e =>
    cases List.mem_singleton.mp h
    simp only [nested.sizeOf_spec]
    omega
  | binary op l r =>
    simp only [operands, List.mem_cons, List.not_mem_nil, or_false] at h
    simp only [binary.sizeOf_spec]
    obtain rfl | rfl := h <;> omega
  | unary sign e =>
    cases List.mem_singleton.mp h
    simp only [unary.sizeOf_spec]
    omega
  | isNull e =>
    cases List.mem_singleton.mp h
    simp only [isNull.sizeOf_spec]
    omega
  | isNotNull e =>
    cases List.mem_singleton.mp h
    simp only [isNotNull.sizeOf_spec]
    omega
  | between e negated low high =>
    simp only [operands, List.mem_cons, List.not_mem_nil, or_false] at h
    simp only [between.sizeOf_spec]
    obtain rfl | rfl | rfl := h <;> omega
  | inList e items negated =>
    simp only [inList.sizeOf_spec]
    obtain rfl | hitem := List.mem_cons.mp h
    · omega
    · have hsize := List.sizeOf_lt_of_mem hitem
      omega
  | cast e style type format =>
    cases List.mem_singleton.mp h
    simp only [cast.sizeOf_spec]
    omega
  | case operand branches otherwise =>
    simp only [operands, List.mem_append, Option.mem_toList, List.mem_flatMap, List.mem_cons,
      List.not_mem_nil, or_false] at h
    simp only [case.sizeOf_spec]
    obtain (rfl | ⟨⟨condition, result⟩, hb, hc⟩) | rfl := h
    · simp only [Option.some.sizeOf_spec]
      omega
    · have hsize := List.sizeOf_lt_of_mem hb
      simp only [Prod.mk.sizeOf_spec] at hsize
      obtain rfl | rfl := hc <;> omega
    · simp only [Option.some.sizeOf_spec]
      omega
  | call name args windowed tail =>
    cases args with
    | list before args behind =>
      obtain ⟨a, ha, hc⟩ := List.mem_filterMap.mp h
      have hsize := List.sizeOf_lt_of_mem ha
      cases a with
      | expr e =>
        cases hc
        simp only [call.sizeOf_spec, Args.list.sizeOf_spec, Arg.expr.sizeOf_spec] at hsize ⊢
        omega
      | _ => cases hc
    | _ => cases h
  | _ => cases h

/-- What goes from the operands of every expression to the expression holds of all expressions. -/
theorem induction_operands {P : Expr → Prop} (step : ∀ e, (∀ c ∈ e.operands, P c) → P e) (e : Expr) :
    P e :=
  step e fun c hc =>
    have : sizeOf c < sizeOf e := sizeOf_operand hc
    induction_operands step c
termination_by sizeOf e

/-- The one expression is the other, or stands in one of its operands. -/
def StandsIn : Expr → Expr → Prop := Relation.ReflTransGen fun c e => c ∈ e.operands

theorem StandsIn.self (e : Expr) : e.StandsIn e := .refl

theorem StandsIn.operand (h : c.StandsIn d) (hd : d ∈ e.operands) : c.StandsIn e := .tail h hd

end Expr

/-! ## Values of operands -/

variable {t : Table} {s : Series} {r : Outcome Series} {given : List Given}

theorem exists_of_seriesOnly : ∀ {given : List Given} {series : List Series},
    seriesOnly given = .ok series → .series r ∈ given → ∃ v, r = .ok v
  | [], _, _, hr => absurd hr List.not_mem_nil
  | .series first :: rest, series, h, hr => by
    obtain ⟨v, hv, h⟩ := bind_eq_ok.mp h
    obtain ⟨more, hmore, -⟩ := bind_eq_ok.mp h
    obtain heq | hrest := List.mem_cons.mp hr
    · cases heq
      exact ⟨v, hv⟩
    · exact exists_of_seriesOnly hmore hrest
  | .star :: _, _, h, _ => by cases h
  | .foreign _ :: _, _, h, _ => by cases h

theorem exists_of_single {name : String} (h : single name given = .ok s) (hr : .series r ∈ given) :
    ∃ v, r = .ok v := by
  unfold single at h
  split at h
  · cases List.mem_singleton.mp hr
    exact ⟨s, h⟩
  · cases h

theorem exists_of_applyFunction {n : Nat} {name : String} (h : applyFunction n name given = .ok s)
    (hr : .series r ∈ given) : ∃ v, r = .ok v := by
  unfold applyFunction at h
  split at h
  · cases List.mem_singleton.mp hr
  · obtain ⟨series, hs, -⟩ := bind_eq_ok.mp h
    exact exists_of_seriesOnly hs hr
  · obtain ⟨v, hv, -⟩ := bind_eq_ok.mp h
    exact exists_of_single hv hr
  · split at h
    · obtain ⟨v, hv, -⟩ := bind_eq_ok.mp h
      exact exists_of_single hv hr
    · obtain ⟨v, hv, -⟩ := bind_eq_ok.mp h
      exact exists_of_single hv hr
    · cases h

theorem eq_of_understood : ∀ {given more : List Given}, understood given = .ok more → more = given
  | [], _, h => (Except.ok.inj h).symm
  | .foreign _ :: _, _, h => by cases h
  | .star :: rest, _, h => by
    obtain ⟨more, hmore, h⟩ := bind_eq_ok.mp h
    cases h
    rw [eq_of_understood hmore]
  | .series _ :: rest, _, h => by
    obtain ⟨more, hmore, h⟩ := bind_eq_ok.mp h
    cases h
    rw [eq_of_understood hmore]

theorem mem_evalArgs {c : Expr} : ∀ {args : List Arg}, .expr c ∈ args →
    .series (c.eval t) ∈ evalArgs t args
  | .expr e :: rest, h => by
    rw [evalArgs]
    obtain heq | hrest := List.mem_cons.mp h
    · cases heq
      exact List.mem_cons_self
    · exact List.mem_cons_of_mem _ (mem_evalArgs hrest)
  | .wildcard :: rest, h => by
    rw [evalArgs]
    exact List.mem_cons_of_mem _ (mem_evalArgs (by simpa using h))
  | .foreign _ :: rest, h => by
    rw [evalArgs]
    exact List.mem_cons_of_mem _ (mem_evalArgs (by simpa using h))

theorem exists_of_anyEqual {x : Series} : ∀ {items : List Expr} {found : Series},
    anyEqual t x items found = .ok s → ∀ c ∈ items, ∃ v, c.eval t = .ok v
  | [], _, _ => fun _ hc => absurd hc List.not_mem_nil
  | e :: es, found, h => by
    rw [anyEqual] at h
    obtain ⟨v, hv, h⟩ := bind_eq_ok.mp h
    obtain ⟨hit, -, h⟩ := bind_eq_ok.mp h
    obtain ⟨next, -, h⟩ := bind_eq_ok.mp h
    exact List.forall_mem_cons.mpr ⟨⟨v, hv⟩, exists_of_anyEqual h⟩

theorem exists_of_evalBranches {subject : Option Series} :
    ∀ {branches : List (Expr × Expr)} {pairs : List (Series × Series)},
      evalBranches t subject branches = .ok pairs →
        ∀ b ∈ branches, (∃ v, b.1.eval t = .ok v) ∧ ∃ v, b.2.eval t = .ok v
  | [], _, _ => fun _ hb => absurd hb List.not_mem_nil
  | (c, r) :: rest, pairs, h => by
    rw [evalBranches] at h
    obtain ⟨condition, hcondition, h⟩ := bind_eq_ok.mp h
    obtain ⟨test, -, h⟩ := bind_eq_ok.mp h
    obtain ⟨full, -, h⟩ := bind_eq_ok.mp h
    obtain ⟨v, hv, h⟩ := bind_eq_ok.mp h
    obtain ⟨result, -, h⟩ := bind_eq_ok.mp h
    obtain ⟨more, hmore, -⟩ := bind_eq_ok.mp h
    exact List.forall_mem_cons.mpr ⟨⟨⟨condition, hcondition⟩, ⟨v, hv⟩⟩, exists_of_evalBranches hmore⟩

theorem exists_of_evalOptional {o : Option Expr} {value : Option Series}
    (h : evalOptional t o = .ok value) : ∀ c ∈ o, ∃ v, c.eval t = .ok v := by
  cases o with
  | none => exact fun _ hc => nomatch hc
  | some e =>
    rw [evalOptional] at h
    obtain ⟨v, hv, -⟩ := bind_eq_ok.mp h
    intro c hc
    cases hc
    exact ⟨v, hv⟩

namespace Expr

variable {c d e : Expr}

/-- An expression that has a value has been evaluated with all its operands. -/
theorem exists_eval_operand (h : e.eval t = .ok s) (hc : c ∈ e.operands) : ∃ v, c.eval t = .ok v := by
  -- Whatever the form, its operands are steps of its evaluation, and none is left out: a `CASE` has values
  -- for all its branches, and a call for all its arguments, before it looks at any of them.
  cases e with
  | nested e =>
    cases List.mem_singleton.mp hc
    rw [eval] at h
    exact ⟨s, h⟩
  | binary op l r =>
    rw [eval] at h
    obtain ⟨op, -, h⟩ := bind_eq_ok.mp h
    obtain ⟨a, ha, h⟩ := bind_eq_ok.mp h
    obtain ⟨b, hb, -⟩ := bind_eq_ok.mp h
    have hall : ∀ c ∈ [l, r], ∃ v, c.eval t = .ok v := by simp [ha, hb]
    exact hall c hc
  | between e negated low high =>
    rw [eval] at h
    obtain ⟨x, hx, h⟩ := bind_eq_ok.mp h
    obtain ⟨l, hl, h⟩ := bind_eq_ok.mp h
    obtain ⟨above, -, h⟩ := bind_eq_ok.mp h
    obtain ⟨u, hu, -⟩ := bind_eq_ok.mp h
    have hall : ∀ c ∈ [e, low, high], ∃ v, c.eval t = .ok v := by simp [hx, hl, hu]
    exact hall c hc
  | inList e items negated =>
    rw [eval] at h
    obtain ⟨x, hx, h⟩ := bind_eq_ok.mp h
    obtain ⟨found, hfound, -⟩ := bind_eq_ok.mp h
    exact List.forall_mem_cons.mpr ⟨⟨x, hx⟩, exists_of_anyEqual hfound⟩ c hc
  | case operand branches otherwise =>
    rw [eval] at h
    obtain ⟨subject, hsubject, h⟩ := bind_eq_ok.mp h
    obtain ⟨pairs, hpairs, h⟩ := bind_eq_ok.mp h
    obtain ⟨value, hvalue, -⟩ := bind_eq_ok.mp h
    simp only [operands, List.mem_append, Option.mem_toList, List.mem_flatMap, List.mem_cons,
      List.not_mem_nil, or_false] at hc
    obtain (hc | ⟨b, hb, hc⟩) | hc := hc
    · exact exists_of_evalOptional hsubject c hc
    · obtain rfl | rfl := hc
      · exact (exists_of_evalBranches hpairs b hb).1
      · exact (exists_of_evalBranches hpairs b hb).2
    · exact exists_of_evalOptional hvalue c hc
  | call name args windowed tail =>
    cases args with
    | list before args behind =>
      rw [eval] at h
      split at h
      · cases h
      · obtain ⟨given, hgiven, h⟩ := bind_eq_ok.mp h
        obtain ⟨a, ha, hc⟩ := List.mem_filterMap.mp hc
        cases a with
        | expr e =>
          cases hc
          apply exists_of_applyFunction h
          rw [eq_of_understood hgiven]
          exact mem_evalArgs ha
        | _ => cases hc
    | _ => cases hc
  | unary sign e =>
    cases List.mem_singleton.mp hc
    rw [eval] at h
    exact exists_of_bind_eq_ok h
  | isNull e =>
    cases List.mem_singleton.mp hc
    rw [eval] at h
    exact exists_of_bind_eq_ok h
  | isNotNull e =>
    cases List.mem_singleton.mp hc
    rw [eval] at h
    exact exists_of_bind_eq_ok h
  | cast e style type format =>
    cases List.mem_singleton.mp hc
    rw [eval] at h
    exact exists_of_bind_eq_ok h
  | _ => cases hc

theorem StandsIn.exists_eval (hc : c.StandsIn e) (h : e.eval t = .ok s) : ∃ v, c.eval t = .ok v := by
  induction hc generalizing s with
  | refl => exact ⟨s, h⟩
  | tail _ hd ih =>
    obtain ⟨v, hv⟩ := exists_eval_operand h hd
    exact ih hv

end Expr

end FramePlan.Sql
