import FramePlan.Operation

/-!
# Operations within a plan

A join and a concatenation hold the whole plan of their other input, so the operations of a plan
stand at every depth. `Operation.Within` is where one stands, and `Plan.Throughout` is that all of
them have a property: `Plan.KeysPaired` is that every join has as many left keys as right keys.

`Plan.normal` is the plan as it reads back from its records, in which an empty list of type
overrides is no overrides. A plan that has no such list is its own normal form (`Plan.normal_eq`).

Induction over plans inside plans is `Plan.induction`: what holds of a plan if it holds of the plans
that its operations hold, holds of every plan.
-/
namespace FramePlan

/-- The plan that an operation holds, empty if it holds none. -/
def Operation.inner : Operation → Plan
  | .join other _ => other
  | .concat other => other
  | _ => []

/-- The operation is one of the plan's, or stands within a plan that one of them holds. -/
inductive Operation.Within (op : Operation) : Plan → Prop
  | here {ops : Plan} : op ∈ ops → Within op ops
  | inside {ops : Plan} {a : Operation} : a ∈ ops → Within op a.inner → Within op ops

namespace Operation

variable {op a : Operation} {xs ys : Plan}

theorem Within.mono (h : op.Within xs) (hsub : ∀ b ∈ xs, b ∈ ys) : op.Within ys := by
  cases h with
  | here hm => exact .here (hsub _ hm)
  | inside hm hw => exact .inside (hsub _ hm) hw

@[simp] theorem not_within_nil : ¬ op.Within [] := by
  intro h
  cases h with
  | here hm => cases hm
  | inside hm _ => cases hm

theorem within_singleton : op.Within [a] ↔ op = a ∨ op.Within a.inner := by
  refine ⟨?_, ?_⟩
  · intro h
    cases h with
    | here hm => exact .inl (List.mem_singleton.mp hm)
    | inside hm hw => exact .inr (List.mem_singleton.mp hm ▸ hw)
  · intro h
    rcases h with rfl | h
    · exact .here List.mem_cons_self
    · exact .inside List.mem_cons_self h

theorem within_append : op.Within (xs ++ ys) ↔ op.Within xs ∨ op.Within ys := by
  refine ⟨?_, ?_⟩
  · intro h
    cases h with
    | here hm => exact (List.mem_append.mp hm).imp .here .here
    | inside hm hw => exact (List.mem_append.mp hm).imp (.inside · hw) (.inside · hw)
  · intro h
    rcases h with h | h
    · exact h.mono fun b hb => List.mem_append_left _ hb
    · exact h.mono fun b hb => List.mem_append_right _ hb

end Operation

/-! ## What holds at every depth -/

namespace Plan

/-- Every operation, at every depth, has the property. -/
def Throughout (P : Operation → Prop) (ops : Plan) : Prop := ∀ op, op.Within ops → P op

variable {P Q : Operation → Prop} {xs ys : Plan} {a : Operation}

theorem Throughout.mono (h : Throughout P xs) (hpq : ∀ op, P op → Q op) : Throughout Q xs :=
  fun op hw => hpq op (h op hw)

theorem throughout_nil : Throughout P [] := fun _ h => absurd h Operation.not_within_nil

theorem throughout_append : Throughout P (xs ++ ys) ↔ Throughout P xs ∧ Throughout P ys := by
  simp only [Throughout, Operation.within_append]
  refine ⟨?_, ?_⟩
  · intro h
    exact ⟨fun op hw => h op (.inl hw), fun op hw => h op (.inr hw)⟩
  · intro h op hw
    obtain ⟨hx, hy⟩ := h
    rcases hw with hw | hw
    · exact hx op hw
    · exact hy op hw

theorem throughout_singleton : Throughout P [a] ↔ P a ∧ Throughout P a.inner := by
  simp only [Throughout, Operation.within_singleton]
  refine ⟨?_, ?_⟩
  · intro h
    exact ⟨h a (.inl rfl), fun op hw => h op (.inr hw)⟩
  · intro h op hw
    obtain ⟨ha, hi⟩ := h
    rcases hw with rfl | hw
    · exact ha
    · exact hi op hw

theorem throughout_cons :
    Throughout P (a :: xs) ↔ (P a ∧ Throughout P a.inner) ∧ Throughout P xs := by
  rw [← throughout_singleton, ← throughout_append, List.singleton_append]

theorem throughout_iff : Throughout P xs ↔ ∀ a ∈ xs, P a ∧ Throughout P a.inner := by
  induction xs with
  | nil => simp [throughout_nil]
  | cons a xs ih => rw [throughout_cons, ih, List.forall_mem_cons]

end Plan

/-! ## Induction over plans inside plans -/

section Induction

variable {motive : Plan → Prop}

mutual

theorem Operation.inner_induction
    (step : ∀ ops : Plan, (∀ op ∈ ops, motive op.inner) → motive ops) :
    ∀ op : Operation, motive op.inner
  | .join other _ => step other (Plan.mem_induction step other)
  | .concat other => step other (Plan.mem_induction step other)
  | .readCsv _ _ | .fromMemory _ | .query _ | .select _ | .filter _ | .withColumns _
  | .groupBy _ _ | .sort _ | .limit _ | .count => step [] fun _ h => absurd h List.not_mem_nil

theorem Plan.mem_induction
    (step : ∀ ops : Plan, (∀ op ∈ ops, motive op.inner) → motive ops) :
    ∀ ops : List Operation, ∀ op ∈ ops, motive op.inner
  | [], _, h => absurd h List.not_mem_nil
  | a :: ops, op, h => by
    rcases List.mem_cons.mp h with heq | h
    · rw [heq]
      exact Operation.inner_induction step a
    · exact Plan.mem_induction step ops op h

end

/-- What holds of a plan if it holds of the plans that its operations hold, holds of every plan. -/
theorem Plan.induction (step : ∀ ops : Plan, (∀ op ∈ ops, motive op.inner) → motive ops)
    (ops : Plan) : motive ops :=
  step ops (Plan.mem_induction step ops)

end Induction

/-- A join has as many left keys as right keys. -/
def Operation.HasPairs : Operation → Prop
  | .join _ spec => spec.leftOn.length = spec.rightOn.length
  | _ => True

/-- Every join, at every depth, has as many left keys as right keys. -/
def Plan.KeysPaired (ops : Plan) : Prop := Plan.Throughout Operation.HasPairs ops

/-! ## Type overrides -/

/-- The options with an empty list of type overrides left out. -/
def CsvOptions.normal (o : CsvOptions) : CsvOptions :=
  if o.dtypes = some [] then { o with dtypes := none } else o

theorem CsvOptions.normal_eq (o : CsvOptions) :
    o.normal = ⟨o.delimiter, o.hasHeader, o.normal.dtypes⟩ := by
  unfold normal
  split <;> rfl

mutual

/-- The operation with empty lists of type overrides left out, at every depth. -/
def Operation.normal : Operation → Operation
  | .readCsv path options => .readCsv path options.normal
  | .join other spec => .join (Plan.normal other) spec
  | .concat other => .concat (Plan.normal other)
  | op => op

/-- The plan with empty lists of type overrides left out, at every depth. -/
def Plan.normal : Plan → Plan
  | [] => []
  | op :: ops => op.normal :: Plan.normal ops

end

/-- The list of type overrides is not empty, if there is one. -/
def Operation.OverridesSome : Operation → Prop
  | .readCsv _ options => options.dtypes ≠ some []
  | _ => True

theorem Operation.normal_eq {op : Operation} (own : op.OverridesSome)
    (inner : Plan.normal op.inner = op.inner) : op.normal = op := by
  cases op with
  | readCsv path options => rw [Operation.normal, CsvOptions.normal, if_neg own]
  | join other spec => exact congrArg (Operation.join · spec) inner
  | concat other => exact congrArg Operation.concat inner
  | _ => rfl

theorem Plan.normal_eq_map (ops : Plan) : ops.normal = ops.map Operation.normal := by
  induction ops with
  | nil => rfl
  | cons op ops ih => rw [Plan.normal, ih, List.map_cons]

theorem Plan.normal_eq (ops : Plan) (own : ops.Throughout Operation.OverridesSome) :
    ops.normal = ops := by
  induction ops using Plan.induction with
  | step ops ih =>
    have heach : ∀ op ∈ ops, op.normal = op := by
      intro op hop
      obtain ⟨hown, hinner⟩ := Plan.throughout_iff.mp own op hop
      exact Operation.normal_eq hown (ih op hop hinner)
    rw [Plan.normal_eq_map, List.map_congr_left heach, List.map_id']

end FramePlan
