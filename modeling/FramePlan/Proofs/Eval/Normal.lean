import FramePlan.Eval.Plan
import FramePlan.Proofs.Plan.Within

/-!
# Type overrides and evaluation

An empty list of type overrides is read like none, so a plan and its normal form run alike
(`run_normal`). The plans that joins and concatenations hold are normalised too, so this goes by the
recursion of plans and operations.
-/
namespace FramePlan.Eval

theorem read_normal (files : Files) (path : String) (options : CsvOptions) :
    Csv.read files path options.normal = Csv.read files path options := by
  unfold CsvOptions.normal
  split
  · rename_i h
    simp only [Csv.read, Csv.parse, h, Option.getD_some, Option.getD_none]
  · rfl

theorem source_normal [Sql.Reader] (files : Files) (op : Operation) :
    source files op.normal = source files op := by
  cases op with
  | readCsv path options => exact read_normal files path options
  | _ => rfl

mutual

theorem apply_normal [Sql.Reader] (files : Files) (t : Table) : ∀ (op : Operation),
    apply files t op.normal = apply files t op
  | .join other spec => by simp only [Operation.normal, apply, run_normal files other]
  | .concat other => by simp only [Operation.normal, apply, run_normal files other]
  | .readCsv _ _ => rfl
  | .fromMemory _ => rfl
  | .query _ => rfl
  | .select _ => rfl
  | .filter _ => rfl
  | .withColumns _ => rfl
  | .groupBy _ _ => rfl
  | .sort _ => rfl
  | .limit _ => rfl
  | .count => rfl

theorem run_normal [Sql.Reader] (files : Files) : ∀ (ops : Plan), run files (Plan.normal ops) = run files ops
  | [] => rfl
  | op :: ops => by
    simp only [Plan.normal, run, source_normal]
    congr
    funext t
    exact applyAll_normal files t ops

theorem applyAll_normal [Sql.Reader] (files : Files) (t : Table) : ∀ (ops : Plan),
    applyAll files t (Plan.normal ops) = applyAll files t ops
  | [] => rfl
  | op :: ops => by
    simp only [Plan.normal, applyAll, apply_normal files t op]
    congr
    funext u
    exact applyAll_normal files u ops

end

end FramePlan.Eval
