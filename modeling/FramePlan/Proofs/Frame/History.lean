import FramePlan.Frame.Source
import FramePlan.Proofs.Outcome

/-!
# The history of a frame

A `History` is a whole series of builder calls: a source, the calls on what came before, and for the
calls that take other frames the histories of these. `History.frame` is the frame that the calls
build.

Each call comes to a `Step`: one operation, or a failure of its own. A source and a join can fail by
themselves, and a call that takes another frame fails if that frame has failed. `History.steps` are the
steps of a frame in the order of the calls, said without frames. What becomes of them is the rule of
`planOf`: all operations in order, or the first failure.

`frame_keeps_first_failure` says that frames keep to the rule. Between the two stands one equation for
each kind of call (`plan_source`, `plan_transform`, `plan_join`, `plan_concat`).
-/
namespace FramePlan.Frame

/-- What a builder call comes to. -/
abbrev Step := Except Error Operation

/-- The operations of the steps, or the first failure among them. -/
def planOf : List Step → Except Error Plan
  | [] => .ok []
  | .error e :: _ => .error e
  | .ok op :: steps => (planOf steps).map (op :: ·)

def extend (plan : Except Error Plan) (step : Step) : Except Error Plan := do
  let ops ← plan
  let op ← step
  pure (ops ++ [op])

/-! ## Calls -/

inductive Source
  | blank
  | csv (path : List UInt8) (options : CsvOptions)
  | records (rows : List Record)
  | columns (cs : List Column)
  | json (tree : Json)
  | sql (text : String)

def Source.frame : Source → Frame
  | .blank => empty
  | .csv path options => readCsv path options
  | .records rows => ofRecords rows
  | .columns cs => ofColumns cs
  | .json tree => ofJson tree
  | .sql text => ofSql text

/-- Columns have to be there, and all as long as the first one. -/
def columnsStep (columns : List Column) : Step :=
  match columns with
  | [] => .error .emptyColumns
  | first :: _ =>
    match columns.find? (fun c => c.values.length != first.values.length) with
    | some c => .error (.lengthMismatch first.values.length c.values.length)
    | none => .ok (.fromMemory columns)

/-- Records have to be there, and the first one gives the columns. -/
def recordsStep : List Record → Step
  | [] => .error .emptyRecords
  | [] :: _ => .error .emptyFirstRecord
  | first :: rest => columnsStep (columnsOfRecords first rest)

def jsonStep : Json → Step
  | .arr rows => do
    let records ← rows.mapM recordOfJson
    recordsStep records
  | .obj members => do
    let columns ← members.mapM columnOfJson
    columnsStep columns
  | other => .error (.badJson (.neither other.compact))

/-- A file has to be named in UTF-8. -/
def csvStep (path : List UInt8) (options : CsvOptions) : Step :=
  match Text.Utf8.decode? path with
  | some p => .ok (.readCsv p options)
  | none => .error (.pathNotUtf8 (Text.Utf8.decodeLossy path))

/-- The step of a source; a blank frame has none. -/
def Source.steps : Source → List Step
  | .blank => []
  | .csv path options => [csvStep path options]
  | .records rows => [recordsStep rows]
  | .columns cs => [columnsStep cs]
  | .json tree => [jsonStep tree]
  | .sql text => [.ok (.query text)]

inductive Transform
  | select (items : List Selector)
  | filter (predicate : Selector)
  | withColumns (items : List Selector)
  | groupBy (keys aggs : List Selector)
  | sort (columns : List String)
  | sortBy (fields : List SortField)
  | limit (rows : UInt64)
  | count
  | query (sql : String)

def Transform.apply (f : Frame) : Transform → Frame
  | .select items => f.select items
  | .filter predicate => f.filter predicate
  | .withColumns items => f.withColumns items
  | .groupBy keys aggs => f.groupBy keys aggs
  | .sort columns => f.sort columns
  | .sortBy fields => f.sortBy fields
  | .limit rows => f.limit rows
  | .count => f.count
  | .query sql => f.query sql

/-- The operation of a call. Sorting by columns is sorting by them in ascending order. -/
def Transform.operation : Transform → Operation
  | .select items => .select items
  | .filter predicate => .filter predicate
  | .withColumns items => .withColumns items
  | .groupBy keys aggs => .groupBy keys aggs
  | .sort columns => .sort (columns.map (⟨·, false⟩))
  | .sortBy fields => .sort fields
  | .limit rows => .limit rows
  | .count => .count
  | .query sql => .query sql

inductive JoinCall
  | full (spec : JoinSpec)
  | inner (keys : List String)
  | left (keys : List String)
  | outer (keys : List String)
  | cross

def JoinCall.apply (f other : Frame) : JoinCall → Frame
  | .full spec => f.join other spec
  | .inner keys => f.innerJoin other keys
  | .left keys => f.leftJoin other keys
  | .outer keys => f.outerJoin other keys
  | .cross => f.crossJoin other

/-- The specification that a call stands for. -/
def JoinCall.spec : JoinCall → JoinSpec
  | .full spec => spec
  | .inner keys => { JoinSpec.on keys with how := .inner }
  | .left keys => { JoinSpec.on keys with how := .left }
  | .outer keys => { JoinSpec.on keys with how := .outer }
  | .cross => .cross

/-- A join fails with the other frame's failure, and else with a fault of its specification. -/
def joinStep (other : Except Error Plan) (spec : JoinSpec) : Step :=
  match other, spec.check with
  | .error e, _ => .error e
  | .ok _, .error fault => .error (.badJoin fault)
  | .ok ops, .ok () => .ok (.join ops spec)

/-- A concatenation fails with the other frame's failure. -/
def concatStep (other : Except Error Plan) : Step := other.map .concat

/-! ## Histories -/

inductive History
  | source (s : Source)
  | call (before : History) (t : Transform)
  | join (before other : History) (j : JoinCall)
  | concat (before other : History)
  | concatAll (all : List History)

mutual

def History.frame : History → Frame
  | .source s => s.frame
  | .call before t => t.apply before.frame
  | .join before other j => j.apply before.frame other.frame
  | .concat before other => before.frame.concat other.frame
  | .concatAll all => Frame.concatAll (framesOf all)

def framesOf : List History → List Frame
  | [] => []
  | h :: hs => h.frame :: framesOf hs

end

mutual

/-- The steps of a frame, in the order of its calls. -/
def History.steps : History → List Step
  | .source s => s.steps
  | .call before t => before.steps ++ [.ok t.operation]
  | .join before other j => before.steps ++ [joinStep (planOf other.steps) j.spec]
  | .concat before other => before.steps ++ [concatStep (planOf other.steps)]
  | .concatAll [] => [.error .noFrames]
  | .concatAll (first :: rest) => first.steps ++ concatSteps rest

/-- One concatenation for each of the histories. -/
def concatSteps : List History → List Step
  | [] => []
  | h :: hs => concatStep (planOf h.steps) :: concatSteps hs

end

theorem framesOf_eq_map : ∀ hs : List History, framesOf hs = hs.map History.frame
  | [] => rfl
  | h :: hs => by rw [framesOf, framesOf_eq_map hs, List.map_cons]

/-! ## What becomes of steps -/

theorem planOf_snoc : ∀ (steps : List Step) (step : Step),
    planOf (steps ++ [step]) = extend (planOf steps) step
  | [], step => by cases step <;> rfl
  | .error e :: steps, step => rfl
  | .ok op :: steps, step => by
    rw [List.cons_append, planOf, planOf, planOf_snoc steps step]
    cases planOf steps with
    | error e => rfl
    | ok ops => cases step <;> rfl

theorem planOf_eq_ok : ∀ {steps : List Step} {ops : Plan},
    planOf steps = .ok ops ↔ steps = ops.map .ok
  | [], ops => by simp [planOf, eq_comm]
  | .error e :: steps, ops => by cases ops <;> simp [planOf]
  | .ok op :: steps, ops => by
    rw [planOf, map_eq_ok]
    simp only [planOf_eq_ok]
    refine ⟨?_, ?_⟩
    · rintro ⟨rest, rfl, rfl⟩
      rfl
    · intro h
      cases ops with
      | nil => cases h
      | cons a rest =>
        obtain ⟨ha, hr⟩ := List.cons.inj h
        exact ⟨rest, hr, by rw [Except.ok.inj ha]⟩

theorem planOf_eq_error : ∀ {steps : List Step} {e : Error},
    planOf steps = .error e ↔
      ∃ (before : Plan) (after : List Step), steps = before.map .ok ++ .error e :: after
  | [], e => by simp [planOf]
  | .error d :: steps, e => by
    rw [planOf, Except.error.injEq]
    refine ⟨?_, ?_⟩
    · rintro rfl
      exact ⟨[], steps, rfl⟩
    · rintro ⟨before, after, h⟩
      cases before with
      | nil => exact Except.error.inj (List.cons.inj h).1
      | cons op rest => cases (List.cons.inj h).1
  | .ok op :: steps, e => by
    have hmap : (planOf steps).map (op :: ·) = .error e ↔ planOf steps = .error e := by
      cases planOf steps <;> simp [Except.map]
    rw [planOf, hmap, planOf_eq_error]
    refine ⟨?_, ?_⟩
    · rintro ⟨before, after, rfl⟩
      exact ⟨op :: before, after, rfl⟩
    · rintro ⟨before, after, h⟩
      cases before with
      | nil => cases (List.cons.inj h).1
      | cons a rest => exact ⟨rest, after, (List.cons.inj h).2⟩

/-! ## What a call does to a frame -/

theorem plan_readCsv (path : List UInt8) (options : CsvOptions) :
    (readCsv path options).plan = planOf [csvStep path options] := by
  unfold readCsv csvStep
  cases Text.Utf8.decode? path <;> rfl

theorem plan_ofColumns : ∀ columns : List Column,
    (ofColumns columns).plan = planOf [columnsStep columns]
  | [] => rfl
  | first :: rest => by
    simp only [ofColumns, columnsStep]
    cases (first :: rest).find? fun c => c.values.length != first.values.length <;> rfl

theorem plan_ofRecords : ∀ records : List Record,
    (ofRecords records).plan = planOf [recordsStep records]
  | [] => rfl
  | [] :: _ => rfl
  | (p :: first) :: rest => plan_ofColumns (columnsOfRecords (p :: first) rest)

theorem plan_ofJson (json : Json) : (ofJson json).plan = planOf [jsonStep json] := by
  cases json with
  | arr rows =>
    simp only [ofJson, jsonStep]
    cases rows.mapM recordOfJson with
    | error e => rfl
    | ok records => exact plan_ofRecords records
  | obj members =>
    simp only [ofJson, jsonStep]
    cases members.mapM columnOfJson with
    | error e => rfl
    | ok columns => exact plan_ofColumns columns
  | _ => rfl

theorem plan_source (s : Source) : s.frame.plan = planOf s.steps := by
  cases s with
  | blank => rfl
  | csv path options => exact plan_readCsv path options
  | records rows => exact plan_ofRecords rows
  | columns cs => exact plan_ofColumns cs
  | json tree => exact plan_ofJson tree
  | sql text => rfl

theorem plan_transform (f : Frame) (t : Transform) :
    (t.apply f).plan = extend f.plan (.ok t.operation) := by
  have hpush : t.apply f = f.push t.operation := by cases t <;> rfl
  rw [hpush, push, extend]
  cases f.plan <;> rfl

theorem apply_join (f other : Frame) (j : JoinCall) : j.apply f other = f.join other j.spec := by
  cases j <;> rfl

theorem plan_join (f other : Frame) (spec : JoinSpec) :
    (f.join other spec).plan = extend f.plan (joinStep other.plan spec) := by
  unfold join joinStep
  cases f.plan with
  | error e => rfl
  | ok ops =>
    cases other.plan with
    | error e => rfl
    | ok others => cases spec.check <;> rfl

theorem plan_concat (f other : Frame) :
    (f.concat other).plan = extend f.plan (concatStep other.plan) := by
  unfold concat concatStep
  cases f.plan with
  | error e => rfl
  | ok ops => cases other.plan <;> rfl

/-! ## Frames keep their first failure -/

mutual

theorem plan_frame : ∀ h : History, h.frame.plan = planOf h.steps
  | .source s => plan_source s
  | .call before t => by
    rw [History.frame, History.steps, plan_transform, planOf_snoc, plan_frame before]
  | .join before other j => by
    rw [History.frame, History.steps, apply_join, plan_join, planOf_snoc, plan_frame before,
      plan_frame other]
  | .concat before other => by
    rw [History.frame, History.steps, plan_concat, planOf_snoc, plan_frame before, plan_frame other]
  | .concatAll [] => rfl
  | .concatAll (first :: rest) => by
    rw [History.frame, framesOf, concatAll, History.steps, plan_foldl_concat rest (plan_frame first)]

theorem plan_foldl_concat : ∀ (hs : List History) {f : Frame} {steps : List Step},
    f.plan = planOf steps →
    ((framesOf hs).foldl Frame.concat f).plan = planOf (steps ++ concatSteps hs)
  | [], f, steps, hf => by rw [framesOf, concatSteps, List.append_nil, List.foldl_nil, hf]
  | h :: hs, f, steps, hf => by
    have hstep : (f.concat h.frame).plan = planOf (steps ++ [concatStep (planOf h.steps)]) := by
      rw [plan_concat, planOf_snoc, hf, plan_frame h]
    rw [framesOf, concatSteps, List.foldl_cons, plan_foldl_concat hs hstep, List.append_assoc]
    rfl

end

/-! ## Which failure comes first -/

/-- The error that a specification makes a join fail with, if it is at fault. -/
def specError? (spec : JoinSpec) : Option Error :=
  match spec.check with
  | .ok () => none
  | .error fault => some (.badJoin fault)

theorem error?_join (f other : Frame) (spec : JoinSpec) :
    (f.join other spec).error? = f.error?.or (other.error?.or (specError? spec)) := by
  unfold error? specError?
  rw [plan_join]
  unfold extend joinStep
  cases f.plan with
  | error e => rfl
  | ok ops =>
    cases other.plan with
    | error e => rfl
    | ok others => cases spec.check <;> rfl

theorem error?_concat (f other : Frame) : (f.concat other).error? = f.error?.or other.error? := by
  unfold error?
  rw [plan_concat]
  unfold extend concatStep
  cases f.plan with
  | error e => rfl
  | ok ops => cases other.plan <;> rfl

theorem error?_foldl_concat : ∀ (frames : List Frame) (f : Frame),
    (frames.foldl Frame.concat f).error? = f.error?.or (frames.findSome? error?)
  | [], f => by rw [List.foldl_nil, List.findSome?_nil, Option.or_none]
  | g :: frames, f => by
    rw [List.foldl_cons, error?_foldl_concat frames, error?_concat, Option.or_assoc,
      List.findSome?_cons]
    cases g.error? <;> rfl

/-- No frames are a failure; else the first frame that has failed counts. -/
theorem error?_concatAll (frames : List Frame) :
    (Frame.concatAll frames).error? =
      if frames = [] then some .noFrames else frames.findSome? error? := by
  cases frames with
  | nil => rfl
  | cons f rest =>
    rw [concatAll, error?_foldl_concat, if_neg (List.cons_ne_nil f rest), List.findSome?_cons]
    cases f.error? <;> rfl

/-- **A frame keeps its first failure.** It has an error exactly if one of its calls has failed, and
then the failure of the first call that did, whatever came after. Otherwise its plan is one operation
for each source and each call, in the order of the calls. Where one call has several frames, the frame
that it is made on comes first, then the other ones in order, then the specification of a join; and a
concatenation of no frames is a failure. -/
theorem frame_keeps_first_failure (h : History) :
    (∀ e, h.frame.error? = some e ↔
      ∃ (before : Plan) (after : List Step), h.steps = before.map .ok ++ .error e :: after) ∧
    (∀ ops, h.frame.plan = .ok ops ↔ h.steps = ops.map .ok) ∧
    (∀ other j, (History.join h other j).frame.error? =
      h.frame.error?.or (other.frame.error?.or (specError? j.spec))) ∧
    (∀ other, (History.concat h other).frame.error? = h.frame.error?.or other.frame.error?) ∧
    ∀ all, (History.concatAll all).frame.error? =
      if all = [] then some .noFrames else all.findSome? (·.frame.error?) := by
  refine ⟨?_, ?_, ?_, ?_, ?_⟩
  · intro e
    have herror : h.frame.error? = some e ↔ h.frame.plan = .error e := by
      unfold error?
      cases h.frame.plan <;> simp
    rw [herror, plan_frame, planOf_eq_error]
  · intro ops
    rw [plan_frame, planOf_eq_ok]
  · intro other j
    rw [History.frame, apply_join, error?_join]
  · intro other
    rw [History.frame, error?_concat]
  · intro all
    rw [History.frame, error?_concatAll, framesOf_eq_map, List.findSome?_map]
    simp only [List.map_eq_nil_iff]
    rfl

end FramePlan.Frame
