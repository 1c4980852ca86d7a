import FramePlan.Frame.Source
import FramePlan.Proofs.Outcome
import FramePlan.Proofs.Plan.Within

/-!
# Frames that can be built

`Frame.Reachable` are the frames that builder calls make: a source, or a call on frames made the same
way. `sort` and the join shorthands are calls of `sortBy` and `join`.

A call appends one operation, and checks that it makes sense on its own where that can go wrong: a
join its specification, in-memory columns their lengths. So the plan of a frame without an error
holds checked operations at every depth (`Reachable.checked`).
-/
namespace FramePlan

/-- What a builder call checks of the operation that it appends. -/
def Operation.Checked : Operation → Prop
  | .join _ spec => spec.Valid
  | .fromMemory columns =>
    columns ≠ [] ∧ ∀ c ∈ columns, ∀ d ∈ columns, c.values.length = d.values.length
  | _ => True

theorem Operation.Checked.hasPairs {op : Operation} (h : op.Checked) : op.HasPairs := by
  cases op with
  | join other spec => exact h.1
  | _ => trivial

namespace Frame

inductive Reachable : Frame → Prop
  | empty : Reachable empty
  | readCsv (path : List UInt8) (options : CsvOptions) : Reachable (readCsv path options)
  | ofRecords (records : List Record) : Reachable (ofRecords records)
  | ofColumns (columns : List Column) : Reachable (ofColumns columns)
  | ofJson (json : Json) : Reachable (ofJson json)
  | ofSql (sql : String) : Reachable (ofSql sql)
  | select {f : Frame} (items : List Selector) : f.Reachable → Reachable (f.select items)
  | filter {f : Frame} (predicate : Selector) : f.Reachable → Reachable (f.filter predicate)
  | withColumns {f : Frame} (items : List Selector) : f.Reachable → Reachable (f.withColumns items)
  | groupBy {f : Frame} (keys aggs : List Selector) : f.Reachable → Reachable (f.groupBy keys aggs)
  | sortBy {f : Frame} (fields : List SortField) : f.Reachable → Reachable (f.sortBy fields)
  | limit {f : Frame} (rows : UInt64) : f.Reachable → Reachable (f.limit rows)
  | count {f : Frame} : f.Reachable → Reachable f.count
  | query {f : Frame} (sql : String) : f.Reachable → Reachable (f.query sql)
  | join {f other : Frame} (spec : JoinSpec) : f.Reachable → other.Reachable →
      Reachable (f.join other spec)
  | concat {f other : Frame} : f.Reachable → other.Reachable → Reachable (f.concat other)
  | concatAll {frames : List Frame} : (∀ f ∈ frames, f.Reachable) → Reachable (concatAll frames)

/-- The plan, if there is one, holds checked operations at every depth. -/
def Checked (f : Frame) : Prop := ∀ ops, f.plan = .ok ops → Plan.Throughout Operation.Checked ops

theorem checked_failed (e : Error) : (failed e).Checked := by
  intro ops h
  cases h

theorem checked_empty : empty.Checked := by
  intro ops h
  cases h
  exact Plan.throughout_nil

theorem Checked.push {f : Frame} {op : Operation} (hf : f.Checked) (hop : op.Checked)
    (inner : Plan.Throughout Operation.Checked op.inner) : (f.push op).Checked := by
  intro ops h
  obtain ⟨before, hb, rfl⟩ := map_eq_ok.mp h
  exact Plan.throughout_append.mpr ⟨hf before hb, Plan.throughout_singleton.mpr ⟨hop, inner⟩⟩

theorem Checked.join {f other : Frame} (hf : f.Checked) (ho : other.Checked) (spec : JoinSpec) :
    (f.join other spec).Checked := by
  intro ops h
  obtain ⟨before, hb, h⟩ := bind_eq_ok.mp h
  obtain ⟨others, hp, h⟩ := bind_eq_ok.mp h
  cases hs : spec.check with
  | error fault => simp [hs] at h
  | ok u =>
    rw [hs] at h
    cases h
    -- The specification has passed, and the other plan holds checked operations already.
    have hop : (Operation.join others spec).Checked := (JoinSpec.check_eq_ok_iff spec).mp hs
    exact Plan.throughout_append.mpr
      ⟨hf before hb, Plan.throughout_singleton.mpr ⟨hop, ho others hp⟩⟩

theorem Checked.concat {f other : Frame} (hf : f.Checked) (ho : other.Checked) :
    (f.concat other).Checked := by
  intro ops h
  obtain ⟨before, hb, h⟩ := bind_eq_ok.mp h
  obtain ⟨others, hp, h⟩ := bind_eq_ok.mp h
  cases h
  exact Plan.throughout_append.mpr
    ⟨hf before hb, Plan.throughout_singleton.mpr ⟨trivial, ho others hp⟩⟩

theorem checked_foldl_concat : ∀ {frames : List Frame} {f : Frame}, f.Checked →
    (∀ g ∈ frames, g.Checked) → (frames.foldl Frame.concat f).Checked
  | [], _, hf, _ => hf
  | g :: frames, _, hf, hg => by
    rw [List.foldl_cons]
    exact checked_foldl_concat (hf.concat (hg g List.mem_cons_self))
      fun k hk => hg k (List.mem_cons_of_mem g hk)

theorem checked_concatAll {frames : List Frame} (h : ∀ f ∈ frames, f.Checked) :
    (concatAll frames).Checked := by
  cases frames with
  | nil => exact checked_failed .noFrames
  | cons f rest =>
    exact checked_foldl_concat (h f List.mem_cons_self)
      fun g hg => h g (List.mem_cons_of_mem f hg)

/-! ## Sources -/

theorem checked_readCsv (path : List UInt8) (options : CsvOptions) :
    (readCsv path options).Checked := by
  unfold readCsv
  split
  · exact checked_empty.push trivial Plan.throughout_nil
  · exact checked_failed _

theorem checked_ofColumns (columns : List Column) : (ofColumns columns).Checked := by
  cases columns with
  | nil => exact checked_failed .emptyColumns
  | cons first rest =>
    simp only [ofColumns]
    split
    · exact checked_failed _
    · rename_i hfind
      have hlen : ∀ c ∈ first :: rest, c.values.length = first.values.length := by
        intro c hc
        simpa using List.find?_eq_none.mp hfind c hc
      refine checked_empty.push ⟨List.cons_ne_nil first rest, ?_⟩ Plan.throughout_nil
      intro c hc d hd
      rw [hlen c hc, hlen d hd]

theorem checked_ofRecords : ∀ (records : List Record), (ofRecords records).Checked
  | [] => checked_failed .emptyRecords
  | [] :: _ => checked_failed .emptyFirstRecord
  | (p :: first) :: rest => checked_ofColumns (columnsOfRecords (p :: first) rest)

theorem checked_ofJson (json : Json) : (ofJson json).Checked := by
  unfold ofJson
  split
  · split
    · exact checked_ofRecords _
    · exact checked_failed _
  · split
    · exact checked_ofColumns _
    · exact checked_failed _
  · exact checked_failed _

/-- **Every operation of a built plan has been checked**, at every depth. -/
theorem Reachable.checked {f : Frame} (h : f.Reachable) : f.Checked := by
  induction h with
  | empty => exact checked_empty
  | readCsv path options => exact checked_readCsv path options
  | ofRecords records => exact checked_ofRecords records
  | ofColumns columns => exact checked_ofColumns columns
  | ofJson json => exact checked_ofJson json
  | ofSql sql => exact checked_empty.push trivial Plan.throughout_nil
  | select items _ ih => exact ih.push trivial Plan.throughout_nil
  | filter predicate _ ih => exact ih.push trivial Plan.throughout_nil
  | withColumns items _ ih => exact ih.push trivial Plan.throughout_nil
  | groupBy keys aggs _ ih => exact ih.push trivial Plan.throughout_nil
  | sortBy fields _ ih => exact ih.push trivial Plan.throughout_nil
  | limit rows _ ih => exact ih.push trivial Plan.throughout_nil
  | count _ ih => exact ih.push trivial Plan.throughout_nil
  | query sql _ ih => exact ih.push trivial Plan.throughout_nil
  | join spec _ _ ihf iho => exact ihf.join iho spec
  | concat _ _ ihf iho => exact ihf.concat iho
  | concatAll _ ih => exact checked_concatAll ih

theorem Reachable.keysPaired {f : Frame} {ops : Plan} (h : f.Reachable) (hf : f.plan = .ok ops) :
    ops.KeysPaired :=
  (h.checked ops hf).mono fun _ hop => hop.hasPairs

end Frame
end FramePlan
