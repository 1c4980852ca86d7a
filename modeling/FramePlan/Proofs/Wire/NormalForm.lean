import FramePlan.Proofs.Wire.Acceptance
import FramePlan.Proofs.Wire.Within

/-!
# Plans that were read

A record has room for much that a plan has none for: fields that its tag does not select, children
that its kind does not use, codes that stand for nothing. Reading drops what is not used and refuses
what is used and stands for nothing, so the plan that is left is one that the writer can write
faithfully: it has no empty list of type overrides, and its joins have as many left keys as right
keys. Written and read again it is the same plan (`reread_eq`).

The two key arrays of a join share one count, and an address does not say how many names are behind
it. Reading goes as far as the count, so a count beyond the end of an array is not a plan at all:
`Backed` is that every address in a record has as many names behind it as are counted.
-/
namespace FramePlan.Wire

/-! ## Key arrays -/

/-- An address that is there has as many names behind it as are counted. -/
def Backs (address : Option (List Text)) (count : Nat) : Prop :=
  ∀ texts, address = some texts → count ≤ texts.length

/-- The keys that the record of a join counts are there, on either side that has an address. -/
def OpRecord.KeysBacked : OpRecord → Prop
  | .join _ a => Backs a.leftOn a.keys ∧ Backs a.rightOn a.keys
  | _ => True

/-- The keys of all joins of the record, at every depth, are there. -/
def Backed (w : Option PlanRecord) : Prop :=
  ∀ plan, w = some plan → PlanRecord.Throughout OpRecord.KeysBacked plan

theorem SpellsKeys.length_eq {address : Option (List Text)} {count : Nat} {names : List String}
    (h : SpellsKeys address count names) (backs : Backs address count) : names.length = count := by
  obtain ⟨rfl, rfl⟩ | ⟨texts, haddress, hnames⟩ := h
  · rfl
  · rw [← hnames.length_eq, List.length_take, Nat.min_eq_left (backs texts haddress)]

/-! ## Operations -/

/-- The operation is written as a record that reads back as it. -/
def Faithful (op : Operation) : Prop := op.HasPairs ∧ op.OverridesSome

theorem SpellsTypes.ne_nil {codes : Buffer UInt8} {ts : Option (List DataType)}
    (h : SpellsTypes codes ts) : ts ≠ Option.some [] := by
  cases h <;> simp

theorem SpellsOp.faithful {r : OpRecord} {op : Operation} (h : SpellsOp r op)
    (backed : r.KeysBacked) : Faithful op := by
  cases h with
  | readCsv hpath htypes => exact ⟨trivial, htypes.ne_nil⟩
  | join hgives hops hjoin =>
    have hl := hjoin.leftOn.length_eq backed.1
    have hr := hjoin.rightOn.length_eq backed.2
    exact ⟨hl.trans hr.symm, trivial⟩
  | _ => exact ⟨trivial, trivial⟩

theorem Buffer.Gives.stored_eq {α : Type} {b : Buffer α} {xs : List α} (h : b.Gives xs) :
    b.stored = xs := by
  cases h <;> rfl

theorem SpellsOp.inner {r : OpRecord} {op : Operation} (h : SpellsOp r op) :
    SpellsOps r.inner.stored op.inner := by
  cases h with
  | join hgives hops hjoin => exact hgives.stored_eq ▸ hops
  | concat hgives hops => exact hgives.stored_eq ▸ hops
  | _ => exact .nil

theorem SpellsOps.exists_of_mem {rs : List OpRecord} {ops : List Operation} (h : SpellsOps rs ops)
    {op : Operation} (hop : op ∈ ops) : ∃ r ∈ rs, SpellsOp r op := by
  induction ops generalizing rs with
  | nil => exact absurd hop List.not_mem_nil
  | cons a ops ih =>
    obtain ⟨⟩ | ⟨hr, hrs⟩ := h
    rcases List.mem_cons.mp hop with rfl | hop
    · exact ⟨_, List.mem_cons_self, hr⟩
    · obtain ⟨r, hmem, hr⟩ := ih hrs hop
      exact ⟨r, List.mem_cons_of_mem _ hmem, hr⟩

/-- What records spell can be written faithfully, at every depth. -/
theorem SpellsOps.throughout {plan : PlanRecord} {ops : Plan} (h : SpellsOps plan.stored ops)
    (backed : plan.Throughout OpRecord.KeysBacked) : ops.Throughout Faithful := by
  induction ops using Plan.induction generalizing plan with
  | step ops ih =>
    refine Plan.throughout_iff.mpr fun op hop => ?_
    obtain ⟨r, hr, hspells⟩ := h.exists_of_mem hop
    obtain ⟨hown, hinner⟩ := PlanRecord.throughout_iff.mp backed r hr
    exact ⟨hspells.faithful hown, ih op hop hspells.inner hinner⟩

/-! ## Plans -/

/-- **A plan that was read is read again as it is.** Whatever the record held besides, the plan has
no empty list of type overrides and pairs of keys in all its joins, and its own record reads as it. -/
theorem reread_eq {w : Option PlanRecord} {ops : Plan} (backed : Backed w)
    (h : decode w = .ok ops) :
    ops.normal = ops ∧ ops.KeysPaired ∧ decode (some (encode ops).record) = .ok ops := by
  obtain ⟨plan, rs, rfl, hgives, hspells⟩ := decode_eq_ok.mp h
  have hfaithful : ops.Throughout Faithful :=
    SpellsOps.throughout (hgives.stored_eq.symm ▸ hspells) (backed plan rfl)
  have hnormal : ops.normal = ops := Plan.normal_eq ops (hfaithful.mono fun _ h => h.2)
  have hpaired : ops.KeysPaired := hfaithful.mono fun _ h => h.1
  refine ⟨hnormal, hpaired, ?_⟩
  rw [decode_record, decodeOps_encodeOps ops hpaired, hnormal]

/-- The record of a literal, with junk in fields that no literal has. -/
def litteredLiteral : Node :=
  .mk ⟨1, 99, true, 0xD800, .null 7, .null 0, ⟨2, 5, Binary64.zero, borrow "é", true⟩, -1, 0,
    .null 3, .null 0⟩ (.null 0)

/-- A node for `NOT`, with a child more than it uses. -/
def litteredNot : Node :=
  .mk { NodeHead.blank 2 with op := UnaryOp.not.code, fill := 1 }
    (.items [litteredLiteral, litteredLiteral])

/-- A filter, and a join inside a concatenation. The join counts one key and has two names on the
left, and its other plan is an array of nothing. -/
def litteredPlan : PlanRecord :=
  .items [.entries .filter (.items [⟨1, .null 9, some litteredNot⟩]),
    .concat (.items [.readCsv ⟨borrow "a.csv", 44, true, .items []⟩,
      .join (.items []) ⟨some [borrow "k", .null 3], some [borrow "k"], 1, JoinType.left.code,
        noText, false⟩,
      .bare countOpcode])]

def tidyPlan : Plan :=
  [.filter (.expr (.unary .not (.literal (.str "é")))),
    .concat [.readCsv "a.csv" .default, .join [] ⟨["k"], ["k"], .left, "", false⟩, .count]]

theorem reread_eq_littered : Backed (some litteredPlan) ∧
    decode (some litteredPlan) = .ok tidyPlan ∧ tidyPlan.normal = tidyPlan ∧ tidyPlan.KeysPaired ∧
    decode (some (encode tidyPlan).record) = .ok tidyPlan := by
  have backed : Backed (some litteredPlan) := by
    rintro _ ⟨⟩
    simp [litteredPlan, PlanRecord.throughout_items, PlanRecord.throughout_null, OpRecord.inner,
      OpRecord.KeysBacked, Backs]
  have hread : decode (some litteredPlan) = .ok tidyPlan := rfl
  exact ⟨backed, hread, reread_eq backed hread⟩

end FramePlan.Wire
