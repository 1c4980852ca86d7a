import FramePlan.Proofs.Eval.Grouping
import FramePlan.Proofs.Eval.TableTyping

/-!
# Joins as nested loops

A join looks its partners up in an index of the right rows, and keeps note of the right rows that it
found. What it makes is what two loops over the rows make, an outer one over the left rows and an
inner one over the right rows, without an index (`loopPairs`).

1. `hits_eq`: under the key text of a left row the index has the right rows that match the row, in
   their order, and it has nothing there if none does.
2. `any_pairs_iff`: a right row has a partner among the pairs if it matches a left row.
3. `joinPairs_eq_loopPairs` puts the two together, and `join_eq_nestedLoop` says what follows for the
   tables: which rows are kept, and how many rows the result has.
-/
namespace FramePlan.Eval

open Table Series

/-! ## The loops -/

section

variable (how : JoinType) (ls rs : List Series)

/-- Two rows match if none of their key cells is null and their key texts are equal. -/
def Matches (l r : Nat) : Prop :=
  .null ∉ keyTuple ls l ∧ .null ∉ keyTuple rs r ∧ rowKey ls l = rowKey rs r

instance (l r : Nat) : Decidable (Matches ls rs l r) :=
  inferInstanceAs
    (Decidable (.null ∉ keyTuple ls l ∧ .null ∉ keyTuple rs r ∧ rowKey ls l = rowKey rs r))

/-- The right rows that match a left row. -/
def partners (rightHeight l : Nat) : List Nat :=
  (List.range rightHeight).filter (Matches ls rs l ·)

/-- The inner loop: a left row with each of its partners, or alone if it has none and is kept. -/
def innerLoop (rightHeight l : Nat) : List RowPair :=
  if partners ls rs rightHeight l = [] then
    if how = .left ∨ how = .outer then [(some l, none)] else []
  else (partners ls rs rightHeight l).map fun r => (some l, some r)

def unmatched (leftHeight rightHeight : Nat) : List Nat :=
  (List.range rightHeight).filter fun r => ∀ l < leftHeight, ¬Matches ls rs l r

/-- The outer loop, and behind it the right rows that are kept alone. -/
def loopPairs (leftHeight rightHeight : Nat) : List RowPair :=
  if how = .cross then
    (List.range leftHeight).flatMap fun l => (List.range rightHeight).map fun r => (some l, some r)
  else
    (List.range leftHeight).flatMap (innerLoop how ls rs rightHeight) ++
      if how = .outer then (unmatched ls rs leftHeight rightHeight).map fun r => (none, some r)
      else []

end

variable {how : JoinType} {ls rs : List Series} {l r leftHeight rightHeight : Nat}

theorem mem_partners : r ∈ partners ls rs rightHeight l ↔ r < rightHeight ∧ Matches ls rs l r := by
  simp [partners]

theorem mem_unmatched : r ∈ unmatched ls rs leftHeight rightHeight ↔
    r < rightHeight ∧ ∀ l < leftHeight, ¬Matches ls rs l r := by
  simp [unmatched]

/-! ## The index -/

theorem hits_eq (ls rs : List Series) (rightHeight l : Nat) :
    (matchKey? ls l).bind ((groupRows (matchKey? rs) (List.range rightHeight)).lookup ·) =
      if partners ls rs rightHeight l = [] then none else some (partners ls rs rightHeight l) := by
  cases hk : matchKey? ls l with
  | none =>
    -- A key cell is null, so the row matches nothing.
    have hnone : partners ls rs rightHeight l = [] := by
      apply List.filter_eq_nil_iff.mpr
      intro r _ hm
      obtain ⟨hl, -, -⟩ := of_decide_eq_true hm
      rw [matchKey?_eq_some.mpr ⟨hl, rfl⟩] at hk
      cases hk
    rw [hnone]
    rfl
  | some key =>
    obtain ⟨hl, hkey⟩ := matchKey?_eq_some.mp hk
    have hmembers : members (matchKey? rs) (List.range rightHeight) key =
        partners ls rs rightHeight l := by
      apply List.filter_congr
      intro r _
      have hiff : matchKey? rs r = some key ↔ Matches ls rs l r := by
        rw [matchKey?_eq_some, Matches, hkey]
        exact ⟨fun ⟨hr, h⟩ => ⟨hl, hr, h.symm⟩, fun ⟨_, hr, h⟩ => ⟨hr, h.symm⟩⟩
      rw [Bool.eq_iff_iff, beq_iff_eq, decide_eq_true_iff]
      exact hiff
    rw [Option.bind_some, lookup_groupRows, hmembers]

/-- The pairs of a left row are those that the inner loop makes. -/
theorem pairsOf_eq_innerLoop (hc : how ≠ .cross) (ls rs : List Series) (rightHeight l : Nat) :
    pairsOf how l
        ((matchKey? ls l).bind ((groupRows (matchKey? rs) (List.range rightHeight)).lookup ·)) =
      innerLoop how ls rs rightHeight l := by
  rw [hits_eq, innerLoop]
  split
  · -- Without a partner the row is left out by an inner join alone.
    rw [pairsOf]
    cases how with
    | cross => exact absurd rfl hc
    | _ => rfl
  · rfl

theorem any_pairs_iff : (((List.range leftHeight).flatMap (innerLoop how ls rs rightHeight)).any
      fun p => p.2 == some r) = true ↔
    r < rightHeight ∧ ∃ l < leftHeight, Matches ls rs l r := by
  have hinner (l : Nat) : (∃ p ∈ innerLoop how ls rs rightHeight l, p.2 = some r) ↔
      r ∈ partners ls rs rightHeight l := by
    rw [innerLoop]
    split
    · rename_i hnone
      rw [hnone]
      split <;> simp
    · simp
  have hpairs : (((List.range leftHeight).flatMap (innerLoop how ls rs rightHeight)).any
        fun p => p.2 == some r) = true ↔
      ∃ l < leftHeight, ∃ p ∈ innerLoop how ls rs rightHeight l, p.2 = some r := by
    simp only [List.any_eq_true, List.mem_flatMap, List.mem_range, beq_iff_eq]
    constructor
    · rintro ⟨p, ⟨l, hl, hp⟩, hr⟩
      exact ⟨l, hl, p, hp, hr⟩
    · rintro ⟨l, hl, p, hp, hr⟩
      exact ⟨p, ⟨l, hl, hp⟩, hr⟩
  simp only [hpairs, hinner, mem_partners]
  constructor
  · rintro ⟨l, hl, hr, hm⟩
    exact ⟨hr, l, hl, hm⟩
  · rintro ⟨hr, l, hl, hm⟩
    exact ⟨l, hl, hr, hm⟩

/-- **The index and the loops make the same pairs, in the same order.** -/
theorem joinPairs_eq_loopPairs (how : JoinType) (ls rs : List Series) (leftHeight rightHeight : Nat) :
    joinPairs how ls rs leftHeight rightHeight = loopPairs how ls rs leftHeight rightHeight := by
  rw [joinPairs, loopPairs]
  split
  · rfl
  rename_i hc
  have hloop : ((List.range leftHeight).flatMap fun l => pairsOf how l
      ((matchKey? ls l).bind ((groupRows (matchKey? rs) (List.range rightHeight)).lookup ·))) =
      (List.range leftHeight).flatMap (innerLoop how ls rs rightHeight) := by
    simp only [pairsOf_eq_innerLoop hc]
  have hfree : ((List.range rightHeight).filter fun r =>
      !((List.range leftHeight).flatMap (innerLoop how ls rs rightHeight)).any
        fun p => p.2 == some r) = unmatched ls rs leftHeight rightHeight := by
    apply List.filter_congr
    intro r hr
    rw [Bool.eq_iff_iff, Bool.not_eq_true', ← Bool.not_eq_true, any_pairs_iff, decide_eq_true_iff]
    simp [List.mem_range.mp hr]
  simp only [keyPairs, hloop, hfree]
  split
  · rfl
  · rw [List.append_nil]

/-! ## Rows that are kept -/

theorem exists_pair_left (keeps : how = .left ∨ how = .outer) (hl : l < leftHeight) :
    ∃ p ∈ loopPairs how ls rs leftHeight rightHeight, p.1 = some l := by
  have hc : how ≠ .cross := by rintro rfl; simp at keeps
  have hinner : ∃ p ∈ innerLoop how ls rs rightHeight l, p.1 = some l := by
    rw [innerLoop, if_pos keeps]
    split
    · exact ⟨(some l, none), List.mem_singleton_self _, rfl⟩
    · rename_i hne
      obtain ⟨r, hr⟩ := List.exists_mem_of_ne_nil _ hne
      exact ⟨(some l, some r), List.mem_map_of_mem hr, rfl⟩
  obtain ⟨p, hp, hpl⟩ := hinner
  refine ⟨p, ?_, hpl⟩
  rw [loopPairs, if_neg hc]
  exact List.mem_append_left _ (List.mem_flatMap.mpr ⟨l, List.mem_range.mpr hl, hp⟩)

theorem exists_pair_right (hr : r < rightHeight) :
    ∃ p ∈ loopPairs .outer ls rs leftHeight rightHeight, p.2 = some r := by
  rw [loopPairs, if_neg (by decide), if_pos rfl]
  by_cases hm : ∃ l < leftHeight, Matches ls rs l r
  · obtain ⟨l, hl, hm⟩ := hm
    have hmem : r ∈ partners ls rs rightHeight l := mem_partners.mpr ⟨hr, hm⟩
    refine ⟨(some l, some r), ?_, rfl⟩
    apply List.mem_append_left
    refine List.mem_flatMap.mpr ⟨l, List.mem_range.mpr hl, ?_⟩
    rw [innerLoop, if_neg (List.ne_nil_of_mem hmem)]
    exact List.mem_map_of_mem hmem
  · refine ⟨(none, some r), ?_, rfl⟩
    apply List.mem_append_right
    apply List.mem_map_of_mem
    exact mem_unmatched.mpr ⟨hr, fun l hl hm' => hm ⟨l, hl, hm'⟩⟩

/-! ## The result -/

/-- The table of the pairs: the left columns at the left rows, then the right ones at the right
    rows. -/
def assemble (left right : Table) (spec : JoinSpec) (pairs : List RowPair) : Outcome Table := do
  let lefts ← left.columns.mapM (leftColumn right spec pairs)
  Table.ofColumns ((rightColumns right spec).foldl (addRight spec pairs) lefts)

variable {left right : Table} {spec : JoinSpec} {pairs : List RowPair} {c : Series}

theorem length_takeOptional (s : Series) (rows : List (Option Nat)) :
    (s.takeOptional rows).length = rows.length := List.length_map _

theorem length_leftColumn :
    Yields (leftColumn right spec pairs c) fun s => s.length = pairs.length := by
  simp only [leftColumn]
  split
  · refine .ok ?_
    rw [length_takeOptional, List.length_map]
  · refine Yields.after ?_
    intro source _
    refine Yields.after ?_
    intro d _
    refine .ok ?_
    simp [Series.length, coerce, takeOptional]

theorem height_assemble : Yields (assemble left right spec pairs) fun t =>
    t.columns ≠ [] → t.height = pairs.length := by
  refine Yields.bind (Yields.mapM fun c _ => length_leftColumn) ?_
  intro lefts hlefts
  have hlengths : ∀ d ∈ (rightColumns right spec).foldl (addRight spec pairs) lefts,
      d.length = pairs.length := by
    apply forall_mem_addRights hlefts
    intro c _ name
    exact (length_takeOptional c (pairs.map (·.2))).trans (List.length_map _)
  refine ofColumns_spec.mono ?_
  rintro t ⟨hcolumns, heights, -⟩ hne
  obtain ⟨d, hd⟩ := List.exists_mem_of_ne_nil _ hne
  rw [hcolumns] at hd
  rw [← heights d hd, hlengths d hd]

theorem checkKeyTypes_eq_ok {keys : List (Series × Series)}
    (h : ∀ k ∈ keys, (k.1.dtype.unify? k.2.dtype).isSome) : checkKeyTypes keys = .ok () := by
  induction keys with
  | nil => rfl
  | cons k keys ih =>
    obtain ⟨hk, hkeys⟩ := List.forall_mem_cons.mp h
    rw [checkKeyTypes, if_pos hk, ih hkeys]

/-- **A join is a nested loop.** The specification is valid, its keys are columns of the two tables,
and their types go together. Then the pairs of the join are those that the loops make, and the result
is assembled from them: a left or an outer join keeps every left row, an outer join keeps every right
row, and a result with a column has as many rows as there are pairs. -/
theorem join_eq_nestedLoop (left right : Table) (spec : JoinSpec) (ls rs : List Series)
    (valid : spec.check = .ok ()) (hls : spec.leftOn.mapM left.column = .ok ls)
    (hrs : spec.rightOn.mapM right.column = .ok rs)
    (types : ∀ k ∈ ls.zip rs, (k.1.dtype.unify? k.2.dtype).isSome) :
    let pairs := loopPairs spec.how ls rs left.height right.height
    joinPairs spec.how ls rs left.height right.height = pairs ∧
      join left right spec = assemble left right spec pairs ∧
      (spec.how = .left ∨ spec.how = .outer → ∀ l < left.height, ∃ p ∈ pairs, p.1 = some l) ∧
      (spec.how = .outer → ∀ r < right.height, ∃ p ∈ pairs, p.2 = some r) ∧
      ∀ t, join left right spec = .ok t → t.columns ≠ [] → t.height = pairs.length := by
  intro pairs
  have hpairs : joinPairs spec.how ls rs left.height right.height = pairs :=
    joinPairs_eq_loopPairs spec.how ls rs left.height right.height
  have hjoin : join left right spec = assemble left right spec pairs := by
    rw [join, valid, hls, hrs]
    simp only [Except.mapError, ok_bind, checkKeyTypes_eq_ok types, hpairs]
    rfl
  refine ⟨hpairs, hjoin, fun keeps l hl => exists_pair_left keeps hl, ?_, ?_⟩
  · intro outer r hr
    rw [show pairs = loopPairs .outer ls rs left.height right.height by rw [← outer]]
    exact exists_pair_right hr
  · intro t ht
    rw [hjoin] at ht
    exact height_assemble t ht

def orderIds : Series := ⟨"id", .i64, [.int 2, .null, .int 1, .int 3]⟩

def orders : Table := ⟨[orderIds, ⟨"item", .str, [.str "a", .str "b", .str "c", .str "d"]⟩], 4⟩

/-- The numbers of the orders that payments are for: one is there twice, one is missing, and one is
    of no order. -/
def paidIds : Series := ⟨"order", .i64, [.int 1, .null, .int 4, .int 1, .int 2]⟩

def payments : Table := ⟨[paidIds], 5⟩

def paidOrders : JoinSpec := ⟨["id"], ["order"], .outer, "_right", true⟩

def paidPairs : List RowPair :=
  [(some 0, some 4), (some 1, none), (some 2, some 0), (some 2, some 3), (some 3, none),
    (none, some 1), (none, some 2)]

theorem join_eq_nestedLoop_orders :
    joinPairs .outer [orderIds] [paidIds] 4 5 = paidPairs ∧
      join orders payments paidOrders = assemble orders payments paidOrders paidPairs ∧
      (∀ l < 4, ∃ p ∈ paidPairs, p.1 = some l) ∧ (∀ r < 5, ∃ p ∈ paidPairs, p.2 = some r) ∧
      ∀ t, join orders payments paidOrders = .ok t → t.columns ≠ [] → t.height = 7 := by
  have loops : loopPairs .outer [orderIds] [paidIds] 4 5 = paidPairs := by decide
  obtain ⟨pairs, result, lefts, rights, rows⟩ :=
    join_eq_nestedLoop orders payments paidOrders [orderIds] [paidIds] (by decide) (by decide)
      (by decide) (by decide)
  refine ⟨pairs.trans loops, ?_, loops ▸ lefts (.inr rfl), loops ▸ rights rfl, rows⟩
  rw [result, ← loops]
  rfl

end FramePlan.Eval
