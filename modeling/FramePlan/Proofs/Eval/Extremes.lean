import FramePlan.Proofs.Eval.Order
import FramePlan.Proofs.Eval.SeriesTyping

/-!
# Least and greatest cells

A minimum keeps the cell at hand until one comes that is smaller, a maximum until one comes that is
greater. Both are `extreme o`, where `o` is how the cell at hand stands to one that takes its place. A
typed column has one order for its cells, so no cell of it takes the place of the one that is kept at the
end (`extreme_not_exceeded`).

Two cells of which neither takes the place of the other are equal. So the extreme cell is determined by
which cells there are, in whatever order they come (`extreme_perm`).
-/
namespace FramePlan.Eval

open Table

variable {d : Dtype} {o : Ordering} {a b c : Cell} {cs cells cells' : List Cell} {s : Series}

def IsDatum (d : Dtype) (c : Cell) : Prop := CellHas d c ∧ c ≠ .null

theorem mem_present : c ∈ present cells ↔ c ∈ cells ∧ c ≠ .null := by
  rw [present, List.mem_filter]
  cases c <;> simp [Cell.isNull]

theorem data_of_typed (hs : SeriesTyped s) : ∀ c ∈ present s.cells, IsDatum s.dtype c := by
  intro c hc
  obtain ⟨hm, hn⟩ := mem_present.mp hc
  exact ⟨hs c hm, hn⟩

/-! ## Cells that take each other's place -/

/-- A cell does not take its own place, nor that of one that it gave way to. -/
theorem compareCells_ne_of_taken (ho : o ≠ .eq) (ha : IsDatum d a) (hb : IsDatum d b)
    (h : compareCells a b = o ∨ a = b) : compareCells b a ≠ o := by
  obtain rfl | rfl := h
  · rw [compareCells_swap ha.1 hb.1 ha.2 hb.2] at ho ⊢
    revert ho
    cases compareCells b a <;> decide
  · rw [(compareCells_eq_eq ha.1 ha.1 ha.2 ha.2).mpr rfl]
    exact ho.symm

theorem compareCells_ne_trans (ho : o ≠ .eq) (ha : IsDatum d a) (hb : IsDatum d b)
    (hc : IsDatum d c) (hab : compareCells a b ≠ o) (hbc : compareCells b c ≠ o) :
    compareCells a c ≠ o := by
  cases o with
  | eq => exact absurd rfl ho
  | gt =>
    have hle := compareCells_trans ha.1 hb.1 ha.2 hb.2 hc.1 hc.2
      (Ordering.isLE_iff_ne_gt.mpr hab) (Ordering.isLE_iff_ne_gt.mpr hbc)
    exact Ordering.isLE_iff_ne_gt.mp hle
  | lt =>
    -- Not to be smaller is not to be greater the other way round.
    rw [compareCells_swap ha.1 hb.1 ha.2 hb.2, ne_eq, Ordering.swap_eq_lt] at hab
    rw [compareCells_swap hb.1 hc.1 hb.2 hc.2, ne_eq, Ordering.swap_eq_lt] at hbc
    rw [compareCells_swap ha.1 hc.1 ha.2 hc.2, ne_eq, Ordering.swap_eq_lt]
    have hle := compareCells_trans hc.1 hb.1 hc.2 hb.2 ha.1 ha.2
      (Ordering.isLE_iff_ne_gt.mpr hbc) (Ordering.isLE_iff_ne_gt.mpr hab)
    exact Ordering.isLE_iff_ne_gt.mp hle

theorem eq_of_compareCells_ne (ho : o ≠ .eq) (ha : IsDatum d a) (hb : IsDatum d b)
    (hab : compareCells a b ≠ o) (hba : compareCells b a ≠ o) : a = b := by
  rw [compareCells_swap hb.1 ha.1 hb.2 ha.2] at hba
  apply (compareCells_eq_eq ha.1 hb.1 ha.2 hb.2).mp
  revert ho hab hba
  cases o <;> cases compareCells a b <;> decide

/-! ## Extreme cells -/

/-- The cell that is kept of two: the first one unless the second takes its place. -/
def keep (o : Ordering) (a b : Cell) : Cell := if compareCells a b = o then b else a

theorem extreme_cons_cons (o : Ordering) (a b : Cell) (cs : List Cell) :
    extreme o (a :: b :: cs) = extreme o (keep o a b :: cs) := rfl

theorem keep_cases (o : Ordering) (a b : Cell) : keep o a b = a ∨ keep o a b = b := by
  unfold keep
  split
  · exact .inr rfl
  · exact .inl rfl

theorem keep_not_exceeded (ho : o ≠ .eq) (ha : IsDatum d a) (hb : IsDatum d b) :
    compareCells (keep o a b) a ≠ o ∧ compareCells (keep o a b) b ≠ o := by
  unfold keep
  split
  · rename_i htaken
    exact ⟨compareCells_ne_of_taken ho ha hb (.inl htaken),
      compareCells_ne_of_taken ho hb hb (.inr rfl)⟩
  · rename_i hstays
    exact ⟨compareCells_ne_of_taken ho ha ha (.inr rfl), hstays⟩

/-- No cell takes the place of the one that is kept at the end. -/
theorem extreme_not_exceeded (ho : o ≠ .eq) : ∀ (a : Cell) (cs : List Cell),
    (∀ c ∈ a :: cs, IsDatum d c) → ∀ c ∈ a :: cs, compareCells (extreme o (a :: cs)) c ≠ o
  | a, [], h, c, hc => by
    obtain rfl := List.mem_singleton.mp hc
    exact compareCells_ne_of_taken ho (h c hc) (h c hc) (.inr rfl)
  | a, b :: cs, h, c, hc => by
    obtain ⟨ha, hb, hcs⟩ := by simpa only [List.forall_mem_cons] using h
    have hkept : IsDatum d (keep o a b) := by
      obtain hk | hk := keep_cases o a b <;> rw [hk] <;> assumption
    have hrest : ∀ c ∈ keep o a b :: cs, IsDatum d c := List.forall_mem_cons.mpr ⟨hkept, hcs⟩
    have ih := extreme_not_exceeded ho (keep o a b) cs hrest
    have hlast : IsDatum d (extreme o (keep o a b :: cs)) := hrest _ (extreme_mem o _ cs)
    have hover := ih _ List.mem_cons_self
    obtain ⟨hfirst, hsecond⟩ := keep_not_exceeded ho ha hb
    rw [extreme_cons_cons]
    -- What gave way to the kept cell gives way to the one that is kept at the end.
    obtain rfl | hc := List.mem_cons.mp hc
    · exact compareCells_ne_trans ho hlast hkept ha hover hfirst
    obtain rfl | hc := List.mem_cons.mp hc
    · exact compareCells_ne_trans ho hlast hkept hb hover hsecond
    · exact ih c (List.mem_cons_of_mem _ hc)

theorem extreme_mem_of_ne_nil (h : cells ≠ []) : extreme o cells ∈ cells := by
  obtain ⟨c, cs, rfl⟩ := List.exists_cons_of_ne_nil h
  exact extreme_mem o c cs

theorem extreme_eq_null (h : ∀ c ∈ cells, IsDatum d c) : extreme o cells = .null ↔ cells = [] := by
  refine ⟨?_, ?_⟩
  · intro hnull
    by_contra hne
    exact (h _ (extreme_mem_of_ne_nil hne)).2 hnull
  · rintro rfl
    rfl

theorem extreme_bound (ho : o ≠ .eq) (h : ∀ c ∈ cells, IsDatum d c) :
    ∀ b ∈ cells, compareCells (extreme o cells) b ≠ o := by
  cases cells with
  | nil => exact fun b hb => absurd hb List.not_mem_nil
  | cons c cs => exact extreme_not_exceeded ho c cs h

theorem extreme_perm (ho : o ≠ .eq) (h : ∀ c ∈ cells, IsDatum d c) (hp : cells'.Perm cells) :
    extreme o cells' = extreme o cells := by
  have h' : ∀ c ∈ cells', IsDatum d c := fun c hc => h c (hp.mem_iff.mp hc)
  by_cases hne : cells = []
  · rw [hne] at hp ⊢
    rw [hp.eq_nil]
  · have hne' : cells' ≠ [] := by
      rintro rfl
      exact hne hp.symm.eq_nil
    have hm := extreme_mem_of_ne_nil (o := o) hne
    have hm' := extreme_mem_of_ne_nil (o := o) hne'
    -- Each of the two is a cell of the other list, so neither takes the place of the other.
    exact eq_of_compareCells_ne ho (h' _ hm') (h _ hm)
      (extreme_bound ho h' _ (hp.mem_iff.mpr hm)) (extreme_bound ho h _ (hp.mem_iff.mp hm'))

/-! ## Minimum and maximum -/

/-- The cell is an extreme of the series: null if there are only nulls, and else a cell of the series
    that stands to each of its cells but the nulls in one of the allowed ways. Numbers are compared by
    their total order. -/
structure IsExtreme (allowed : Ordering → Bool) (s : Series) (c : Cell) : Prop where
  null_iff : c = .null ↔ ∀ b ∈ s.cells, b = .null
  mem : c ≠ .null → c ∈ s.cells
  bound : ∀ b ∈ s.cells, b ≠ .null → allowed (compareCells c b) = true
  numbers : ∀ x, c = .float x → ∀ y, .float y ∈ s.cells → allowed (x.totalCompare y) = true

theorem isExtreme_of_typed {allowed : Ordering → Bool} (hs : SeriesTyped s) (ho : o ≠ .eq)
    (hallowed : ∀ p, p ≠ o → allowed p = true) :
    IsExtreme allowed s (extreme o (present s.cells)) := by
  have hdata := data_of_typed hs
  have hbound : ∀ b ∈ s.cells, b ≠ .null →
      allowed (compareCells (extreme o (present s.cells)) b) = true := by
    intro b hb hn
    exact hallowed _ (extreme_bound ho hdata b (mem_present.mpr ⟨hb, hn⟩))
  refine ⟨?_, ?_, hbound, ?_⟩
  · rw [extreme_eq_null hdata, List.eq_nil_iff_forall_not_mem]
    simp only [mem_present, not_and_not_right]
  · intro hne
    have hsome : present s.cells ≠ [] := fun h => hne ((extreme_eq_null hdata).mpr h)
    exact (mem_present.mp (extreme_mem_of_ne_nil hsome)).1
  · intro x hx y hy
    have h := hbound (.float y) hy (by simp)
    rwa [hx] at h

/-- **Minima and maxima are extreme and do not depend on the order of the rows.** The minimum of a typed
series is null exactly if all its cells are, and else one of its cells that is less than or equal to every
cell that is not null; the maximum is greater than or equal to all of them. With the cells in any other
order, both are the same. -/
theorem extremes_of_typed (s : Series) (hs : SeriesTyped s) :
    (∃ c, aggregate .min s = .ok (.scalar s.name s.dtype c) ∧ IsExtreme Ordering.isLE s c) ∧
    (∃ c, aggregate .max s = .ok (.scalar s.name s.dtype c) ∧ IsExtreme Ordering.isGE s c) ∧
    ∀ cells, cells.Perm s.cells →
      aggregate .min { s with cells := cells } = aggregate .min s ∧
      aggregate .max { s with cells := cells } = aggregate .max s := by
  refine ⟨⟨_, rfl, isExtreme_of_typed hs (o := .gt) (by decide) (by decide)⟩,
    ⟨_, rfl, isExtreme_of_typed hs (o := .lt) (by decide) (by decide)⟩, ?_⟩
  intro cells hp
  have hperm : (present cells).Perm (present s.cells) := hp.filter _
  have hextreme {o : Ordering} (ho : o ≠ .eq) :
      extreme o (present cells) = extreme o (present s.cells) :=
    extreme_perm ho (data_of_typed hs) hperm
  refine ⟨?_, ?_⟩
  · simp only [aggregate, aggregateCell, hextreme (o := .gt) (by decide)]
  · simp only [aggregate, aggregateCell, hextreme (o := .lt) (by decide)]

/-- Names of kinds, of which one is missing. -/
def kindNames : Series := ⟨"kind", .str, [.str "nut", .null, .str "apple", .str "pear"]⟩

/-- The first and the last name in the order of texts, with the names in another order. -/
theorem extremes_of_typed_kindNames :
    SeriesTyped kindNames ∧
    IsExtreme Ordering.isLE kindNames (.str "apple") ∧
    IsExtreme Ordering.isGE kindNames (.str "pear") ∧
    [Cell.str "pear", .str "nut", .str "apple", .null].Perm kindNames.cells ∧
    aggregate .min ⟨"kind", .str, [.str "pear", .str "nut", .str "apple", .null]⟩ =
      aggregate .min kindNames := by
  have typed : SeriesTyped kindNames := by simp [SeriesTyped, CellHas, kindNames]
  have hp : [Cell.str "pear", .str "nut", .str "apple", .null].Perm kindNames.cells := by decide
  obtain ⟨⟨c, hmin, hc⟩, ⟨e, hmax, he⟩, hperm⟩ := extremes_of_typed kindNames typed
  have hleast : aggregate .min kindNames = .ok (.scalar "kind" .str (.str "apple")) := by decide
  have hgreatest : aggregate .max kindNames = .ok (.scalar "kind" .str (.str "pear")) := by decide
  obtain ⟨-, -, rfl⟩ := by simpa [Series.scalar] using hleast.symm.trans hmin
  obtain ⟨-, -, rfl⟩ := by simpa [Series.scalar] using hgreatest.symm.trans hmax
  exact ⟨typed, hc, he, hp, (hperm _ hp).1⟩

end FramePlan.Eval
