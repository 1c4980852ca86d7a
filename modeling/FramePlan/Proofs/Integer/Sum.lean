import FramePlan.Integer
import Mathlib.Algebra.BigOperators.Group.List.Basic
import Mathlib.Algebra.Order.BigOperators.Group.List
import Mathlib.Algebra.Order.Group.Int
import Mathlib.Algebra.Ring.Int.Defs

/-!
# Sums of words

`sum?` adds words one after the other and checks the range after each step. It has the exact sum if no
running sum leaves the range, and nothing otherwise (`sum?_eq_some`, `sum?_eq_none`), so a sum that is
itself in range may still be missed, in one order and not in another.

Which sums depend on the order is read off two numbers: what the words that are not negative come to,
and what the negative ones come to. Every running sum, in any order, lies between these
(`losses_le_total`, `total_le_gains`), and each of them is itself a running sum in some order. So if the
exact sum is in range, the order does not matter exactly if both numbers are in range too
(`orderFree_iff`). The other direction of this needs an order that does not fail, and there always is one:
add a negative word while the running sum is not negative, and the other way round
(`exists_perm_staysInRange`).
-/
namespace FramePlan.Integer

variable {x y : Int64} {xs ys : List Int64} {z : Int}

/-! ## The range of words -/

/-- The integer is the value of a word. -/
def InRange (z : Int) : Prop := -0x8000000000000000 ≤ z ∧ z < 0x8000000000000000

instance (z : Int) : Decidable (InRange z) := inferInstanceAs (Decidable (_ ∧ _))

theorem inRange_toInt (x : Int64) : InRange x.toInt := by
  have hle := Int64.le_toInt x
  have hlt := Int64.toInt_lt x
  exact ⟨by simpa using hle, by simpa using hlt⟩

theorem eq_zero_iff : x = 0 ↔ x.toInt = 0 := by rw [← Int64.toInt_inj, Int64.toInt_zero]

theorem eq_minValue_iff : x = Int64.minValue ↔ x.toInt = -0x8000000000000000 := by
  rw [← Int64.toInt_inj, Int64.toInt_minValue]
  rfl

/-- The range is what wrapping around keeps. -/
theorem bmod_of_inRange (h : InRange z) : z.bmod (2 ^ 64) = z := by
  unfold InRange at h
  exact Int.bmod_eq_of_le (by omega) (by omega)

theorem toInt_neg_of_ne (hx : x ≠ Int64.minValue) : (-x).toInt = -x.toInt := by
  have hrange := inRange_toInt x
  have hleast : x.toInt ≠ -0x8000000000000000 := mt eq_minValue_iff.mpr hx
  unfold InRange at hrange
  rw [Int64.toInt_neg, bmod_of_inRange ⟨by omega, by omega⟩]

theorem ofInt?_eq_some : ofInt? z = some x ↔ x.toInt = z := by
  refine ⟨toInt_of_ofInt?, ?_⟩
  rintro rfl
  exact ofInt?_toInt x

theorem ofInt?_eq_none : ofInt? z = none ↔ ¬InRange z := by
  unfold ofInt? InRange
  split <;> simp_all

theorem add?_eq_some {b : Int64} : add? x y = some b ↔ b.toInt = x.toInt + y.toInt := ofInt?_eq_some

/-! ## Exact sums -/

def total (xs : List Int64) : Int := (xs.map Int64.toInt).sum

/-- The exact sum of the words that are not negative. -/
def gains (xs : List Int64) : Int := total (xs.filter fun x => 0 ≤ x.toInt)

/-- The exact sum of the negative words. -/
def losses (xs : List Int64) : Int := total (xs.filter fun x => x.toInt < 0)

@[simp] theorem total_nil : total [] = 0 := rfl

@[simp] theorem total_cons (x : Int64) (xs : List Int64) : total (x :: xs) = x.toInt + total xs := by
  simp [total]

theorem total_nonpos (h : ∀ x ∈ xs, x.toInt ≤ 0) : total xs ≤ 0 := by
  have hsum := List.sum_le_card_nsmul (xs.map Int64.toInt) 0 (List.forall_mem_map.mpr h)
  rwa [nsmul_zero] at hsum

theorem total_perm (h : ys.Perm xs) : total ys = total xs := (h.map _).sum_eq

theorem gains_perm (h : ys.Perm xs) : gains ys = gains xs := total_perm (h.filter _)

theorem losses_perm (h : ys.Perm xs) : losses ys = losses xs := total_perm (h.filter _)

theorem gains_cons (x : Int64) (xs : List Int64) : gains (x :: xs) = max x.toInt 0 + gains xs := by
  simp only [gains, List.filter_cons, decide_eq_true_eq]
  split
  · rw [total_cons]
    omega
  · omega

theorem losses_cons (x : Int64) (xs : List Int64) : losses (x :: xs) = min x.toInt 0 + losses xs := by
  simp only [losses, List.filter_cons, decide_eq_true_eq]
  split
  · rw [total_cons]
    omega
  · omega

theorem total_le_gains (h : ys.Sublist xs) : total ys ≤ gains xs := by
  induction h with
  | slnil => exact Int.le_refl 0
  | cons x _ ih =>
    rw [gains_cons]
    omega
  | cons_cons x _ ih =>
    rw [gains_cons, total_cons]
    omega

theorem losses_le_total (h : ys.Sublist xs) : losses xs ≤ total ys := by
  induction h with
  | slnil => exact Int.le_refl 0
  | cons x _ ih =>
    rw [losses_cons]
    omega
  | cons_cons x _ ih =>
    rw [losses_cons, total_cons]
    omega

/-! ## Running sums -/

/-- Adding the words to `start` one after the other leaves the range at no step. -/
def StaysInRange (start : Int) (xs : List Int64) : Prop := ∀ ys, ys <+: xs → InRange (start + total ys)

theorem staysInRange_nil : StaysInRange z [] ↔ InRange z := by
  simp [StaysInRange, List.prefix_nil]

theorem staysInRange_cons :
    StaysInRange z (x :: xs) ↔ InRange z ∧ StaysInRange (z + x.toInt) xs := by
  constructor
  · intro h
    refine ⟨by simpa using h [] List.nil_prefix, ?_⟩
    intro ys hys
    have hstep := h (x :: ys) ((List.prefix_cons_inj x).mpr hys)
    rwa [total_cons, ← Int.add_assoc] at hstep
  · rintro ⟨hz, h⟩ ys hys
    rcases List.prefix_cons_iff.mp hys with rfl | ⟨rest, rfl, hrest⟩
    · simpa using hz
    · rw [total_cons, ← Int.add_assoc]
      exact h rest hrest

theorem StaysInRange.total (h : StaysInRange 0 xs) : InRange (total xs) := by
  simpa using h xs (List.prefix_refl xs)

theorem foldlM_add?_eq_some :
    xs.foldlM add? x = some y ↔ StaysInRange x.toInt xs ∧ y.toInt = x.toInt + total xs := by
  induction xs generalizing x with
  | nil =>
    rw [List.foldlM_nil, staysInRange_nil, total_nil, Int.add_zero, Int64.toInt_inj]
    constructor
    · intro h
      cases h
      exact ⟨inRange_toInt _, rfl⟩
    · rintro ⟨-, rfl⟩
      rfl
  | cons w ws ih =>
    have hsum (b : Int64) (hb : b.toInt = x.toInt + w.toInt) :
        (ws.foldlM add? b = some y) ↔
          StaysInRange (x.toInt + w.toInt) ws ∧ y.toInt = x.toInt + total (w :: ws) := by
      rw [ih, hb, total_cons, Int.add_assoc]
    rw [List.foldlM_cons, Option.bind_eq_bind, Option.bind_eq_some_iff, staysInRange_cons]
    constructor
    · rintro ⟨b, hb, hrest⟩
      obtain ⟨hstays, htotal⟩ := (hsum b (add?_eq_some.mp hb)).mp hrest
      exact ⟨⟨inRange_toInt x, hstays⟩, htotal⟩
    · rintro ⟨⟨-, hstays⟩, htotal⟩
      -- The first step has a result, since its exact sum is the first running sum.
      have hfirst : InRange (x.toInt + w.toInt) := by simpa using hstays [] List.nil_prefix
      obtain ⟨b, hb⟩ := Option.ne_none_iff_exists'.mp (mt ofInt?_eq_none.mp (not_not.mpr hfirst))
      exact ⟨b, hb, (hsum b (ofInt?_eq_some.mp hb)).mpr ⟨hstays, htotal⟩⟩

/-- A sum is the exact one, of words whose running sums stay in range. -/
theorem sum?_eq_some : sum? xs = some x ↔ StaysInRange 0 xs ∧ x.toInt = total xs := by
  rw [sum?, foldlM_add?_eq_some, show (0 : Int64).toInt = 0 from rfl, Int.zero_add]

theorem exists_sum? (h : StaysInRange 0 xs) : ∃ x, sum? xs = some x ∧ x.toInt = total xs := by
  obtain ⟨x, hx⟩ := Option.ne_none_iff_exists'.mp (mt ofInt?_eq_none.mp (not_not.mpr h.total))
  have hx : x.toInt = total xs := ofInt?_eq_some.mp hx
  exact ⟨x, sum?_eq_some.mpr ⟨h, hx⟩, hx⟩

/-- There is no sum exactly if a running sum leaves the range. -/
theorem sum?_eq_none : sum? xs = none ↔ ¬StaysInRange 0 xs := by
  constructor
  · intro hnone hstays
    obtain ⟨x, hx, -⟩ := exists_sum? hstays
    rw [hnone] at hx
    cases hx
  · intro h
    by_contra hne
    obtain ⟨x, hx⟩ := Option.ne_none_iff_exists'.mp hne
    exact h (sum?_eq_some.mp hx).1

/-! ## Orders of addition -/

/-- If the exact sum is in range, then also those of the negative words and of the other ones. -/
def OrderFree (xs : List Int64) : Prop := InRange (total xs) → InRange (gains xs) ∧ InRange (losses xs)

instance (xs : List Int64) : Decidable (OrderFree xs) := inferInstanceAs (Decidable (_ → _))

theorem OrderFree.perm (h : OrderFree xs) (hperm : ys.Perm xs) : OrderFree ys := by
  unfold OrderFree
  rwa [total_perm hperm, gains_perm hperm, losses_perm hperm]

theorem staysInRange_of_bounds (hg : InRange (gains xs)) (hl : InRange (losses xs)) :
    StaysInRange 0 xs := by
  intro ys hys
  have hle := total_le_gains hys.sublist
  have hge := losses_le_total hys.sublist
  unfold InRange at *
  omega

theorem OrderFree.sum? (h : OrderFree xs) (hperm : ys.Perm xs) : sum? ys = sum? xs := by
  by_cases hr : InRange (total xs)
  · obtain ⟨hg, hl⟩ := h hr
    obtain ⟨x, hx, hxt⟩ := exists_sum? (staysInRange_of_bounds hg hl)
    have hys : StaysInRange 0 ys := staysInRange_of_bounds (by rwa [gains_perm hperm])
      (by rwa [losses_perm hperm])
    rw [hx, sum?_eq_some]
    exact ⟨hys, hxt.trans (total_perm hperm).symm⟩
  · -- The exact sum is a running sum in every order.
    have hys : ¬StaysInRange 0 ys := fun hs => hr (total_perm hperm ▸ hs.total)
    rw [sum?_eq_none.mpr hys, sum?_eq_none.mpr fun hs => hr hs.total]

/-- On the way from a value in range to one in range there is a step that stays there. -/
theorem exists_step (hne : xs ≠ []) (hz : InRange z) (hr : InRange (z + total xs)) :
    ∃ x ∈ xs, InRange (z + x.toInt) := by
  obtain ⟨x, rest, rfl⟩ := List.exists_cons_of_ne_nil hne
  rw [total_cons] at hr
  by_contra! hout
  have hx := hout x List.mem_cons_self
  have hxr := inRange_toInt x
  unfold InRange at *
  by_cases hpos : 0 ≤ z
  · -- A negative word would stay in range, so there is none, and `x` is at most the whole way.
    have hrest : 0 ≤ total rest := by
      refine List.sum_nonneg (List.forall_mem_map.mpr ?_)
      intro y hy
      have hy := hout y (List.mem_cons_of_mem _ hy)
      have hyr := inRange_toInt y
      unfold InRange at hyr
      omega
    omega
  · have hrest : total rest ≤ 0 := by
      apply total_nonpos
      intro y hy
      have hy := hout y (List.mem_cons_of_mem _ hy)
      have hyr := inRange_toInt y
      unfold InRange at hyr
      omega
    omega

/-- If the exact sum is in range, the words can be added in some order. -/
theorem exists_perm_staysInRange (hz : InRange z) (hr : InRange (z + total xs)) :
    ∃ ys, ys.Perm xs ∧ StaysInRange z ys := by
  induction hn : xs.length generalizing xs z with
  | zero =>
    obtain rfl : xs = [] := List.eq_nil_of_length_eq_zero hn
    exact ⟨[], .nil, staysInRange_nil.mpr hz⟩
  | succ n ih =>
    have hne : xs ≠ [] := List.ne_nil_of_length_eq_add_one hn
    obtain ⟨x, hx, hstep⟩ := exists_step hne hz hr
    have hsplit := List.perm_cons_erase hx
    have hrest : InRange (z + x.toInt + total (xs.erase x)) := by
      rwa [Int.add_assoc, ← total_cons, ← total_perm hsplit]
    have hlen : (xs.erase x).length = n := by
      rw [List.length_erase_of_mem hx, hn]
      rfl
    obtain ⟨ys, hperm, hstays⟩ := ih hstep hrest hlen
    exact ⟨x :: ys, (hperm.cons x).trans hsplit.symm, staysInRange_cons.mpr ⟨hz, hstays⟩⟩

/-- **Words have one sum in all orders exactly if they are order-free.** -/
theorem orderFree_iff : OrderFree xs ↔ ∀ ys, ys.Perm xs → sum? ys = sum? xs := by
  refine ⟨fun h ys hperm => h.sum? hperm, ?_⟩
  intro h hr
  -- One order has a sum, so all have.
  obtain ⟨ys, hperm, hys⟩ := exists_perm_staysInRange (z := 0) (by decide) (by rwa [Int.zero_add])
  have hall (ws : List Int64) (hws : ws.Perm xs) : StaysInRange 0 ws := by
    by_contra hout
    have hnone : sum? ys = none := (h ys hperm).trans ((h ws hws).symm.trans (sum?_eq_none.mpr hout))
    exact sum?_eq_none.mp hnone hys
  have hsplit (p : Int64 → Bool) : InRange (total (xs.filter p)) := by
    have hrun := hall _ (List.filter_append_perm p xs) (xs.filter p) (List.prefix_append _ _)
    rwa [Int.zero_add] at hrun
  exact ⟨hsplit _, hsplit _⟩

example : OrderFree [1, -1, 5] ∧ ¬OrderFree [Int64.maxValue, 1, -1] := by decide

end FramePlan.Integer
