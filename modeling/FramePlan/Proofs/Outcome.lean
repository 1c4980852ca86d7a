import Mathlib.Data.List.Forall2

/-!
# Computations that may fail

A sequence of steps succeeds exactly if each step does (`bind_eq_ok`), and a step over the items of
a list exactly if it does for each item (`mapM_eq_ok`).

`Yields x P` says that whatever `x` gives has the property `P`. Its rules follow the shape of the
computation: a step before another one, a choice, a step for each item, and a fold, where what each
step keeps holds at the end.
-/
namespace FramePlan

variable {ε α β : Type}

@[simp] theorem ok_bind (a : α) (f : α → Except ε β) : (Except.ok a >>= f) = f a := rfl

@[simp] theorem error_bind (e : ε) (f : α → Except ε β) :
    ((Except.error e : Except ε α) >>= f) = .error e := rfl

@[simp] theorem pure_eq_ok (a : α) : (pure a : Except ε α) = .ok a := rfl

theorem bind_eq_ok {x : Except ε α} {f : α → Except ε β} {b : β} :
    (x >>= f) = .ok b ↔ ∃ a, x = .ok a ∧ f a = .ok b := by
  cases x <;> simp

theorem exists_of_bind_eq_ok {x : Except ε α} {f : α → Except ε β} {b : β} (h : (x >>= f) = .ok b) :
    ∃ a, x = .ok a := by
  obtain ⟨a, ha, -⟩ := bind_eq_ok.mp h
  exact ⟨a, ha⟩

theorem map_eq_ok {x : Except ε α} {f : α → β} {b : β} :
    x.map f = .ok b ↔ ∃ a, x = .ok a ∧ f a = b := by
  cases x <;> simp [Except.map]

theorem map_eq_error {x : Except ε α} {f : α → β} {e : ε} : x.map f = .error e ↔ x = .error e := by
  cases x <;> simp [Except.map]

theorem mapM_eq_ok {f : α → Except ε β} : ∀ {xs : List α} {ys : List β},
    xs.mapM f = .ok ys ↔ List.Forall₂ (fun x y => f x = .ok y) xs ys
  | [], ys => by simp [eq_comm]
  | x :: xs, ys => by
    rw [List.mapM_cons, List.forall₂_cons_left_iff]
    simp only [bind_eq_ok, pure_eq_ok, Except.ok.injEq, mapM_eq_ok]
    refine ⟨?_, ?_⟩
    · intro h
      obtain ⟨y, hy, zs, hzs, rfl⟩ := h
      exact ⟨y, zs, hy, hzs, rfl⟩
    · intro h
      obtain ⟨y, zs, hy, hzs, rfl⟩ := h
      exact ⟨y, hy, zs, hzs, rfl⟩

theorem exists_mapM_eq_ok {f : α → Except ε β} {xs : List α} :
    (∃ ys, xs.mapM f = .ok ys) ↔ ∀ x ∈ xs, ∃ y, f x = .ok y := by
  induction xs with
  | nil => exact ⟨fun _ _ hx => absurd hx List.not_mem_nil, fun _ => ⟨[], rfl⟩⟩
  | cons x xs ih =>
    rw [List.forall_mem_cons, ← ih, List.mapM_cons]
    simp only [bind_eq_ok, pure_eq_ok, Except.ok.injEq]
    refine ⟨?_, ?_⟩
    · rintro ⟨zs, y, hy, ys, hys, rfl⟩
      exact ⟨⟨y, hy⟩, ⟨ys, hys⟩⟩
    · rintro ⟨⟨y, hy⟩, ⟨ys, hys⟩⟩
      exact ⟨y :: ys, y, hy, ys, hys, rfl⟩

theorem mapM_congr {f g : α → Except ε β} {xs : List α} (h : ∀ x ∈ xs, f x = g x) :
    xs.mapM f = xs.mapM g := by
  induction xs with
  | nil => rfl
  | cons x xs ih =>
    obtain ⟨hx, hxs⟩ := List.forall_mem_cons.mp h
    rw [List.mapM_cons, List.mapM_cons, hx, ih hxs]

theorem map_eq_of_mapM {f : α → Except ε β} {xs : List α} {ys : List β} (h : xs.mapM f = .ok ys) :
    xs.map f = ys.map .ok := by
  have heach : List.Forall₂ (fun x y => f x = .ok y) xs ys := mapM_eq_ok.mp h
  rw [← List.forall₂_eq_eq_eq, List.forall₂_map_left_iff, List.forall₂_map_right_iff]
  exact heach

theorem getElem?_of_mapM {f : α → Except ε β} {xs : List α} {ys : List β} (h : xs.mapM f = .ok ys)
    {i : Nat} {x : α} (hx : xs[i]? = some x) : ∃ y, ys[i]? = some y ∧ f x = .ok y := by
  have hi : (xs.map f)[i]? = (ys.map .ok)[i]? := by rw [map_eq_of_mapM h]
  rw [List.getElem?_map, hx, List.getElem?_map] at hi
  cases hy : ys[i]? with
  | none =>
    rw [hy] at hi
    cases hi
  | some y =>
    rw [hy] at hi
    exact ⟨y, rfl, Option.some.inj hi⟩

/-- Where a step fails for bad items only, it fails for a list with the first bad one in it. -/
theorem mapM_of_find? {f : α → Except ε β} {bad : α → Bool} {e : ε} {xs : List α} {x : α}
    (hgood : ∀ y ∈ xs, bad y = false → ∃ b, f y = .ok b) (hfind : xs.find? bad = some x)
    (hx : f x = .error e) : xs.mapM f = .error e := by
  induction xs with
  | nil => cases hfind
  | cons y xs ih =>
    obtain ⟨hy, hrest⟩ := List.forall_mem_cons.mp hgood
    rw [List.mapM_cons]
    cases hbad : bad y with
    | true =>
      rw [List.find?_cons_of_pos hbad] at hfind
      cases hfind
      rw [hx, error_bind]
    | false =>
      rw [List.find?_cons_of_neg (by simp [hbad])] at hfind
      obtain ⟨b, hb⟩ := hy hbad
      rw [hb, ok_bind, ih hrest hfind, error_bind]

/-! ## Success and failure alone -/

/-- That a computation succeeds, or how it fails. -/
def fate (x : Except ε α) : Except ε Unit := x.map fun _ => ()

theorem fate_map (x : Except ε α) (f : α → β) : fate (x.map f) = fate x := by
  cases x <;> rfl

theorem fate_bind_ok (x : Except ε α) (f : α → β) : fate (x >>= fun a => .ok (f a)) = fate x := by
  cases x <;> rfl

/-- What follows a step, where it is known without the outcome of the step. -/
theorem map_bind_of_fate {γ : Type} {x : Except ε α} {f : α → Except ε β} {g : β → γ}
    {y : Except ε γ} (h : ∀ a, x = .ok a → (f a).map g = y) :
    (x >>= f).map g = (fate x >>= fun _ => y) := by
  cases x with
  | error e => rfl
  | ok a => exact h a rfl

theorem fate_mapM_congr {γ : Type} {f : α → Except ε β} {g : α → Except ε γ} {xs : List α}
    (h : ∀ x, fate (f x) = fate (g x)) : fate (xs.mapM f) = fate (xs.mapM g) := by
  induction xs with
  | nil => rfl
  | cons x xs ih =>
    have rest {δ : Type} (k : α → Except ε δ) :
        fate ((x :: xs).mapM k) = (fate (k x) >>= fun _ => fate (xs.mapM k)) := by
      rw [List.mapM_cons]
      refine map_bind_of_fate fun y _ => ?_
      cases xs.mapM k <;> rfl
    rw [rest, rest, h x, ih]

theorem fate_mapM_const {f : α → Except ε β} {y : Except ε Unit} {xs : List α} (hne : xs ≠ [])
    (h : ∀ x ∈ xs, fate (f x) = y) : fate (xs.mapM f) = y := by
  cases y with
  | ok _ =>
    have heach : ∀ x ∈ xs, ∃ z, f x = .ok z := by
      intro x hx
      obtain ⟨z, hz, -⟩ := map_eq_ok.mp (h x hx)
      exact ⟨z, hz⟩
    obtain ⟨ys, hys⟩ := exists_mapM_eq_ok.mpr heach
    rw [hys]
    rfl
  | error e =>
    obtain ⟨x, rest, rfl⟩ := List.exists_cons_of_ne_nil hne
    rw [List.mapM_cons, map_eq_error.mp (h x List.mem_cons_self)]
    rfl

/-! ## What a success yields -/

/-- Every success of the computation has the property. -/
def Yields (x : Except ε α) (P : α → Prop) : Prop := ∀ a, x = .ok a → P a

namespace Yields

variable {P Q : α → Prop}

theorem ok {a : α} (h : P a) : Yields (Except.ok a : Except ε α) P := by
  intro b hb
  cases hb
  exact h

theorem error (e : ε) : Yields (Except.error e : Except ε α) P := by
  intro b hb
  cases hb

theorem mono {x : Except ε α} (hx : Yields x P) (h : ∀ a, P a → Q a) : Yields x Q :=
  fun a ha => h a (hx a ha)

theorem bind {R : β → Prop} {x : Except ε α} {f : α → Except ε β} (hx : Yields x P)
    (hf : ∀ a, P a → Yields (f a) R) : Yields (x >>= f) R := by
  intro b hb
  obtain ⟨a, ha, hfa⟩ := bind_eq_ok.mp hb
  exact hf a (hx a ha) b hfa

theorem after {R : β → Prop} {x : Except ε α} {f : α → Except ε β}
    (hf : ∀ a, x = .ok a → Yields (f a) R) : Yields (x >>= f) R :=
  bind (P := fun a => x = .ok a) (fun _ ha => ha) hf

theorem stop {R : β → Prop} (e : ε) (f : α → Except ε β) :
    Yields ((throw e : Except ε α) >>= f) R := error e

theorem ite {c : Prop} [Decidable c] {x y : Except ε α} (hx : c → Yields x P)
    (hy : ¬c → Yields y P) : Yields (if c then x else y) P := by
  by_cases h : c
  · rw [if_pos h]
    exact hx h
  · rw [if_neg h]
    exact hy h

theorem mapM {f : β → Except ε α} {xs : List β} (h : ∀ x ∈ xs, Yields (f x) P) :
    Yields (xs.mapM f) fun ys => ∀ y ∈ ys, P y := by
  induction xs with
  | nil => exact ok (by simp)
  | cons x xs ih =>
    rw [List.mapM_cons]
    refine bind (h x List.mem_cons_self) (fun y hy => ?_)
    refine bind (ih fun z hz => h z (List.mem_cons_of_mem _ hz)) (fun ys hys => ok ?_)
    exact List.forall_mem_cons.mpr ⟨hy, hys⟩

/-- What every step of a fold keeps holds at its end. -/
theorem foldlM {f : α → β → Except ε α} {xs : List β}
    (step : ∀ a, P a → ∀ x ∈ xs, Yields (f a x) P) : ∀ {a : α}, P a → Yields (xs.foldlM f a) P := by
  induction xs with
  | nil => exact fun ha => ok ha
  | cons x xs ih =>
    intro a ha
    rw [List.foldlM_cons]
    exact bind (step a ha x List.mem_cons_self) fun b hb =>
      ih (fun c hc y hy => step c hc y (List.mem_cons_of_mem _ hy)) hb

end Yields

end FramePlan
