import FramePlan.Proofs.Eval.CountedTables
import FramePlan.Proofs.Eval.Trace

/-!
# Counts along a run

A run is asked to stay within limits, tables of no more rows and texts of no more bytes than can be counted,
and to make counts where it adds or multiplies counts. Its events then bring columns of counts that hold
counts. `Accounts es x P` says so of the events of one computation and of what it gives, with rules that
follow the shape of the evaluator: an expression after those inside it (`Accounts.seq`, `Accounts.node`), one
for each item of a list (`Accounts.mapM`), and one for each part of a table (`accounts_onParts`).
-/
namespace FramePlan

open Eval

namespace Event

/-- No more rows and no longer texts than can be counted. -/
def Within : Event → Prop
  | .table t => t.height ≤ maxCount
  | .series s => s.Short
  | _ => True

/-- A sum or a product of counts, and the sum of a column of counts, are counts. -/
def KeepsCounts : Event → Prop
  | .combined op l r s => (op = .add ∨ op = .mul) → l.dtype = .u32 → r.dtype = .u32 → s.Counted
  | .reduced op s r => op = .sum → s.dtype = .u32 → r.Counted
  | _ => True

instance : DecidablePred Within := fun event =>
  match event with
  | .table _ => inferInstanceAs (Decidable (_ ≤ _))
  | .series s => inferInstanceAs (Decidable s.Short)
  | .combined _ _ _ _ => isTrue trivial
  | .reduced _ _ _ => isTrue trivial

instance : DecidablePred KeepsCounts := fun event =>
  match event with
  | .table _ => isTrue trivial
  | .series _ => isTrue trivial
  | .combined _ _ _ _ => inferInstanceAs (Decidable (_ → _))
  | .reduced _ _ _ => inferInstanceAs (Decidable (_ → _))

def columns : Event → List Series
  | .table t => t.columns
  | .series s => [s]
  | _ => []

/-- The columns of counts hold counts. -/
def Counted (event : Event) : Prop := ∀ s ∈ event.columns, s.Counted

end Event

/-- Counts, and not too many rows or bytes. -/
structure Series.Sound (s : Series) : Prop where
  counted : s.Counted
  short : s.Short
  length : s.length ≤ maxCount

theorem Series.Sound.broadcast {s : Series} (h : s.Sound) {n : Nat} (hn : n ≤ maxCount) :
    Yields (s.broadcast n) Series.Sound := by
  intro full hf
  obtain ⟨-, -, hlen, hcells⟩ := Series.broadcast_spec hf
  exact ⟨h.counted.broadcast n full hf, fun c hc => h.short c (hcells c hc), hlen ▸ hn⟩

structure Table.Sound (t : Table) : Prop where
  wellFormed : t.WellFormed
  counted : t.Counted
  height : t.height ≤ maxCount

theorem columns_combination (op : BinaryOp) (x y : Outcome Series) :
    ∀ event ∈ combination op x y, event.columns = [] := by
  cases x with
  | error e => exact fun _ he => absurd he List.not_mem_nil
  | ok l =>
    cases y with
    | error e => exact fun _ he => absurd he List.not_mem_nil
    | ok r =>
      simp only [combination, onSuccess]
      split
      · simp [Event.columns]
      · exact fun _ he => absurd he List.not_mem_nil

theorem columns_reduction (op : AggOp) (x : Outcome Series) :
    ∀ event ∈ reduction op x, event.columns = [] := by
  cases x with
  | error e => exact fun _ he => absurd he List.not_mem_nil
  | ok s =>
    simp only [reduction, onSuccess]
    split
    · simp [Event.columns]
    · exact fun _ he => absurd he List.not_mem_nil

/-- If the events stay within the limits, and sums and products of counts are counts, then the events bring
    counts and the conclusion holds. -/
def Accounts (es : List Event) (C : Prop) : Prop :=
  (∀ event ∈ es, event.Within ∧ event.KeepsCounts) → (∀ event ∈ es, event.Counted) ∧ C

namespace Accounts

variable {es es' : List Event} {C D : Prop} {t : Table}

theorem nil (h : C) : Accounts [] C := fun _ => ⟨fun _ he => absurd he List.not_mem_nil, h⟩

theorem mono (h : Accounts es C) (hC : C → D) : Accounts es D := fun hes => (h hes).imp id hC

/-- One list of events before another, which builds on what the first accounts for. -/
theorem seq (h : Accounts es C) (h' : C → Accounts es' D) : Accounts (es ++ es') D := by
  intro hes
  obtain ⟨hes₁, hes₂⟩ := List.forall_mem_append.mp hes
  obtain ⟨hc, hC⟩ := h hes₁
  obtain ⟨hc', hD⟩ := h' hC hes₂
  exact ⟨List.forall_mem_append.mpr ⟨hc, hc'⟩, hD⟩

/-- A table before what is made of it, which may rely on its height. -/
theorem table (ht : t.Counted) (h : t.height ≤ maxCount → Accounts es C) :
    Accounts (.table t :: es) C := by
  intro hes
  obtain ⟨htable, hes⟩ := List.forall_mem_cons.mp hes
  obtain ⟨hc, hC⟩ := h htable.1 hes
  exact ⟨List.forall_mem_cons.mpr ⟨ht, hc⟩, hC⟩

theorem each {α : Type} {tr : α → List Event} {C : α → Prop} {xs : List α}
    (h : ∀ a ∈ xs, Accounts (tr a) (C a)) : Accounts (xs.flatMap tr) (∀ a ∈ xs, C a) := by
  intro hes
  rw [List.forall_mem_flatMap] at hes ⊢
  exact ⟨fun a ha => (h a ha (hes a ha)).1, fun a ha => (h a ha (hes a ha)).2⟩

theorem after {α β : Type} {x : Outcome α} {f : α → List Event} {g : α → Outcome β} {R : β → Prop}
    (h : ∀ a, x = .ok a → Accounts (f a) (Yields (g a) R)) :
    Accounts (onSuccess x f) (Yields (x >>= g) R) := by
  cases x with
  | error e => exact nil (.error e)
  | ok a => exact h a rfl

theorem of_empty (hes : ∀ event ∈ es, event.columns = [])
    (h : (∀ event ∈ es, event.KeepsCounts) → C) : Accounts es C := by
  intro hfine
  refine ⟨fun event he s hs => ?_, h fun event he => (hfine event he).2⟩
  rw [hes event he] at hs
  exact absurd hs List.not_mem_nil

/-- A counted series is noted, so it is short as well. -/
theorem noted {x : Outcome Series} (h : Accounts es (Yields x Series.Counted)) :
    Accounts (es ++ noted x) (Yields x fun s => s.Counted ∧ s.Short) := by
  refine h.seq fun hx hnote => ?_
  cases x with
  | error e => exact ⟨fun _ he => absurd he List.not_mem_nil, .error e⟩
  | ok s =>
    have hs := hx s rfl
    refine ⟨fun event he => ?_, .ok ⟨hs, (hnote _ List.mem_cons_self).1⟩⟩
    rw [List.mem_singleton.mp he]
    exact fun r hr => List.mem_singleton.mp hr ▸ hs

theorem node {x : Outcome Series} (ht : t.Sound) (hfit : Yields x (Series.Fits t.height))
    (h : Accounts es (Yields x Series.Counted)) :
    Accounts (es ++ Eval.noted x) (Yields x Series.Sound) := by
  refine h.noted.mono fun hx s hs => ?_
  obtain ⟨hcounted, hshort⟩ := hx s hs
  refine ⟨hcounted, hshort, ?_⟩
  have hone : 1 ≤ maxCount := by decide
  have hheight := ht.height
  obtain hl | hl := (hfit s hs).spread <;> omega

theorem leaf {x : Outcome Series} (ht : t.Sound) (hfit : Yields x (Series.Fits t.height))
    (h : Yields x Series.Counted) : Accounts (Eval.noted x) (Yields x Series.Sound) := by
  show Accounts ([] ++ Eval.noted x) _
  exact node ht hfit (nil h)

theorem combination {op : BinaryOp} {x y : Outcome Series} (hx : Yields x Series.Sound)
    (hy : Yields y Series.Sound) : Accounts (combination op x y)
      (Yields (x >>= fun l => y >>= fun r => binary op l r) Series.Counted) := by
  refine of_empty (columns_combination op x y) fun hkeeps => ?_
  refine Yields.after fun l hl => Yields.after fun r hr s hs => ?_
  refine counted_binary (hx l hl).counted (hy r hr).counted hs (hkeeps (.combined op l r s) ?_)
  simp [Eval.combination, onSuccess, hl, hr, hs]

theorem reduction {op : AggOp} {x : Outcome Series} (hx : Yields x Series.Sound) :
    Accounts (reduction op x) (Yields (x >>= aggregate op) Series.Counted) := by
  refine of_empty (columns_reduction op x) fun hkeeps => ?_
  refine Yields.after fun s hs r hr => ?_
  refine counted_aggregate (hx s hs).counted (hx s hs).length hr (hkeeps (.reduced op s r) ?_)
  simp [Eval.reduction, onSuccess, hs, hr]

end Accounts

/-! ## Parts of tables -/

/-- On a sound table the events account for a sound series. -/
def Accounted (f : Table → Outcome Series) (tr : Table → List Event) : Prop :=
  ∀ t, t.Sound → Accounts (tr t) (Yields (f t) Series.Sound)

section

variable {t : Table} {f : Table → Outcome Series} {tr : Table → List Event} {parts : List Table}

/-- Each part is a table at hand, so it is not too high. -/
theorem accounts_onParts (hf : Accounted f tr) (hparts : ∀ p ∈ parts, p.WellFormed ∧ p.Counted) :
    Accounts (onParts parts tr) (∀ p ∈ parts, Yields (f p) Series.Sound) := by
  refine Accounts.each fun p hp => ?_
  obtain ⟨hwf, hc⟩ := hparts p hp
  exact .table hc fun hheight => hf p ⟨hwf, hc, hheight⟩

theorem accounts_groupParts {trial : Table} (hf : Accounted f tr) (ht : t.Sound)
    (htrial : trial.WellFormed ∧ trial.Counted) (groups : List (List Nat)) :
    Accounts (onParts (groupParts t trial groups) tr)
      (∀ rows ∈ groups, Yields (f (t.take rows)) Series.Counted) := by
  refine (accounts_onParts hf fun p hp => ?_).mono fun hparts rows hr => ?_
  · unfold groupParts at hp
    split at hp
    · rw [List.mem_singleton.mp hp]
      exact htrial
    · obtain ⟨rows, -, rfl⟩ := List.mem_map.mp hp
      exact ⟨ht.wellFormed.take rows, ht.counted.take rows⟩
  · refine (hparts (t.take rows) ?_).mono fun _ hs => hs.counted
    cases groups with
    | nil => exact absurd hr List.not_mem_nil
    | cons g gs => exact List.mem_map_of_mem hr

theorem accounts_onGroups (hf : Accounted f tr) (ht : t.Sound) (groups : List (List Nat)) :
    Accounts (onGroups t groups tr) (Yields (aggregateGroups t groups f) Series.Counted) := by
  have hnone : (t.take []).WellFormed ∧ (t.take []).Counted :=
    ⟨ht.wellFormed.take [], ht.counted.take []⟩
  exact (accounts_groupParts hf ht hnone groups).mono counting.aggregateGroups

theorem accounts_onWindow (hf : Accounted f tr) (ht : t.Sound) (spec : WindowSpec) :
    Accounts (onWindow t spec tr) (Yields (window t spec f) Series.Counted) := by
  unfold onWindow
  cases hw : windowGroups t spec with
  | error e =>
    unfold window
    rw [hw]
    exact .nil (.error e)
  | ok groups =>
    refine (accounts_groupParts hf ht ⟨ht.wellFormed, ht.counted⟩ groups).mono fun h => ?_
    refine counting.window fun gs hgs => ?_
    cases hw.symm.trans hgs
    exact h

end

end FramePlan
