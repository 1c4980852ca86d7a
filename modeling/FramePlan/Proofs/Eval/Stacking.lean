import FramePlan.Proofs.Eval.Soundness

/-!
# Tables put under each other

A concatenation puts the columns of one table under those of another, each in the type that both have in
common. Where three tables are put together it does not matter which two of them go first, and this holds
level by level:

1. Types: the common type of three types is there or is not, and is the same, whichever two are unified
   first (`Dtype.unify?_assoc`).
2. Columns: integers that were widened for one column are widened for all three, so the cells of both
   sides are the cells of the three columns, coerced once (`stack_upper_eq_ok`, `stack_lower_eq_ok`).
3. Tables: the names and lengths of well-formed tables let nothing but a clash of types or names fail
   (`concat_eq_ok`), so the columns decide (`concat_concat`).

`concat_assoc` says it of plans, where the second table comes of a plan that puts the third under it.
-/
namespace FramePlan

open Table

/-! ## Types -/

/-- Unifying three types comes to the same from either end, and fails from both or from none. -/
theorem Dtype.unify?_assoc (a b c : Dtype) :
    (a.unify? b).bind (·.unify? c) = (b.unify? c).bind (a.unify? ·) := by
  cases a <;> cases b <;> cases c <;> rfl

/-- A cell that was coerced to a type may be coerced again to a wider one. -/
theorem coerceCell_coerceCell {a b d : Dtype} (h : a.unify? b = some d) (c : Cell) :
    coerceCell d (coerceCell a c) = coerceCell d c := by
  by_cases ha : a = .f64
  · -- Numbers are as wide as it gets, so both coercions are the same one.
    subst ha
    obtain rfl : d = .f64 := Dtype.unify?_eq_left h rfl (by decide)
    cases c <;> rfl
  · have hsame : coerceCell a c = c := by
      cases a <;> first | rfl | exact absurd rfl ha
    rw [hsame]

theorem coerce_coerce {a b d : Dtype} (h : a.unify? b = some d) (cells : List Cell) :
    coerce d (coerce a cells) = coerce d cells := by
  rw [coerce, coerce, coerce, List.map_map]
  apply List.map_congr_left
  intro c _
  exact coerceCell_coerceCell h c

theorem coerce_append (d : Dtype) (xs ys : List Cell) :
    coerce d (xs ++ ys) = coerce d xs ++ coerce d ys := List.map_append

namespace Eval

/-! ## Columns -/

section Columns

variable {a b c d : Series}

theorem stack_eq_ok : stack a b = .ok c ↔
    c.name = a.name ∧ a.dtype.unify? b.dtype = some c.dtype ∧
      c.cells = coerce c.dtype (a.cells ++ b.cells) := by
  rw [stack, bind_eq_ok]
  constructor
  · rintro ⟨e, he, hc⟩
    cases hc
    exact ⟨rfl, unify_eq_ok.mp he, rfl⟩
  · rintro ⟨hn, hd, hc⟩
    refine ⟨c.dtype, unify_eq_ok.mpr hd, ?_⟩
    rw [← hn, ← hc]
    rfl

theorem stack_upper_eq_ok : (∃ ab, stack a b = .ok ab ∧ stack ab c = .ok d) ↔
    d.name = a.name ∧ (a.dtype.unify? b.dtype).bind (·.unify? c.dtype) = some d.dtype ∧
      d.cells = coerce d.dtype (a.cells ++ b.cells ++ c.cells) := by
  simp only [stack_eq_ok, Option.bind_eq_some_iff]
  constructor
  · rintro ⟨ab, ⟨hn, hd, hc⟩, hn', hd', hc'⟩
    refine ⟨hn'.trans hn, ⟨ab.dtype, hd, hd'⟩, ?_⟩
    rw [hc', hc, coerce_append, coerce_coerce hd', ← coerce_append]
  · rintro ⟨hn, ⟨e, he, hd⟩, hc⟩
    refine ⟨⟨a.name, e, coerce e (a.cells ++ b.cells)⟩, ⟨rfl, he, rfl⟩, hn, hd, ?_⟩
    rw [hc, coerce_append, coerce_append d.dtype _ c.cells, coerce_coerce hd]

theorem stack_lower_eq_ok : (∃ bc, stack b c = .ok bc ∧ stack a bc = .ok d) ↔
    d.name = a.name ∧ (b.dtype.unify? c.dtype).bind (a.dtype.unify? ·) = some d.dtype ∧
      d.cells = coerce d.dtype (a.cells ++ (b.cells ++ c.cells)) := by
  simp only [stack_eq_ok, Option.bind_eq_some_iff]
  constructor
  · rintro ⟨bc, ⟨-, hd, hc⟩, hn, hd', hc'⟩
    refine ⟨hn, ⟨bc.dtype, hd, hd'⟩, ?_⟩
    rw [hc', hc, coerce_append, coerce_coerce ((Dtype.unify?_comm _ _).trans hd'), ← coerce_append]
  · rintro ⟨hn, ⟨e, he, hd⟩, hc⟩
    refine ⟨⟨b.name, e, coerce e (b.cells ++ c.cells)⟩, ⟨rfl, he, rfl⟩, hn, hd, ?_⟩
    rw [hc, coerce_append, coerce_append d.dtype a.cells,
      coerce_coerce ((Dtype.unify?_comm _ _).trans hd)]

theorem stack_assoc : (∃ ab, stack a b = .ok ab ∧ stack ab c = .ok d) ↔
    ∃ bc, stack b c = .ok bc ∧ stack a bc = .ok d := by
  rw [stack_upper_eq_ok, stack_lower_eq_ok, Dtype.unify?_assoc, List.append_assoc]

end Columns

/-! ## Lists of columns -/

def stackAll (as bs : List Series) : Outcome (List Series) := (as.zip bs).mapM fun p => stack p.1 p.2

section Lists

variable {a b : Series} {as bs cs ds : List Series}

theorem stackAll_cons_eq_ok : stackAll (a :: as) (b :: bs) = .ok cs ↔
    ∃ c rest, stack a b = .ok c ∧ stackAll as bs = .ok rest ∧ cs = c :: rest := by
  simp only [stackAll, List.zip_cons_cons, List.mapM_cons, bind_eq_ok, pure_eq_ok, Except.ok.injEq]
  constructor
  · rintro ⟨c, hc, rest, hrest, rfl⟩
    exact ⟨c, rest, hc, hrest, rfl⟩
  · rintro ⟨c, rest, hc, hrest, rfl⟩
    exact ⟨c, hc, rest, hrest, rfl⟩

theorem stackAll_assoc (hab : as.length = bs.length) (hbc : bs.length = cs.length) :
    (∃ abs, stackAll as bs = .ok abs ∧ stackAll abs cs = .ok ds) ↔
      ∃ bcs, stackAll bs cs = .ok bcs ∧ stackAll as bcs = .ok ds := by
  induction as generalizing bs cs ds with
  | nil =>
    obtain rfl := List.eq_nil_of_length_eq_zero hab.symm
    obtain rfl := List.eq_nil_of_length_eq_zero hbc.symm
    constructor
    · rintro ⟨abs, habs, hds⟩
      cases habs
      exact ⟨[], rfl, hds⟩
    · rintro ⟨bcs, hbcs, hds⟩
      cases hbcs
      exact ⟨[], rfl, hds⟩
  | cons a as ih =>
    obtain ⟨b, bs, rfl⟩ := List.exists_cons_of_length_eq_add_one hab.symm
    obtain ⟨c, cs, rfl⟩ := List.exists_cons_of_length_eq_add_one hbc.symm
    have hab : as.length = bs.length := Nat.succ.inj hab
    have hbc : bs.length = cs.length := Nat.succ.inj hbc
    -- The first columns are put together as columns are, and the others by induction.
    constructor
    · rintro ⟨abs, habs, hds⟩
      obtain ⟨ab, abs, hupper, hrest, rfl⟩ := stackAll_cons_eq_ok.mp habs
      obtain ⟨d, ds, hd, hall, rfl⟩ := stackAll_cons_eq_ok.mp hds
      obtain ⟨bc, hlower, hd⟩ := stack_assoc.mp ⟨ab, hupper, hd⟩
      obtain ⟨bcs, hbcs, hall⟩ := (ih hab hbc).mp ⟨abs, hrest, hall⟩
      exact ⟨bc :: bcs, stackAll_cons_eq_ok.mpr ⟨bc, bcs, hlower, hbcs, rfl⟩,
        stackAll_cons_eq_ok.mpr ⟨d, ds, hd, hall, rfl⟩⟩
    · rintro ⟨bcs, hbcs, hds⟩
      obtain ⟨bc, bcs, hlower, hrest, rfl⟩ := stackAll_cons_eq_ok.mp hbcs
      obtain ⟨d, ds, hd, hall, rfl⟩ := stackAll_cons_eq_ok.mp hds
      obtain ⟨ab, hupper, hd⟩ := stack_assoc.mpr ⟨bc, hlower, hd⟩
      obtain ⟨abs, habs, hall⟩ := (ih hab hbc).mpr ⟨bcs, hrest, hall⟩
      exact ⟨ab :: abs, stackAll_cons_eq_ok.mpr ⟨ab, abs, hupper, habs, rfl⟩,
        stackAll_cons_eq_ok.mpr ⟨d, ds, hd, hall, rfl⟩⟩

theorem stackAll_spec {n m : Nat} (hlen : as.length = bs.length) (has : ∀ s ∈ as, s.length = n)
    (hbs : ∀ s ∈ bs, s.length = m) (h : stackAll as bs = .ok cs) :
    cs.map (·.name) = as.map (·.name) ∧ ∀ s ∈ cs, s.length = n + m := by
  induction as generalizing bs cs with
  | nil =>
    obtain rfl := List.eq_nil_of_length_eq_zero hlen.symm
    cases h
    exact ⟨rfl, fun _ hs => absurd hs List.not_mem_nil⟩
  | cons a as ih =>
    obtain ⟨b, bs, rfl⟩ := List.exists_cons_of_length_eq_add_one hlen.symm
    obtain ⟨c, rest, hc, hrest, rfl⟩ := stackAll_cons_eq_ok.mp h
    obtain ⟨ha, has⟩ := List.forall_mem_cons.mp has
    obtain ⟨hb, hbs⟩ := List.forall_mem_cons.mp hbs
    obtain ⟨hnames, hlens⟩ := ih (Nat.succ.inj hlen) has hbs hrest
    obtain ⟨hn, -, hcells⟩ := stack_eq_ok.mp hc
    have hlenc : c.length = n + m := by
      rw [Series.length, hcells, coerce, List.length_map, List.length_append]
      exact congrArg₂ (· + ·) ha hb
    exact ⟨by rw [List.map_cons, List.map_cons, hn, hnames], List.forall_mem_cons.mpr ⟨hlenc, hlens⟩⟩

end Lists

/-! ## Tables -/

section Tables

variable {a b c t : Table}

/-- A concatenation of well-formed tables fails only for its names and its types. -/
theorem concat_eq_ok (ha : a.WellFormed) (hb : b.WellFormed) : concat a b = .ok t ↔
    a.names = b.names ∧ stackAll a.columns b.columns = .ok t.columns ∧
      t.height = heightOf t.columns := by
  unfold concat
  by_cases hn : a.names = b.names
  · have hlen : a.columns.length = b.columns.length := by
      simpa [names] using congrArg List.length hn
    have built (cs : List Series) (hcs : stackAll a.columns b.columns = .ok cs) :
        ofColumns cs = .ok ⟨cs, heightOf cs⟩ := by
      obtain ⟨hnames, hlens⟩ :=
        stackAll_spec hlen (fun s hs => (ha.1 s hs).1) (fun s hs => (hb.1 s hs).1) hcs
      exact ofColumns_of_level hlens (hnames ▸ ha.2)
    rw [if_neg (not_not.mpr hn), bind_eq_ok]
    constructor
    · rintro ⟨cs, hcs, ht⟩
      rw [built cs hcs] at ht
      cases ht
      exact ⟨hn, hcs, rfl⟩
    · rintro ⟨-, hcs, hheight⟩
      refine ⟨t.columns, hcs, ?_⟩
      rw [built t.columns hcs, ← hheight]
  · rw [if_pos hn]
    exact iff_of_false (fun h => by cases h) fun h => hn h.1

theorem names_of_concat (ha : a.WellFormed) (hb : b.WellFormed) (h : concat a b = .ok t) :
    t.names = a.names := by
  obtain ⟨hn, hcs, -⟩ := (concat_eq_ok ha hb).mp h
  have hlen : a.columns.length = b.columns.length := by
    simpa [names] using congrArg List.length hn
  exact (stackAll_spec hlen (fun s hs => (ha.1 s hs).1) (fun s hs => (hb.1 s hs).1) hcs).1

/-- Three tables under each other, whichever two go first. -/
theorem concat_concat (ha : a.WellFormed) (hb : b.WellFormed) (hc : c.WellFormed) :
    (∃ ab, concat a b = .ok ab ∧ concat ab c = .ok t) ↔
      ∃ bc, concat b c = .ok bc ∧ concat a bc = .ok t := by
  have lengths {u v : Table} (hn : u.names = v.names) : u.columns.length = v.columns.length := by
    simpa [names] using congrArg List.length hn
  constructor
  · rintro ⟨ab, hab, ht⟩
    have hwf : ab.WellFormed := typing.concat ha hb ab hab
    have hkeeps : ab.names = a.names := names_of_concat ha hb hab
    obtain ⟨hnab, hcols, -⟩ := (concat_eq_ok ha hb).mp hab
    obtain ⟨hnc, hall, hheight⟩ := (concat_eq_ok hwf hc).mp ht
    have hnbc : b.names = c.names := (hnab.symm.trans hkeeps.symm).trans hnc
    obtain ⟨bcs, hbcs, hall⟩ := (stackAll_assoc (lengths hnab) (lengths hnbc)).mp ⟨_, hcols, hall⟩
    have hbc : concat b c = .ok ⟨bcs, heightOf bcs⟩ := (concat_eq_ok hb hc).mpr ⟨hnbc, hbcs, rfl⟩
    refine ⟨_, hbc, ?_⟩
    rw [concat_eq_ok ha (typing.concat hb hc _ hbc), names_of_concat hb hc hbc]
    exact ⟨hnab, hall, hheight⟩
  · rintro ⟨bc, hbc, ht⟩
    have hwf : bc.WellFormed := typing.concat hb hc bc hbc
    have hkeeps : bc.names = b.names := names_of_concat hb hc hbc
    obtain ⟨hnbc, hcols, -⟩ := (concat_eq_ok hb hc).mp hbc
    obtain ⟨hna, hall, hheight⟩ := (concat_eq_ok ha hwf).mp ht
    have hnab : a.names = b.names := hna.trans hkeeps
    obtain ⟨abs, habs, hall⟩ := (stackAll_assoc (lengths hnab) (lengths hnbc)).mpr ⟨_, hcols, hall⟩
    have hab : concat a b = .ok ⟨abs, heightOf abs⟩ := (concat_eq_ok ha hb).mpr ⟨hnab, habs, rfl⟩
    refine ⟨_, hab, ?_⟩
    rw [concat_eq_ok (typing.concat ha hb _ hab) hc, names_of_concat ha hb hab]
    exact ⟨hnab.trans hnbc, hall, hheight⟩

end Tables

/-! ## Plans -/

section Plans

variable {files : Files} {a b c ops more : Plan} {t : Table}

theorem applyAll_nil [Sql.Reader] {u : Table} : applyAll files u [] = .ok t ↔ u = t := by
  rw [applyAll, Except.ok.injEq]

theorem applyAll_append [Sql.Reader] (files : Files) (t : Table) (ops more : Plan) :
    applyAll files t (ops ++ more) = applyAll files t ops >>= fun u => applyAll files u more := by
  induction ops generalizing t with
  | nil => rfl
  | cons op rest ih =>
    rw [List.cons_append, applyAll, applyAll]
    cases apply files t op with
    | error fault => rfl
    | ok u => exact ih u

theorem run_append [Sql.Reader] (hne : ops ≠ []) :
    run files (ops ++ more) = run files ops >>= fun t => applyAll files t more := by
  obtain ⟨op, rest, rfl⟩ := List.exists_cons_of_ne_nil hne
  rw [List.cons_append, run, run]
  cases source files op with
  | error fault => rfl
  | ok t => exact applyAll_append files t rest more

theorem applyAll_concat_eq_ok [Sql.Reader] {u : Table} : applyAll files u (.concat b :: more) = .ok t ↔
    ∃ v, run files b = .ok v ∧ ∃ w, concat u v = .ok w ∧ applyAll files w more = .ok t := by
  simp only [applyAll, apply, bind_eq_ok]
  constructor
  · rintro ⟨w, ⟨v, hv, hw⟩, ht⟩
    exact ⟨v, hv, w, hw, ht⟩
  · rintro ⟨v, hv, w, hw, ht⟩
    exact ⟨w, ⟨v, hv, hw⟩, ht⟩

theorem run_concat_concat [Sql.Reader] (ha : a ≠ []) : run files (a ++ [.concat b, .concat c]) = .ok t ↔
    ∃ u v w, run files a = .ok u ∧ run files b = .ok v ∧ run files c = .ok w ∧
      ∃ uv, concat u v = .ok uv ∧ concat uv w = .ok t := by
  rw [run_append ha]
  simp only [bind_eq_ok, applyAll_concat_eq_ok, applyAll_nil, exists_eq_right]
  constructor
  · rintro ⟨u, hu, v, hv, uv, huv, w, hw, ht⟩
    exact ⟨u, v, w, hu, hv, hw, uv, huv, ht⟩
  · rintro ⟨u, v, w, hu, hv, hw, uv, huv, ht⟩
    exact ⟨u, hu, v, hv, uv, huv, w, hw, ht⟩

theorem run_concat_nested [Sql.Reader] (ha : a ≠ []) (hb : b ≠ []) :
    run files (a ++ [.concat (b ++ [.concat c])]) = .ok t ↔
      ∃ u v w, run files a = .ok u ∧ run files b = .ok v ∧ run files c = .ok w ∧
        ∃ vw, concat v w = .ok vw ∧ concat u vw = .ok t := by
  rw [run_append ha]
  simp only [run_append hb, bind_eq_ok, applyAll_concat_eq_ok, applyAll_nil, exists_eq_right]
  constructor
  · rintro ⟨u, hu, vw, ⟨v, hv, w, hw, hvw⟩, ht⟩
    exact ⟨u, v, w, hu, hv, hw, vw, hvw, ht⟩
  · rintro ⟨u, v, w, hu, hv, hw, vw, hvw, ht⟩
    exact ⟨u, hu, vw, ⟨v, hv, w, hw, hvw⟩, ht⟩

end Plans

/-- **Concatenation is associative.** A plan that puts the tables of two further plans under its own, one
after the other, makes a table exactly if the plan does that puts them there at once, the second one
under the first; and it is the same table. -/
theorem concat_assoc [Sql.Reader] (files : Files) (a b c : Plan) (t : Table) :
    run files (a ++ [.concat b, .concat c]) = .ok t ↔
      run files (a ++ [.concat (b ++ [.concat c])]) = .ok t := by
  by_cases ha : a = []
  · -- Without a first plan there is nothing to put a table under.
    subst ha
    exact iff_of_false (fun h => by cases h) fun h => by cases h
  by_cases hb : b = []
  · -- Without a second one there is nothing to put there, and nothing for the third to go under.
    subst hb
    rw [run_append ha, run_append ha]
    simp only [bind_eq_ok, applyAll_concat_eq_ok, List.nil_append, run]
    simp [source]
  rw [run_concat_concat ha, run_concat_nested ha hb]
  have regroup {u v w : Table} (hu : run files a = .ok u) (hv : run files b = .ok v)
      (hw : run files c = .ok w) :=
    concat_concat (t := t) (wellFormed_run files a u hu) (wellFormed_run files b v hv)
      (wellFormed_run files c w hw)
  constructor
  · rintro ⟨u, v, w, hu, hv, hw, hstacked⟩
    exact ⟨u, v, w, hu, hv, hw, (regroup hu hv hw).mp hstacked⟩
  · rintro ⟨u, v, w, hu, hv, hw, hstacked⟩
    exact ⟨u, v, w, hu, hv, hw, (regroup hu hv hw).mpr hstacked⟩

/-- An integer, a null and a number, one under the other both ways. -/
example [Sql.Reader] :
    let half : Binary64 := ⟨0x3FE0000000000000⟩
    let stacked : Table := ⟨[⟨"n", .f64, [.float (.ofInt 7), .null, .float half]⟩], 3⟩
    run [] [.fromMemory [⟨"n", [.int 7]⟩], .concat [.fromMemory [⟨"n", [.null]⟩]],
      .concat [.fromMemory [⟨"n", [.float half]⟩]]] = .ok stacked ∧
    run [] [.fromMemory [⟨"n", [.int 7]⟩], .concat [.fromMemory [⟨"n", [.null]⟩],
      .concat [.fromMemory [⟨"n", [.float half]⟩]]]] = .ok stacked :=
  ⟨rfl, rfl⟩

end Eval
end FramePlan
