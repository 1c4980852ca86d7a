import FramePlan.Eval.Expr
import FramePlan.Proofs.Table.Selection
import FramePlan.Sql.Parser.Statement

/-!
# Added and replaced columns

Adding columns to a table first evaluates all items on the table and then puts the series into it, one
after the other, each in the place of the column of its name or behind the others.

`Updates t series u` says what a table `u` has of the table `t` and of the series that were put into it
so far. Putting in one more series keeps this (`Updates.step`), so it holds of all of them
(`Updates.run`), and `withColumns_updates` says it of the items: what an item reads is always the table
before the first change, the last item of a name decides what stands under it, and everything else stays
as and where it is.
-/
namespace FramePlan

namespace Table

variable {columns : List Series} {s c : Series}

/-- A name is kept in its place, and a new one goes behind the others. -/
theorem names_upsertColumn (columns : List Series) (s : Series) :
    (upsertColumn columns s).map (·.name) =
      if s.name ∈ columns.map (·.name) then columns.map (·.name)
      else columns.map (·.name) ++ [s.name] := by
  induction columns with
  | nil => simp [upsertColumn]
  | cons c cs ih =>
    by_cases hc : c.name = s.name
    · simp [upsertColumn, hc]
    · have hc' : s.name ≠ c.name := Ne.symm hc
      simp only [upsertColumn, if_neg hc, List.map_cons, ih, List.mem_cons, hc', false_or]
      split <;> rfl

theorem getElem?_upsertColumn_of_ne {i : Nat} (h : columns[i]? = some c) (hne : c.name ≠ s.name) :
    (upsertColumn columns s)[i]? = some c := by
  induction columns generalizing i with
  | nil => simp at h
  | cons d ds ih =>
    by_cases hd : d.name = s.name
    · -- The column that gives way is not the one at `i`.
      cases i with
      | zero =>
        obtain rfl : d = c := by simpa using h
        exact absurd hd hne
      | succ i => simpa [upsertColumn, hd] using h
    · cases i with
      | zero => simpa [upsertColumn, hd] using h
      | succ i =>
        have h : ds[i]? = some c := by simpa using h
        simpa [upsertColumn, hd] using ih h

theorem mem_upsertColumn_of_ne (h : c ∈ columns) (hne : c.name ≠ s.name) :
    c ∈ upsertColumn columns s := by
  obtain ⟨i, hi⟩ := List.mem_iff_getElem?.mp h
  exact List.mem_iff_getElem?.mpr ⟨i, getElem?_upsertColumn_of_ne hi hne⟩

theorem self_mem_upsertColumn (columns : List Series) (s : Series) : s ∈ upsertColumn columns s := by
  induction columns with
  | nil => simp [upsertColumn]
  | cons c cs ih =>
    rw [upsertColumn]
    split
    · exact List.mem_cons_self
    · exact List.mem_cons_of_mem c ih

end Table

namespace Eval

open Table

/-! ## Names -/

/-- The last of the series that have the name. -/
def lastNamed? (series : List Series) (name : String) : Option Series :=
  (series.filter (·.name == name)).getLast?

/-- The names of the series that are none of the given ones, in the order in which they first appear. -/
def newNames (names : List String) (series : List Series) : List String :=
  ((series.map (·.name)).filter (· ∉ names)).eraseDups

section Names

variable {series : List Series} {s : Series} {names : List String} {name : String}

theorem lastNamed?_snoc_self : lastNamed? (series ++ [s]) s.name = some s := by
  simp [lastNamed?, List.filter_append]

theorem lastNamed?_snoc_of_ne (h : s.name ≠ name) :
    lastNamed? (series ++ [s]) name = lastNamed? series name := by
  simp [lastNamed?, List.filter_append, h]

theorem lastNamed?_eq_some (h : lastNamed? series name = some s) : s ∈ series ∧ s.name = name := by
  have hmem : s ∈ series.filter (·.name == name) := List.mem_of_getLast? h
  simpa using hmem

theorem eraseDups_snoc (xs : List String) (x : String) :
    (xs ++ [x]).eraseDups = if x ∈ xs then xs.eraseDups else xs.eraseDups ++ [x] := by
  rw [List.eraseDups_append]
  by_cases h : x ∈ xs
  · simp [h, List.removeAll]
  · have hsingle : [x].eraseDups = [x] := by simp [List.eraseDups_cons]
    simp [h, List.removeAll, hsingle]

theorem newNames_snoc (names : List String) (series : List Series) (s : Series) :
    newNames names (series ++ [s]) =
      if s.name ∈ names ++ newNames names series then newNames names series
      else newNames names series ++ [s.name] := by
  unfold newNames
  rw [List.map_append, List.filter_append]
  simp only [List.mem_append, List.mem_eraseDups]
  by_cases hold : s.name ∈ names
  · simp [hold]
  · -- A name that is none of the old ones is new, unless a series before has it.
    have hfresh : ([s].map (·.name)).filter (· ∉ names) = [s.name] := by simp [hold]
    rw [hfresh, eraseDups_snoc]
    simp only [hold, false_or]

end Names

/-! ## Tables -/

/-- The table `u` is the table `t` with the series put into it. -/
structure Updates (t : Table) (series : List Series) (u : Table) : Prop where
  height : u.height = t.height
  /-- The columns of `t` keep their places, and the new names stand behind them. -/
  names : u.names = t.names ++ newNames t.names series
  distinct : u.names.Nodup
  /-- A column whose name no series has is the same, in the same place. -/
  kept : ∀ (i : Nat) (c : Series), t.columns[i]? = some c → (∀ s ∈ series, s.name ≠ c.name) →
    u.columns[i]? = some c
  /-- Under the name of a series stands the last one of that name, spread over the rows. -/
  written : ∀ name s, lastNamed? series name = some s →
    ∃ full, s.broadcast t.height = .ok full ∧ u.column name = .ok full

variable {t u w : Table} {series more : List Series} {s : Series}

theorem Updates.start (distinct : t.names.Nodup) : Updates t [] t where
  height := rfl
  names := by simp [newNames]
  distinct := distinct
  kept := fun _ _ h _ => h
  written := fun _ _ h => by cases h

theorem Updates.step (h : Updates t series u) (hs : u.upsert s = .ok w) :
    Updates t (series ++ [s]) w := by
  obtain ⟨full, hfull, hw⟩ := bind_eq_ok.mp hs
  cases hw
  obtain ⟨hname, -, -, -⟩ := Series.broadcast_spec hfull
  have hnames : (upsertColumn u.columns full).map (·.name) =
      t.names ++ newNames t.names (series ++ [s]) := by
    have hold : u.columns.map (·.name) = t.names ++ newNames t.names series := h.names
    rw [names_upsertColumn, hname, hold, newNames_snoc]
    split
    · rfl
    · rw [List.append_assoc]
  have hdistinct : (Table.names ⟨upsertColumn u.columns full, u.height⟩).Nodup :=
    nodup_upsertColumn full h.distinct
  refine ⟨h.height, hnames, hdistinct, ?_, ?_⟩
  · intro i c hc hother
    obtain ⟨hs, hseries⟩ : s.name ≠ c.name ∧ ∀ r ∈ series, r.name ≠ c.name := by
      refine ⟨hother s (by simp), fun r hr => hother r (by simp [hr])⟩
    exact getElem?_upsertColumn_of_ne (h.kept i c hc hseries) (hname ▸ Ne.symm hs)
  · intro name r hr
    by_cases hn : s.name = name
    · subst hn
      rw [lastNamed?_snoc_self] at hr
      cases hr
      refine ⟨full, h.height ▸ hfull, ?_⟩
      rw [← hname]
      exact column_of_distinct hdistinct (self_mem_upsertColumn _ _)
    · rw [lastNamed?_snoc_of_ne hn] at hr
      -- What stands under the other name is still there.
      obtain ⟨before, hbefore, hcol⟩ := h.written name r hr
      obtain ⟨hnamed, -, -, -⟩ := Series.broadcast_spec hbefore
      obtain rfl : before.name = name := hnamed.trans (lastNamed?_eq_some hr).2
      have hmem : before ∈ upsertColumn u.columns full :=
        mem_upsertColumn_of_ne (mem_column before hcol) (hname ▸ Ne.symm hn)
      exact ⟨before, hbefore, column_of_distinct hdistinct hmem⟩

theorem Updates.run (h : Updates t series u) (hw : more.foldlM upsert u = .ok w) :
    Updates t (series ++ more) w := by
  induction more generalizing series u with
  | nil =>
    cases hw
    rw [List.append_nil]
    exact h
  | cons s more ih =>
    rw [List.foldlM_cons] at hw
    obtain ⟨v, hv, hw⟩ := bind_eq_ok.mp hw
    rw [← List.singleton_append, ← List.append_assoc]
    exact ih (h.step hv) hw

/-- **Added columns are evaluated on the table before the first change, and change nothing else.** If
columns are added to a well-formed table, each item has a series on this very table. The height stays;
all columns keep their places, and those whose names no item has are the same; under a name that items
have stands what the last of them has on the table, spread over its rows; new names stand behind the
others in the order in which they first appear; and the names are distinct. -/
theorem withColumns_updates [Sql.Reader] (ht : t.WellFormed) {items : List Selector}
    (h : withColumns t items = .ok u) :
    ∃ series, List.Forall₂ (fun item s => item.eval t = .ok s) items series ∧ Updates t series u := by
  obtain ⟨series, hseries, hu⟩ := bind_eq_ok.mp h
  exact ⟨series, mapM_eq_ok.mp hseries, (Updates.start ht.2).run hu⟩

def lots : Table :=
  ⟨[⟨"lot", .str, [.str "a", .str "b"]⟩, ⟨"n", .i64, [.int 3, .int 5]⟩], 2⟩

/-- The pieces and one more, their total, and twice the pieces, the first and the last under one name. -/
def recounted : List Selector :=
  [.expr (.aliased (.binary .add (.column "n") (.literal (.int 1))) "n"),
    .expr (.aliased (.agg .sum (.column "n")) "total"),
    .expr (.binary .mul (.column "n") (.literal (.int 2)))]

attribute [local instance] Sql.dialect

/-- The total and the double are those of the pieces as they were. -/
theorem withColumns_updates_lots :
    lots.WellFormed ∧
    withColumns lots recounted = .ok ⟨[⟨"lot", .str, [.str "a", .str "b"]⟩,
      ⟨"n", .i64, [.int 6, .int 10]⟩, ⟨"total", .i64, [.int 8, .int 8]⟩], 2⟩ ∧
    ∃ series, List.Forall₂ (fun item s => item.eval lots = .ok s) recounted series ∧
      Updates lots series ⟨[⟨"lot", .str, [.str "a", .str "b"]⟩,
        ⟨"n", .i64, [.int 6, .int 10]⟩, ⟨"total", .i64, [.int 8, .int 8]⟩], 2⟩ := by
  have hlots : lots.WellFormed := by
    simp [WellFormed, lots, SeriesTyped, CellHas, Series.length, Table.names]
  have hrun : withColumns lots recounted = .ok ⟨[⟨"lot", .str, [.str "a", .str "b"]⟩,
      ⟨"n", .i64, [.int 6, .int 10]⟩, ⟨"total", .i64, [.int 8, .int 8]⟩], 2⟩ := rfl
  exact ⟨hlots, hrun, withColumns_updates hlots hrun⟩

end Eval
end FramePlan
