import FramePlan.Proofs.Eval.Soundness
import FramePlan.Proofs.Sql.Counting
import FramePlan.Sql.Parser.Statement

/-!
# Counts in plans

The events of a plan account for its table, by the recursion of the plan and of the plans that its joins and
concatenations hold. So counts can leave their range in two places alone: in a sum or a product of two
columns of counts, and in the sum of a column of counts.
-/
namespace FramePlan

open Series

namespace Eval

variable {t : Table}

/-! ## Expressions -/

theorem accounted_eval [Sql.Reader] (e : Expr) : Accounted e.eval e.trace := by
  induction e with
  | column name =>
    intro t ht
    exact .leaf ht (fitting_eval (.column name) t ht.wellFormed) (ht.counted.column name)
  | literal v =>
    intro t ht
    exact .leaf ht (fitting_eval (.literal v) t ht.wellFormed) (.ok (counted_literal v))
  | unary op e ih =>
    intro t ht
    refine .node ht (fitting_eval (.unary op e) t ht.wellFormed) ((ih t ht).mono fun h => ?_)
    exact h.bind fun s hs => counted_unary op hs.counted
  | binary op l r ihl ihr =>
    intro t ht
    refine .node ht (fitting_eval (.binary op l r) t ht.wellFormed) ?_
    exact .seq (ihl t ht) fun hl => .seq (ihr t ht) fun hr => .combination hl hr
  | cast e target ih =>
    intro t ht
    refine .node ht (fitting_eval (.cast e target) t ht.wellFormed) ((ih t ht).mono fun h => ?_)
    exact h.bind fun s _ => .ok (counted_cast s target)
  | str op e ih =>
    intro t ht
    refine .node ht (fitting_eval (.str op e) t ht.wellFormed) ((ih t ht).mono fun h => ?_)
    exact h.bind fun s hs => counted_string op hs.short
  | agg op e ih =>
    intro t ht
    refine .node ht (fitting_eval (.agg op e) t ht.wellFormed) ?_
    exact .seq (ih t ht) fun h => .reduction h
  | offset func e ih =>
    intro t ht
    refine .node ht (fitting_eval (.offset func e) t ht.wellFormed) ((ih t ht).mono fun h => ?_)
    exact h.bind fun s hs => counted_shifted func hs.counted
  | window e spec ih =>
    intro t ht
    exact .node ht (fitting_eval (.window e spec) t ht.wellFormed) (accounts_onWindow ih ht spec)
  | aliased e name ih =>
    intro t ht
    refine .node ht (fitting_eval (.aliased e name) t ht.wellFormed) ((ih t ht).mono fun h => ?_)
    exact h.bind fun s hs => .ok hs.counted
  | raw text =>
    intro t ht
    refine .node ht (fitting_eval (.raw text) t ht.wellFormed) ?_
    exact (Sql.accounted_evalFragment text t ht).mono fun h => h.mono fun _ hs => hs.counted

theorem accounted_selector [Sql.Reader] (x : Selector) : Accounted x.eval x.trace := by
  cases x with
  | name column => exact accounted_eval (.column column)
  | expr e => exact accounted_eval e
  | raw text => exact Sql.accounted_evalFragment text

/-! ## Operations -/

theorem accounts_items [Sql.Reader] (ht : t.Sound) (items : List Selector) :
    Accounts (traceAll items t) (Yields (items.mapM (·.eval t)) fun series => ∀ s ∈ series, s.Sound) :=
  (Accounts.each fun x _ => accounted_selector x t ht).mono Yields.mapM

theorem accounts_groupBy [Sql.Reader] (ht : t.Sound) (keys aggs : List Selector) :
    Accounts (traceGroupBy t keys aggs) (Yields (groupBy t keys aggs) Table.Counted) := by
  refine .seq (Accounts.each fun k _ => accounted_selector k t ht) fun hkeys => ?_
  refine .after (x := groupKeys t keys) fun series hseries => ?_
  refine (Accounts.each fun a _ => accounts_onGroups (accounted_selector a) ht _).mono fun haggs => ?_
  refine counting.groupTable ?_ fun item hm => ?_
  · refine Yields.mapM (fun k hk => ?_) series hseries
    exact (hkeys k hk).bind fun s hs => hs.counted.broadcast _
  · obtain ⟨a, ha, rfl⟩ := List.mem_map.mp hm
    exact haggs a ha

theorem counted_countTable (h : t.height ≤ maxCount) : Yields (countTable t) Table.Counted := by
  refine Table.counted_ofColumns fun c hc => ?_
  rw [List.mem_singleton.mp hc]
  exact counted_scalar (Cell.isCount_ofCount h)

theorem accounts_source [Sql.Reader] (files : Files) (op : Operation) :
    Accounts (traceSource op) (Yields (source files op) Table.Counted) := by
  cases op with
  | readCsv path options => exact .nil (counting.read counted_columnOf files path options)
  | fromMemory columns =>
    refine .nil (Yields.bind (Yields.mapM fun c _ => counted_ofValues c.name c.values) ?_)
    exact fun _ => Table.counted_ofColumns
  | query sql =>
    exact Sql.accounts_query (fun t h => absurd h (Option.not_mem_none t))
      (fun t h => absurd h (Option.not_mem_none t)) sql
  | _ => exact .nil (.error _)

/-! ## Plans -/

mutual

theorem accounts_apply [Sql.Reader] (files : Files) {t : Table} (ht : t.Sound) : ∀ op : Operation,
    Accounts (traceApply files t op) (Yields (apply files t op) Table.Counted)
  | .query sql =>
    Sql.accounts_query (fun u hu => by cases hu; exact ht.wellFormed)
      (fun u hu => by cases hu; exact ht.counted) sql
  | .select items => (accounts_items ht items).mono fun h => h.bind fun series hs =>
    counting.project fun s hm => (hs s hm).counted
  | .filter predicate => (accounted_selector predicate t ht).mono fun _ => Yields.after fun s _ =>
    counting.mask ht.counted s
  | .withColumns items => (accounts_items ht items).mono fun h => h.bind fun series hs =>
    Yields.foldlM (fun u hu s hm => hu.upsert (hs s hm).counted) ht.counted
  | .groupBy keys aggs => accounts_groupBy ht keys aggs
  | .sort fields => .nil (counting.sort ht.counted _)
  | .limit n => .nil (.ok (ht.counted.take _))
  | .join other spec => (accounts_run files other).mono fun h => h.bind fun u hu =>
    counting.join ht.counted hu spec
  | .concat other => (accounts_run files other).mono fun h => h.bind fun u hu =>
    counting.concat ht.counted hu
  | .count => .nil (counted_countTable ht.height)
  | .readCsv _ _ => .nil (.error _)
  | .fromMemory _ => .nil (.error _)

theorem accounts_run [Sql.Reader] (files : Files) : ∀ ops : Plan,
    Accounts (trace files ops) (Yields (run files ops) Table.Counted)
  | [] => .nil (.error _)
  | op :: rest => by
    refine .seq (accounts_source files op) fun hsource => .after fun t ht => ?_
    have hwf : t.WellFormed := wellFormed_source files op t ht
    have hc : t.Counted := hsource t ht
    exact .table hc fun hheight => accounts_applyAll files ⟨hwf, hc, hheight⟩ rest

theorem accounts_applyAll [Sql.Reader] (files : Files) {t : Table} (ht : t.Sound) : ∀ ops : Plan,
    Accounts (traceRest files t ops) (Yields (applyAll files t ops) Table.Counted)
  | [] => .nil (.ok ht.counted)
  | op :: rest => by
    refine .seq (accounts_apply files ht op) fun happly => .after fun u hu => ?_
    have hwf : u.WellFormed := wellFormed_apply files ht.wellFormed op u hu
    have hc : u.Counted := happly u hu
    exact .table hc fun hheight => accounts_applyAll files ⟨hwf, hc, hheight⟩ rest

end

theorem mem_trace_of_applyAll [Sql.Reader] {files : Files} : ∀ {ops : Plan} {t u : Table},
    applyAll files t ops = .ok u → .table u ∈ .table t :: traceRest files t ops
  | [], _, _, h => by
    cases h
    exact List.mem_cons_self
  | op :: rest, t, u, h => by
    obtain ⟨v, hv, h⟩ := bind_eq_ok.mp h
    refine List.mem_cons_of_mem _ (List.mem_append_right _ ?_)
    rw [hv]
    exact mem_trace_of_applyAll h

/-- The table of a plan is one of those that its run comes by. -/
theorem mem_trace_of_run [Sql.Reader] {files : Files} {ops : Plan} {t : Table} (h : run files ops = .ok t) :
    .table t ∈ trace files ops := by
  cases ops with
  | nil => cases h
  | cons op rest =>
    obtain ⟨u, hu, h⟩ := bind_eq_ok.mp h
    refine List.mem_append_right _ ?_
    rw [hu]
    exact mem_trace_of_applyAll h

theorem mem_traceRest_of_applyAll [Sql.Reader] {files : Files} {op : Operation} {rest : Plan} {event : Event} :
    ∀ {done : Plan} {t u : Table}, applyAll files t done = .ok u → event ∈ traceApply files u op →
      event ∈ traceRest files t (done ++ op :: rest)
  | [], _, _, h, he => by
    cases h
    exact List.mem_append_left _ he
  | first :: done, t, u, h, he => by
    obtain ⟨v, hv, h⟩ := bind_eq_ok.mp h
    refine List.mem_append_right _ ?_
    rw [hv]
    exact List.mem_cons_of_mem _ (mem_traceRest_of_applyAll h he)

/-- A run lists what an operation in it comes by, on the table that the operations before it give. -/
theorem traceApply_subset_trace [Sql.Reader] {files : Files} {done rest : Plan} {op : Operation} {t : Table}
    (h : run files done = .ok t) : traceApply files t op ⊆ trace files (done ++ op :: rest) := by
  intro event he
  cases done with
  | nil => cases h
  | cons first done =>
    obtain ⟨u, hu, h⟩ := bind_eq_ok.mp h
    refine List.mem_append_right _ ?_
    rw [hu]
    exact List.mem_cons_of_mem _ (mem_traceRest_of_applyAll h he)

/-- **Columns of counts hold counts, unless a sum or a product leaves the range.** In a run where no table
has more than 4294967295 rows and no text has more bytes than that, and where a sum and a product of two
columns of counts and the sum of a column of counts are counts, every cell of a column or a series of type
`u32` that is not null is an integer between 0 and 4294967295.

This goes for all that the run lists, and the list leaves nothing out: it has the table of the plan, and
what each operation comes by on the table before it, where an expression, of a plan or of a query, and an
item of a query list the series that they evaluate to behind those of the expressions inside them. -/
theorem counts_in_range [Sql.Reader] (files : Files) (ops : Plan)
    (hlimits : ∀ event ∈ trace files ops, event.Within)
    (hcounts : ∀ event ∈ trace files ops, event.KeepsCounts) :
    (∀ t, run files ops = .ok t → .table t ∈ trace files ops) ∧
    (∀ done op rest t, ops = done ++ op :: rest → run files done = .ok t →
      traceApply files t op ⊆ trace files ops) ∧
    (∀ (e : FramePlan.Expr) t s, e.eval t = .ok s → .series s ∈ e.trace t) ∧
    (∀ (e : Sql.Expr) t s, e.eval t = .ok s → .series s ∈ e.trace t) ∧
    (∀ (item : Sql.Item) t s, item.eval t = .ok s → .series s ∈ item.trace t) ∧
    ∀ event ∈ trace files ops, ∀ s ∈ event.columns, s.dtype = .u32 → ∀ c ∈ s.cells, c ≠ .null →
      ∃ i : Int64, c = .int i ∧ 0 ≤ i.toInt ∧ i.toInt ≤ 4294967295 := by
  refine ⟨fun t => mem_trace_of_run, ?_, fun _ _ _ => FramePlan.Expr.series_mem_trace,
    fun _ _ _ => Sql.Expr.series_mem_trace, fun _ _ _ => Sql.Item.series_mem_trace,
    fun event he s hs hd c hc hnull => ?_⟩
  · rintro done op rest t rfl h
    exact traceApply_subset_trace h
  obtain ⟨hcounted, -⟩ := accounts_run files ops fun event he => ⟨hlimits event he, hcounts event he⟩
  have hadm : c.IsCount := (hcounted event he s hs c hc).isCount (.inl hd)
  cases c with
  | int i => exact ⟨i, rfl, hadm⟩
  | null => exact absurd rfl hnull
  | _ => cases hadm

/-- The lengths of two words, their squares, and the sum of these. -/
def squaredLengths : Plan :=
  [.fromMemory [⟨"s", [.str "ab", .str "abc"]⟩],
    .withColumns [.expr (.aliased (.str .len (.column "s")) "n")],
    .withColumns [.expr (.aliased (.binary .mul (.column "n") (.column "n")) "m")],
    .select [.expr (.agg .sum (.column "m"))]]

attribute [local instance] Sql.dialect

theorem counts_in_range_squaredLengths :
    (∀ event ∈ trace [] squaredLengths, event.Within) ∧
    (∀ event ∈ trace [] squaredLengths, event.KeepsCounts) ∧
    run [] squaredLengths = .ok ⟨[⟨"m", .u32, [.int 13]⟩], 1⟩ ∧
    ∃ i : Int64, Cell.int 13 = .int i ∧ 0 ≤ i.toInt ∧ i.toInt ≤ 4294967295 := by
  have hlimits : ∀ event ∈ trace [] squaredLengths, event.Within := by decide
  have hcounts : ∀ event ∈ trace [] squaredLengths, event.KeepsCounts := by decide
  have hrun : run [] squaredLengths = .ok ⟨[⟨"m", .u32, [.int 13]⟩], 1⟩ := rfl
  refine ⟨hlimits, hcounts, hrun, ?_⟩
  obtain ⟨htable, -, -, -, -, hrange⟩ := counts_in_range [] squaredLengths hlimits hcounts
  exact hrange _ (htable _ hrun) _ List.mem_cons_self rfl _ List.mem_cons_self (by decide)

/-- The length of a word of two letters, squared five times. -/
def repeatedSquares : Plan :=
  [.fromMemory [⟨"s", [.str "ab"]⟩],
    .withColumns [.expr (.aliased (.str .len (.column "s")) "n")],
    .withColumns [.expr (.binary .mul (.column "n") (.column "n"))],
    .withColumns [.expr (.binary .mul (.column "n") (.column "n"))],
    .withColumns [.expr (.binary .mul (.column "n") (.column "n"))],
    .withColumns [.expr (.binary .mul (.column "n") (.column "n"))],
    .withColumns [.expr (.binary .mul (.column "n") (.column "n"))],
    .select [.name "n"]]

/-- A product of counts that is no count stays in its column of counts. -/
theorem squares_leave_range :
    (∀ event ∈ trace [] repeatedSquares, event.Within) ∧
    run [] repeatedSquares = .ok ⟨[⟨"n", .u32, [.int 4294967296]⟩], 1⟩ :=
  ⟨by decide, rfl⟩

end Eval
end FramePlan
