import FramePlan.Eval.Expr
import FramePlan.Proofs.Eval.Operators
import FramePlan.Proofs.Eval.Scattering
import FramePlan.Proofs.Eval.Soundness
import FramePlan.Proofs.Expr.Nodes

/-!
# Heads of series

The head of a series is its name and its type, and the schema of a table is the heads of its columns.
`Expr.head` finds the head of an expression's column, or the fault that it has, from the schema of the
table and from whether the table has any rows; `headIs_eval` says that evaluation gives just that, unless
it is stopped by an overflow. The rows themselves are of no account.

Whether there are rows counts for windows alone. A window finds its head from the partitions that it
evaluates its inner expression on, and they all have the same head (`headIs_fill`). Without rows there are
no partitions. Then the window has the name that its inner expression has on no rows, if it has one, and a
fault of the inner expression is not reported.

Only offsets overflow, and how far they may reach depends on the number of rows (`Expr.isInRange`).
-/
namespace FramePlan

open Table Series

structure Head where
  name : String
  dtype : Dtype
  deriving DecidableEq

def Series.head (s : Series) : Head := ⟨s.name, s.dtype⟩

def Table.schema (t : Table) : List Head := t.columns.map Series.head

/-- The head of the column that a table of the schema has under a name. -/
def findHead (schema : List Head) (name : String) : Outcome Head := findNamed Head.name schema name

/-- The columns of a window are there. A table without rows has no partitions to order. -/
def WindowSpec.check (spec : WindowSpec) (filled : Bool) (schema : List Head) : Outcome Unit := do
  fate (spec.partitionBy.mapM (findHead schema))
  if filled && spec.isOrdered then fate (spec.orderBy.mapM (findHead schema)) else pure ()

/-- The head of a window whose inner expression has the given one. Without rows a window has no type,
    and an inner expression without a head gives it no name. -/
def windowHead (filled : Bool) (inner : Outcome Head) : Outcome Head :=
  if filled then inner else (attempt inner).map fun h => ⟨h.elim "" Head.name, .null⟩

/-- The head of an expression's column over a table of the given schema, with rows or without. -/
def Expr.head (filled : Bool) (schema : List Head) : Expr → Outcome Head
  | .column name => findHead schema name
  | .literal v => .ok (Eval.literal v).head
  | .aliased e name => (e.head filled schema).map fun h => ⟨name, h.dtype⟩
  | .unary op e => do
    let h ← e.head filled schema
    (Eval.unaryType op h.dtype).map (⟨h.name, ·⟩)
  | .binary op l r => do
    let a ← l.head filled schema
    let b ← r.head filled schema
    (Eval.resultType op a.dtype b.dtype).map
      (⟨if a.name = "literal" ∧ b.name ≠ "literal" then b.name else a.name, ·⟩)
  | .cast e target => (e.head filled schema).map fun h => ⟨h.name, Dtype.ofDataType target⟩
  | .str op e => do
    let h ← e.head filled schema
    (Eval.stringType op h.dtype).map (⟨h.name, ·⟩)
  | .agg op e => do
    let h ← e.head filled schema
    (Eval.aggregateType op h.name h.dtype).map (⟨h.name, ·⟩)
  | .offset _ e => e.head filled schema
  | .window e spec => do
    spec.check filled schema
    windowHead filled (e.head filled schema)
  | .raw text => .error (.sql (.expression text))

namespace Eval

variable {t u : Table} {s l r : Series} {n : Nat} {spec : WindowSpec} {rows : List Nat}
  {groups : List (List Nat)} {before : Series} {inner : Table → Outcome Series} {o : Outcome Head}
  {stops : Prop}

/-! ## Columns -/

theorem head_column (t : Table) (name : String) :
    (t.column name).map Series.head = findHead t.schema name := by
  have hname : ∀ s : Series, s.head.name = s.name := fun _ => rfl
  rw [findHead, schema, column_eq, findNamed_map hname]

@[simp] theorem schema_take (t : Table) (rows : List Nat) : (t.take rows).schema = t.schema := by
  simp [schema, Table.take, Series.take, Series.head]

theorem attempt_map {α β : Type} (x : Outcome α) (f : α → β) :
    attempt (x.map f) = (attempt x).map (Option.map f) := by
  cases x with
  | ok a => rfl
  | error fault => cases fault <;> rfl

/-! ## Heads, or overflows -/

/-- The computation gives a series of the head, or the fault, unless an overflow may stop it and does. -/
def HeadIs (stops : Prop) (x : Outcome Series) (o : Outcome Head) : Prop :=
  x.map Series.head = o ∨ stops ∧ x = .error .overflow

namespace HeadIs

variable {x : Outcome Series} {f : Series → Outcome Series} {g : Head → Outcome Head}

theorem bind (hx : HeadIs stops x o) (hf : ∀ s, x = .ok s → HeadIs stops (f s) (g s.head)) :
    HeadIs stops (x >>= f) (o >>= g) := by
  obtain rfl | ⟨hstops, rfl⟩ := hx
  · cases x with
    | error fault => exact .inl rfl
    | ok s => exact hf s rfl
  · exact .inr ⟨hstops, rfl⟩

theorem step (hx : HeadIs stops x o) (hf : ∀ s, x = .ok s → (f s).map Series.head = g s.head) :
    HeadIs stops (x >>= f) (o >>= g) :=
  hx.bind fun s hs => .inl (hf s hs)

theorem afterFate {α : Type} {y : Outcome α} {k : α → Outcome Series}
    (h : ∀ a, y = .ok a → HeadIs stops (k a) o) : HeadIs stops (y >>= k) (fate y >>= fun _ => o) := by
  cases y with
  | error fault => exact .inl rfl
  | ok a => exact h a rfl

theorem of_ok {s : Series} (hx : HeadIs stops x o) (h : x = .ok s) : o = .ok s.head := by
  obtain rfl | ⟨-, hover⟩ := hx
  · rw [h]
    rfl
  · cases h.symm.trans hover

end HeadIs

/-! ## Operators -/

theorem head_unary (op : UnaryOp) (s : Series) :
    (unary op s).map Series.head = (unaryType op s.dtype).map (⟨s.name, ·⟩) := by
  rw [unary_eq]
  cases unaryType op s.dtype <;> rfl

theorem head_aggregate (op : AggOp) (s : Series) :
    (aggregate op s).map Series.head = (aggregateType op s.name s.dtype).map (⟨s.name, ·⟩) := by
  rw [aggregate_eq]
  cases aggregateType op s.name s.dtype <;> rfl

theorem head_string {op : StrOp} (h : ∀ p v, op ≠ .replace p v false) (s : Series) :
    (string op s).map Series.head = (stringType op s.dtype).map (⟨s.name, ·⟩) := by
  obtain ⟨cells, hs⟩ := exists_string h s
  rw [hs]
  cases stringType op s.dtype <;> rfl

theorem head_binary (op : BinaryOp) (hl : l.Fits n) (hr : r.Fits n) :
    (binary op l r).map Series.head =
      (resultType op l.dtype r.dtype).map (⟨resultName l r, ·⟩) := by
  have spread {m : Nat} (h1 : l.length = 1 ∨ l.length = m) (h2 : r.length = 1 ∨ r.length = m)
      (hm : l.length = m ∨ r.length = m) : (binary op l r).map Series.head =
        (resultType op l.dtype r.dtype).map (⟨resultName l r, ·⟩) := by
    rw [binary_eq op h1 h2 hm]
    cases resultType op l.dtype r.dtype <;> rfl
  obtain h1 | h1 := hl.spread
  · obtain h2 | h2 := hr.spread
    · exact spread (.inl h1) (.inl h2) (.inl h1)
    · exact spread (.inl h1) (.inr h2) (.inr h2)
  · exact spread (.inr h1) hr.spread (.inl h1)

theorem headIs_shifted {func : OffsetFunc}
    (h : stops ∨ s.length < 2 ^ 63 ∧ ¬func.Overflows s.length) :
    HeadIs stops (shifted func s) (.ok s.head) := by
  cases hs : offsetSteps func s with
  | some r =>
    obtain ⟨hname, hdtype, -⟩ := offsetSteps_spec hs
    refine .inl ?_
    rw [shifted_eq_ok.mpr hs, Except.map, Series.head, hname, hdtype]
    rfl
  | none =>
    obtain hstops | ⟨hlen, hin⟩ := h
    · refine .inr ⟨hstops, ?_⟩
      rw [shifted, hs]
      rfl
    · rw [offsetSteps_eq hlen, if_neg hin] at hs
      cases hs

/-! ## Windows -/

theorem fate_column (t : Table) (name : String) :
    fate (t.column name) = fate (findHead t.schema name) := by
  rw [← head_column, fate_map]

theorem fate_orderPartition (t : Table) (orderBy : List String) (rows : List Nat) :
    fate (orderPartition t orderBy rows) = fate (orderBy.mapM (findHead t.schema)) := by
  have hkeys (name : String) :
      fate (do let s ← (t.take rows).column name; pure (s, false)) = fate (findHead t.schema name) := by
    rw [← schema_take t rows, ← fate_column]
    exact fate_bind_ok _ _
  rw [← fate_mapM_congr hkeys]
  exact fate_bind_ok _ _

theorem fate_windowGroups (t : Table) (spec : WindowSpec) :
    fate (windowGroups t spec) = spec.check (decide (0 < t.height)) t.schema := by
  have hkeys : fate (spec.partitionBy.mapM t.column) =
      fate (spec.partitionBy.mapM (findHead t.schema)) := fate_mapM_congr (fate_column t)
  unfold windowGroups WindowSpec.check
  rw [← hkeys]
  refine map_bind_of_fate ?_
  intro keys _
  by_cases ordered : spec.isOrdered = true
  · by_cases filled : 0 < t.height
    · have hne : partition keys t.height ≠ [] := fun h =>
        absurd (partition_eq_nil_iff.mp h) (Nat.ne_of_gt filled)
      simp only [ordered, filled, if_true, decide_true, Bool.and_self]
      exact fate_mapM_const hne fun p _ => fate_orderPartition t spec.orderBy p
    · have hnil : partition keys t.height = [] := partition_eq_nil_iff.mpr (by omega)
      simp only [ordered, filled, if_true, decide_false, Bool.false_and, Bool.false_eq_true, if_false,
        hnil]
      rfl
  · simp only [ordered, Bool.and_false, Bool.false_eq_true, if_false]
    rfl

/-- The head of a partition's series goes with the type of nothing, and with itself. -/
theorem headIs_fillPartition (hs : HeadIs stops (inner (t.take rows)) o)
    (fits : Yields (inner (t.take rows)) (Fits rows.length))
    (hb : before.dtype = .null ∨ o = .ok before.head) :
    HeadIs stops (fillPartition t inner before rows) o := by
  unfold fillPartition
  rw [← bind_pure o]
  refine hs.step fun s hi => ?_
  have ho : o = .ok s.head := hs.of_ok hi
  have hunify : unify before.dtype s.dtype = .ok s.dtype := by
    obtain hnull | hsame := hb
    · rw [hnull, unify_null]
    · have hd : before.dtype = s.dtype := congrArg Head.dtype (Except.ok.inj (hsame.symm.trans ho))
      rw [hd, unify_self]
  rw [hunify, ok_bind, broadcast_eq (fits s hi).spread]
  rfl

/-- All partitions have the same head, so it does not matter how many there are. -/
theorem headIs_fill (hne : groups ≠ []) (hs : ∀ g ∈ groups, HeadIs stops (inner (t.take g)) o)
    (fits : ∀ g ∈ groups, Yields (inner (t.take g)) (Fits g.length))
    (hb : before.dtype = .null ∨ o = .ok before.head) :
    HeadIs stops (groups.foldlM (fillPartition t inner) before) o := by
  induction groups generalizing before with
  | nil => exact absurd rfl hne
  | cons g gs ih =>
    obtain ⟨hg, hgs⟩ := List.forall_mem_cons.mp hs
    obtain ⟨fg, fgs⟩ := List.forall_mem_cons.mp fits
    have hfirst := headIs_fillPartition hg fg hb
    rw [List.foldlM_cons, ← bind_pure o]
    refine hfirst.bind fun first hf => ?_
    have ho : o = .ok first.head := hfirst.of_ok hf
    rw [pure_eq_ok, ← ho]
    cases gs with
    | nil => exact .inl ho.symm
    | cons g' gs' => exact ih (List.cons_ne_nil g' gs') hgs fgs (.inr ho)

theorem headIs_window_filled (filled : 0 < t.height)
    (hs : ∀ g, g ≠ [] → g.length ≤ t.height → HeadIs stops (inner (t.take g)) o)
    (fits : ∀ g, Yields (inner (t.take g)) (Fits g.length)) :
    HeadIs stops (window t spec inner) (spec.check true t.schema >>= fun _ => windowHead true o) := by
  have hcheck : fate (windowGroups t spec) = spec.check true t.schema := by
    rw [fate_windowGroups, decide_eq_true filled]
  rw [← hcheck]
  refine .afterFate fun groups hgroups => ?_
  obtain ⟨hrows, hnil⟩ := groups_spec groups hgroups
  have hne : groups ≠ [] := fun h => absurd (hnil.mp h) (Nat.ne_of_gt filled)
  have harranged : Arranges t.height groups := arranges_windowGroups groups hgroups
  have hfill : HeadIs stops (groups.foldlM (fillPartition t inner)
      ⟨"", .null, List.replicate t.height .null⟩) o :=
    headIs_fill hne (fun g hg => hs g (hrows g hg) (harranged.length_le hg)) (fun g _ => fits g) (.inl rfl)
  rw [windowHead, ← bind_pure o]
  refine hfill.step fun s _ => ?_
  rw [windowName_of_ne hne]
  rfl

theorem headIs_window_empty (empty : t.height = 0) (hs : HeadIs stops (inner t) o) :
    HeadIs stops (window t spec inner)
      (spec.check false t.schema >>= fun _ => windowHead false o) := by
  have hcheck : fate (windowGroups t spec) = spec.check false t.schema := by
    rw [fate_windowGroups, empty]
    rfl
  rw [← hcheck]
  refine .afterFate fun groups hgroups => ?_
  obtain rfl : groups = [] := (groups_spec groups hgroups).2.mpr empty
  rw [List.foldlM_nil, pure_eq_ok, ok_bind]
  obtain rfl | ⟨hstops, hover⟩ := hs
  · refine .inl ?_
    rw [windowHead, if_neg Bool.false_ne_true, attempt_map, windowName, List.isEmpty_nil, if_pos rfl]
    rcases attempt (inner t) with fault | _ | s <;> simp [Except.map, coerce, empty] <;> rfl
  · rw [hover]
    exact .inr ⟨hstops, rfl⟩

/-! ## Overflows -/

def Unstopped {α : Type} (x : Outcome α) : Prop := x ≠ .error .overflow

namespace Unstopped

variable {α β : Type} {x : Outcome α}

theorem bind {f : α → Outcome β} (hx : Unstopped x) (hf : ∀ a, Unstopped (f a)) :
    Unstopped (x >>= f) := by
  cases x with
  | error fault => exact fun h => hx (by cases h; rfl)
  | ok a => exact hf a

theorem map {f : α → β} (hx : Unstopped x) : Unstopped (x.map f) :=
  fun h => hx (map_eq_error.mp h)

theorem mapM {f : α → Outcome β} (hf : ∀ a, Unstopped (f a)) : ∀ xs : List α, Unstopped (xs.mapM f)
  | [] => nofun
  | x :: xs => by
    rw [List.mapM_cons]
    exact (hf x).bind fun y => (mapM hf xs).bind fun ys => nofun

theorem exists_attempt (hx : Unstopped x) : ∃ o, attempt x = .ok o := by
  cases x with
  | ok a => exact ⟨some a, rfl⟩
  | error fault =>
    cases fault with
    | overflow => exact (hx rfl).elim
    | _ => exact ⟨none, rfl⟩

end Unstopped

/-- A head is a question of names and types, where nothing overflows. -/
theorem unstopped_head (filled : Bool) (schema : List Head) (e : Expr) : Unstopped (e.head filled schema) := by
  have column (name : String) : Unstopped (findHead schema name) := by
    unfold findHead findNamed
    split
    · exact nofun
    · split <;> exact nofun
  induction e with
  | column name => exact column name
  | literal v => exact nofun
  | raw text => exact nofun
  | unary op e ih =>
    refine ih.bind fun h => .map ?_
    unfold unaryType
    split <;> (try split) <;> exact nofun
  | binary op l r ihl ihr =>
    refine ihl.bind fun a => ihr.bind fun b => .map ?_
    unfold resultType arithType
    split <;> split_ifs <;> exact nofun
  | str op e ih =>
    refine ih.bind fun h => .map ?_
    unfold stringType
    split <;> exact nofun
  | agg op e ih =>
    refine ih.bind fun h => .map ?_
    unfold aggregateType
    split <;> exact nofun
  | cast e _ ih | aliased e _ ih => exact ih.map
  | offset _ e ih => exact ih
  | window e spec ih =>
    have columns (names : List String) : Unstopped (fate (names.mapM (findHead schema))) :=
      (Unstopped.mapM column names).map
    have check : Unstopped (spec.check filled schema) := by
      refine (columns spec.partitionBy).bind fun _ => ?_
      split
      · exact columns spec.orderBy
      · exact nofun
    refine check.bind fun _ => ?_
    unfold windowHead
    split
    · exact ih
    · obtain ⟨o, ho⟩ := ih.exists_attempt
      rw [ho]
      exact nofun

/-! ## Expressions -/

end Eval

/-- Not an offset that overflows on so many rows. -/
def Expr.isInRange (rows : Nat) : Expr → Bool
  | .offset func _ => !decide (func.Overflows rows)
  | _ => true

namespace Eval

variable {t : Table} {n : Nat}

/-- **The head of an expression's column comes from the schema of the table**, and from whether the table
    has rows. An overflow is possible only where an offset is out of range. -/
theorem headIs_eval [Sql.Reader] (stops : Prop) {e : Expr} (structured : e.Made Expr.isStructured)
    (hrange : stops ∨ n < 2 ^ 63 ∧ 1 ≤ n ∧ e.Made (Expr.isInRange n)) :
    ∀ {t : Table}, t.WellFormed → t.height ≤ n →
      HeadIs stops (e.eval t) (e.head (decide (0 < t.height)) t.schema) := by
  have only {e c : Expr} (hc : e.children = [c])
      (h : stops ∨ n < 2 ^ 63 ∧ 1 ≤ n ∧ e.Made (Expr.isInRange n)) :
      stops ∨ n < 2 ^ 63 ∧ 1 ≤ n ∧ c.Made (Expr.isInRange n) :=
    h.imp_right fun ⟨hword, hone, hmade⟩ => ⟨hword, hone, hmade.only hc⟩
  induction e with
  | column name => exact fun {t} _ _ => .inl (head_column t name)
  | literal v => exact fun {_} _ _ => .inl rfl
  | raw text => exact (Bool.false_ne_true structured.self).elim
  | unary op e ih =>
    intro t ht hn
    exact (ih (structured.only rfl) (only rfl hrange) ht hn).step fun s _ => head_unary op s
  | binary op l r ihl ihr =>
    intro t ht hn
    have hl := hrange.imp_right fun h => And.imp_right (And.imp_right Expr.Made.left) h
    have hr := hrange.imp_right fun h => And.imp_right (And.imp_right Expr.Made.right) h
    refine (ihl structured.left hl ht hn).bind fun a ha => ?_
    refine (ihr structured.right hr ht hn).step fun b hb => ?_
    exact head_binary op (fitting_eval l t ht a ha) (fitting_eval r t ht b hb)
  | str op e ih =>
    intro t ht hn
    refine (ih (structured.only rfl) (only rfl hrange) ht hn).step fun s _ => head_string ?_ s
    rintro p v rfl
    exact absurd structured.self Bool.false_ne_true
  | agg op e ih =>
    intro t ht hn
    exact (ih (structured.only rfl) (only rfl hrange) ht hn).step fun s _ => head_aggregate op s
  | cast e _ ih | aliased e _ ih =>
    intro t ht hn
    exact (ih (structured.only rfl) (only rfl hrange) ht hn).step fun s _ => rfl
  | offset func e ih =>
    intro t ht hn
    have he := ih (structured.only rfl) (only rfl hrange) ht hn
    rw [Expr.head, ← bind_pure (e.head _ _)]
    refine he.bind fun s hs => headIs_shifted (hrange.imp_right fun h => ?_)
    obtain ⟨hword, hone, hmade⟩ := h
    -- The series has one cell or one for each row.
    have hlen : s.length ≤ n := by
      obtain hlen | hlen := (fitting_eval e t ht s hs).spread <;> omega
    have hin : ¬func.Overflows n := by simpa [Expr.isInRange] using hmade.self
    exact ⟨by omega, fun hover => hin (overflows_mono hover hlen)⟩
  | window e spec ih =>
    intro t ht hn
    have he {t : Table} (ht : t.WellFormed) (hn : t.height ≤ n) :=
      ih (structured.only rfl) (only rfl hrange) ht hn
    by_cases filled : 0 < t.height
    · rw [Expr.head, decide_eq_true filled]
      refine headIs_window_filled filled ?_ fun g => fitting_eval e _ (ht.take g)
      intro g hg hlen
      have hpos : 0 < (t.take g).height := List.length_pos_of_ne_nil hg
      have hhead := he (ht.take g) (Nat.le_trans hlen hn)
      rwa [schema_take, decide_eq_true hpos] at hhead
    · have hinner := he ht hn
      rw [Expr.head, decide_eq_false filled] at *
      exact headIs_window_empty (Nat.eq_zero_of_not_pos filled) hinner

/-- No overflow stops an expression whose offsets are in range. -/
theorem unstopped_eval [Sql.Reader] {e : Expr} (structured : e.Made Expr.isStructured) (ht : t.WellFormed)
    (hword : t.height < 2 ^ 63) (hrange : e.Made (Expr.isInRange (max 1 t.height))) :
    Unstopped (e.eval t) := by
  have hn : max 1 t.height < 2 ^ 63 := by omega
  obtain hhead | ⟨hfalse, -⟩ := headIs_eval False structured
    (.inr ⟨hn, Nat.le_max_left 1 _, hrange⟩) ht (Nat.le_max_right 1 _)
  · intro hover
    refine unstopped_head (decide (0 < t.height)) t.schema e ?_
    rw [← hhead, hover]
    rfl
  · exact hfalse.elim

/-- What succeeds on rows has no offset that is out of range for a row. -/
theorem isInRange_of_eval [Sql.Reader] {e : Expr} : ∀ {t : Table} {s : Series}, t.WellFormed →
    0 < t.height → e.eval t = .ok s → e.Made (Expr.isInRange 1) := by
  induction e with
  | column name | literal v | raw text => exact fun _ _ _ => by simp [Expr.Made, Expr.nodes, Expr.isInRange]
  | binary op l r ihl ihr =>
    intro t s ht filled h
    obtain ⟨a, ha, h⟩ := bind_eq_ok.mp h
    obtain ⟨b, hb, -⟩ := bind_eq_ok.mp h
    have hl := ihl ht filled ha
    have hr := ihr ht filled hb
    exact List.forall_mem_cons.mpr ⟨rfl, List.forall_mem_append.mpr ⟨hl, hr⟩⟩
  | offset func e ih =>
    intro t s ht filled h
    obtain ⟨a, ha, h⟩ := bind_eq_ok.mp h
    have hpos : 0 < a.length := by
      obtain hlen | hlen := (fitting_eval e t ht a ha).spread <;> omega
    have hin := not_overflows_one (shifted_eq_ok.mp h) hpos
    exact List.forall_mem_cons.mpr ⟨by simp [Expr.isInRange, hin], ih ht filled ha⟩
  | window e spec ih =>
    intro t s ht filled h
    obtain ⟨groups, hgroups⟩ := exists_of_bind_eq_ok h
    obtain ⟨parts, hparts, -⟩ := (window_eq_ok filled hgroups).mp h
    obtain ⟨g, gs, rfl⟩ := List.exists_cons_of_ne_nil (groups_ne_nil filled groups hgroups)
    obtain ⟨part, -, ⟨hpart, -⟩, -⟩ := List.forall₂_cons_left_iff.mp hparts
    have hpos : 0 < (t.take g).height :=
      List.length_pos_of_ne_nil ((groups_spec _ hgroups).1 g List.mem_cons_self)
    exact List.forall_mem_cons.mpr ⟨rfl, ih (ht.take g) hpos hpart⟩
  | unary _ e ih | cast e _ ih | str _ e ih | agg _ e ih | aliased e _ ih =>
    intro t s ht filled h
    obtain ⟨a, ha⟩ := exists_of_bind_eq_ok h
    exact List.forall_mem_cons.mpr ⟨rfl, ih ht filled ha⟩

end Eval
end FramePlan
