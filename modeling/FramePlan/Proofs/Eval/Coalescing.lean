import FramePlan.Proofs.Eval.Grouping
import FramePlan.Proofs.Eval.TableTyping
import FramePlan.Proofs.Table.Selection
import Mathlib.Data.List.Perm.Subperm

/-!
# Coalesced keys

A join that coalesces makes one column of a key pair: the column of the left key, with the right key
where the left one is missing. The column is found by the name of the key, for the pairing of rows as
for any other use, so that a key may differ from its column in the case of letters. Whether a column
is a key, though, is told by comparing its name with those of the keys as they are written.

1. `leftColumn_coalesced`: the column of a left key that is written as the column is named has the
   right keys as well.
2. `leftColumn_alone`: that of another left key has not, and a key that the right row alone has is
   not in the result if the right key is written as its column is named (`unlike_key_lost`).
3. `width_join`: the right columns that are left out are those named by a right key.

`coalescing_keeps_keys` puts this together.
-/
namespace FramePlan.Eval

open Table Series

variable {left right t : Table} {spec : JoinSpec} {pairs : List RowPair} {ls rs : List Series}
  {lk rk c : Series} {lname rname : String}

/-! ## Keys and their columns -/

theorem nodup_map_column {names : List String} {columns : List Series}
    (h : names.mapM t.column = .ok columns) (distinct : columns.Nodup) :
    (names.map t.column).Nodup := by
  rw [map_eq_of_mapM h]
  exact distinct.map fun _ _ he => Except.ok.inj he

theorem eq_of_column_eq {names : List String} (distinct : (names.map t.column).Nodup) {a b : String}
    (ha : a ∈ names) (hb : b ∈ names) (h : t.column a = t.column b) : a = b :=
  List.inj_on_of_nodup_map distinct ha hb h

theorem mem_leftOn (h : (lname, rname) ∈ spec.keyPairs) : lname ∈ spec.leftOn := (List.of_mem_zip h).1

theorem lookup_keyPairs (valid : spec.Valid) (distinct : spec.leftOn.Nodup)
    (h : (lname, rname) ∈ spec.keyPairs) : spec.keyPairs.lookup lname = some rname := by
  have hfst : spec.keyPairs.map (·.1) = spec.leftOn := List.map_fst_zip valid.1.le
  exact (Grouping.mem_iff_lookup (hfst ▸ distinct)).mp h

/-- No key pair is found for the column of a left key that is not written as the column is named. -/
theorem lookup_keyPairs_unlike (hl : left.WellFormed) (distinct : (spec.leftOn.map left.column).Nodup)
    (h : (lname, rname) ∈ spec.keyPairs) (hlk : left.column lname = .ok lk)
    (unlike : lname ∉ left.names) : spec.keyPairs.lookup lk.name = none := by
  have hmem : lk ∈ left.columns := mem_column lk hlk
  have hname : lk.name ∈ left.names := List.mem_map_of_mem hmem
  cases hfound : spec.keyPairs.lookup lk.name with
  | none => rfl
  | some other =>
    -- Two of the keys would have the one column.
    have hother : lk.name ∈ spec.leftOn := by
      obtain ⟨before, behind, hsplit, -⟩ := List.lookup_eq_some_iff.mp hfound
      exact mem_leftOn (hsplit ▸ List.mem_append_right before List.mem_cons_self)
    have hsame : left.column lname = left.column lk.name := by
      rw [hlk, column_of_distinct hl.2 hmem]
    have heq : lname = lk.name := eq_of_column_eq distinct (mem_leftOn h) hother hsame
    exact absurd (heq ▸ hname) unlike

/-! ## The column of a left key -/

/-- A column of both keys: its type takes those of both, and a row of the result has the left key if
    there is one that is not null, and otherwise the right key, if there is one. -/
structure Coalesced (lk rk : Series) (pairs : List RowPair) (c : Series) : Prop where
  dtype : unify lk.dtype rk.dtype = .ok c.dtype
  left : ∀ j l r, pairs[j]? = some (some l, r) → lk.cellAt l ≠ .null →
    c.cellAt j = coerceCell c.dtype (lk.cellAt l)
  right : ∀ j l r, pairs[j]? = some (l, some r) → (∀ n, l = some n → lk.cellAt n = .null) →
    c.cellAt j = coerceCell c.dtype (rk.cellAt r)

theorem orElse_null (c : Cell) : Cell.null.orElse c = c := rfl

theorem orElse_of_ne {c : Cell} (h : c ≠ .null) (other : Cell) : c.orElse other = c := by
  cases c with
  | null => exact absurd rfl h
  | _ => rfl

theorem cellAt_merged (name : String) (d : Dtype) {j : Nat} {l r : Option Nat}
    (hj : pairs[j]? = some (l, r)) :
    Series.cellAt ⟨name, d, coerce d ((lk.takeOptional (pairs.map (·.1))).cells.zipWith Cell.orElse
        (rk.takeOptional (pairs.map (·.2))).cells)⟩ j =
      coerceCell d (((l.map lk.cellAt).getD .null).orElse ((r.map rk.cellAt).getD .null)) := by
  simp [cellAt, coerce, takeOptional, hj]

theorem leftColumn_coalesced (coalesce : spec.coalesce = true)
    (hkey : spec.keyPairs.lookup lk.name = some rname) (hrk : right.column rname = .ok rk) :
    Yields (leftColumn right spec pairs lk) (Coalesced lk rk pairs) := by
  simp only [leftColumn, coalesce, if_true, hkey, hrk, ok_bind]
  refine Yields.after ?_
  intro d hd
  refine .ok ?_
  constructor
  case dtype => exact hd
  case left =>
    intro j l r hj hne
    rw [cellAt_merged _ d hj, Option.map_some, Option.getD_some, orElse_of_ne hne]
  case right =>
    intro j l r hj hnull
    have hleft : (l.map lk.cellAt).getD .null = .null := by
      cases l with
      | none => rfl
      | some n => exact hnull n rfl
    rw [cellAt_merged _ d hj, hleft, orElse_null, Option.map_some, Option.getD_some]

theorem leftColumn_alone (hkey : spec.keyPairs.lookup lk.name = none) :
    leftColumn right spec pairs lk = .ok (lk.takeOptional (pairs.map (·.1))) := by
  simp [leftColumn, hkey]

/-! ## The columns of the result -/

/-- What a join that succeeds consists of: the left columns, and behind them the right ones that are
    not left out, under some names. -/
theorem columns_of_join (hls : spec.leftOn.mapM left.column = .ok ls)
    (hrs : spec.rightOn.mapM right.column = .ok rs) (ht : join left right spec = .ok t) :
    spec.Valid ∧ ∃ lefts names,
      left.columns.mapM (leftColumn right spec
        (joinPairs spec.how ls rs left.height right.height)) = .ok lefts ∧
      names.length = (rightColumns right spec).length ∧
      t.columns = lefts ++ (rightColumns right spec).zipWith (fun c name => (c.takeOptional
        ((joinPairs spec.how ls rs left.height right.height).map (·.2))).renamed name) names := by
  simp only [join, bind_eq_ok] at ht
  obtain ⟨_, hcheck, ls', hls', rs', hrs', _, -, lefts, hlefts, htable⟩ := ht
  obtain rfl : ls = ls' := Except.ok.inj (hls.symm.trans hls')
  obtain rfl : rs = rs' := Except.ok.inj (hrs.symm.trans hrs')
  have valid : spec.check = .ok () := by
    cases hc : spec.check with
    | ok _ => rfl
    | error fault =>
      rw [hc] at hcheck
      cases hcheck
  obtain ⟨names, hlen, hadded⟩ := foldl_addRight spec
    (joinPairs spec.how ls rs left.height right.height) (rightColumns right spec) lefts
  have hcolumns := (ofColumns_spec t htable).1
  exact ⟨(JoinSpec.check_eq_ok_iff spec).mp valid, lefts, names, hlefts, hlen, hcolumns.trans hadded⟩

/-- A join that coalesces leaves out the right columns that a right key names. -/
theorem length_rightColumns (hr : right.WellFormed) (coalesce : spec.coalesce = true)
    (distinct : spec.rightOn.Nodup) :
    (rightColumns right spec).length + (spec.rightOn.filter (· ∈ right.names)).length =
      right.width := by
  have hkept : rightColumns right spec =
      right.columns.filter fun c => !decide (c.name ∈ spec.rightOn) := by
    simp [rightColumns, coalesce]
  have hsame : ((right.columns.filter fun c => c.name ∈ spec.rightOn).map (·.name)).Perm
      (spec.rightOn.filter (· ∈ right.names)) := by
    have hnames : ((right.columns.filter fun c => c.name ∈ spec.rightOn).map (·.name)).Nodup :=
      hr.2.sublist (List.filter_sublist.map _)
    apply (List.perm_ext_iff_of_nodup hnames (distinct.filter _)).mpr
    intro name
    simp only [names, List.mem_map, List.mem_filter, decide_eq_true_iff]
    constructor
    · rintro ⟨c, ⟨hc, hkey⟩, rfl⟩
      exact ⟨hkey, c, hc, rfl⟩
    · rintro ⟨hkey, c, hc, rfl⟩
      exact ⟨c, ⟨hc, hkey⟩, rfl⟩
  rw [hkept, ← hsame.length_eq, List.length_map, Nat.add_comm, width]
  exact (List.length_eq_length_filter_add _).symm

theorem getElem?_of_join (hls : spec.leftOn.mapM left.column = .ok ls)
    (hrs : spec.rightOn.mapM right.column = .ok rs) (ht : join left right spec = .ok t) {i : Nat}
    (hi : left.columns[i]? = some lk) : ∃ c, t.columns[i]? = some c ∧
      leftColumn right spec (joinPairs spec.how ls rs left.height right.height) lk = .ok c := by
  obtain ⟨-, lefts, names, hlefts, -, hcolumns⟩ := columns_of_join hls hrs ht
  obtain ⟨c, hc, hlk⟩ := getElem?_of_mapM hlefts hi
  obtain ⟨hlt, -⟩ := List.getElem?_eq_some_iff.mp hc
  refine ⟨c, ?_, hlk⟩
  rw [hcolumns, List.getElem?_append_left hlt]
  exact hc

theorem width_join (hr : right.WellFormed) (coalesce : spec.coalesce = true)
    (hls : spec.leftOn.mapM left.column = .ok ls) (hrs : spec.rightOn.mapM right.column = .ok rs)
    (rdistinct : rs.Nodup) (ht : join left right spec = .ok t) :
    t.width + (spec.rightOn.filter (· ∈ right.names)).length = left.width + right.width := by
  obtain ⟨-, lefts, names, hlefts, hlen, hcolumns⟩ := columns_of_join hls hrs ht
  have hleft : lefts.length = left.width := (mapM_eq_ok.mp hlefts).length_eq.symm
  have hright := length_rightColumns hr coalesce (nodup_map_column hrs rdistinct).of_map
  rw [width, hcolumns, List.length_append, List.length_zipWith, hlen, Nat.min_self, hleft,
    Nat.add_assoc, hright]

theorem length_rightOn_le (hrs : spec.rightOn.mapM right.column = .ok rs) (rdistinct : rs.Nodup) :
    spec.rightOn.length ≤ right.width := by
  have hmem : rs ⊆ right.columns :=
    (Yields.mapM fun name _ => mem_column) rs hrs
  rw [(mapM_eq_ok.mp hrs).length_eq]
  exact (rdistinct.subperm hmem).length_le

/-- **Coalescing keeps the keys that are written as their columns are named.** The keys of a coalescing
join are distinct columns of the two tables, and the join succeeds. Then it has one column for each key
pair just if every right key is written as its column is named. In the place of the column of a left
key that is written so, the result has the column of both keys; in the place of another one it has the
left keys alone. -/
theorem coalescing_keeps_keys (hl : left.WellFormed) (hr : right.WellFormed)
    (coalesce : spec.coalesce = true) (hls : spec.leftOn.mapM left.column = .ok ls)
    (hrs : spec.rightOn.mapM right.column = .ok rs) (ldistinct : ls.Nodup) (rdistinct : rs.Nodup)
    (ht : join left right spec = .ok t) :
    let pairs := joinPairs spec.how ls rs left.height right.height
    (t.width = left.width + right.width - spec.leftOn.length ↔ ∀ k ∈ spec.rightOn, k ∈ right.names) ∧
      ∀ lname rname lk rk, (lname, rname) ∈ spec.keyPairs → left.column lname = .ok lk →
        right.column rname = .ok rk → ∀ i : Nat, left.columns[i]? = some lk →
          ∃ c, t.columns[i]? = some c ∧ (lname ∈ left.names → Coalesced lk rk pairs c) ∧
            (lname ∉ left.names → c = lk.takeOptional (pairs.map (·.1))) := by
  intro pairs
  obtain ⟨valid, -⟩ := columns_of_join hls hrs ht
  have distinct : (spec.leftOn.map left.column).Nodup := nodup_map_column hls ldistinct
  refine ⟨?_, ?_⟩
  · have hwidth := width_join hr coalesce hls hrs rdistinct ht
    have hle := length_rightOn_le hrs rdistinct
    have hcount := valid.1
    have hall : (∀ k ∈ spec.rightOn, k ∈ right.names) ↔
        (spec.rightOn.filter (· ∈ right.names)).length = spec.rightOn.length := by
      rw [List.length_filter_eq_length_iff]
      simp
    have hfilter := List.length_filter_le (· ∈ right.names) spec.rightOn
    rw [hall]
    omega
  · intro lname rname lk rk hkey hlk hrk i hi
    obtain ⟨c, hc, hcolumn⟩ := getElem?_of_join hls hrs ht hi
    refine ⟨c, hc, ?_, ?_⟩
    · intro like
      have hname : lk.name = lname := name_column like lk hlk
      have hlookup : spec.keyPairs.lookup lk.name = some rname :=
        hname ▸ lookup_keyPairs valid distinct.of_map hkey
      exact leftColumn_coalesced coalesce hlookup hrk c hcolumn
    · intro unlike
      rw [leftColumn_alone (lookup_keyPairs_unlike hl distinct hkey hlk unlike)] at hcolumn
      exact (Except.ok.inj hcolumn).symm

/-- The numbers of articles that have a price, one of which is missing. -/
def pricedIds : Series := ⟨"id", .i64, [.int 1, .null, .int 3]⟩

def prices : Table := ⟨[⟨"price", .i64, [.int 5, .int 6, .int 7]⟩, pricedIds], 3⟩

/-- The numbers of articles that are in stock, as numbers with a point. -/
def stockedIds : Series := ⟨"no", .f64, [.float (Binary64.ofInt 3), .float (Binary64.ofInt 4)]⟩

def stocks : Table := ⟨[stockedIds, ⟨"stock", .i64, [.int 8, .int 9]⟩], 2⟩

def articles : JoinSpec := ⟨["id"], ["no"], .outer, "_right", true⟩

def articleIds : Series :=
  ⟨"id", .f64, [.float (Binary64.ofInt 1), .null, .float (Binary64.ofInt 3), .float (Binary64.ofInt 4)]⟩

def articleTable : Table :=
  ⟨[⟨"price", .i64, [.int 5, .int 6, .int 7, .null]⟩, articleIds,
    ⟨"stock", .i64, [.null, .null, .int 8, .int 9]⟩], 4⟩

/-- The number that only the stock has is kept. -/
theorem coalescing_keeps_keys_articles :
    join prices stocks articles = .ok articleTable ∧ articleTable.width = 2 + 2 - 1 ∧
      Coalesced pricedIds stockedIds
        [(some 0, none), (some 1, none), (some 2, some 0), (none, some 1)] articleIds := by
  have joined : join prices stocks articles = .ok articleTable := by decide +kernel
  have hprices : prices.WellFormed := by
    simp [WellFormed, prices, pricedIds, SeriesTyped, CellHas, Series.length, names]
  have hstocks : stocks.WellFormed := by
    simp [WellFormed, stocks, stockedIds, SeriesTyped, CellHas, Series.length, names]
  have hls : articles.leftOn.mapM prices.column = .ok [pricedIds] := rfl
  have hrs : articles.rightOn.mapM stocks.column = .ok [stockedIds] := rfl
  obtain ⟨width, columns⟩ := coalescing_keeps_keys hprices hstocks rfl hls hrs
    (List.nodup_singleton _) (List.nodup_singleton _) joined
  obtain ⟨c, hc, merged, -⟩ := columns "id" "no" pricedIds stockedIds (by decide) rfl rfl 1 rfl
  cases hc
  have hpairs : joinPairs .outer [pricedIds] [stockedIds] 3 2 =
      [(some 0, none), (some 1, none), (some 2, some 0), (none, some 1)] := by decide +kernel
  exact ⟨joined, width.mpr (by decide), hpairs ▸ merged (by decide)⟩

/-! ### Keys written unlike their columns -/

/-- One article on each side, and not the same one. -/
def onlyPriced : Table := ⟨[⟨"id", .i64, [.int 1]⟩], 1⟩

def onlyStocked : Table := ⟨[⟨"id", .i64, [.int 2]⟩], 1⟩

/-- The left key is written in capitals, unlike its column. -/
def capitalKey : JoinSpec := ⟨["ID"], ["id"], .outer, "_right", true⟩

/-- The condition on the left key cannot be left out. The key is found, so the rows are paired by it,
    and the second row of the result comes of the right article alone; its number is lost, and no
    error says so. -/
theorem unlike_key_lost :
    onlyPriced.WellFormed ∧ onlyStocked.WellFormed ∧
      capitalKey.leftOn.mapM onlyPriced.column = .ok onlyPriced.columns ∧
      capitalKey.rightOn.mapM onlyStocked.column = .ok onlyStocked.columns ∧
      joinPairs .outer onlyPriced.columns onlyStocked.columns 1 1 = [(some 0, none), (none, some 0)] ∧
      join onlyPriced onlyStocked capitalKey = .ok ⟨[⟨"id", .i64, [.int 1, .null]⟩], 2⟩ ∧
      ¬Coalesced ⟨"id", .i64, [.int 1]⟩ ⟨"id", .i64, [.int 2]⟩ [(some 0, none), (none, some 0)]
        ⟨"id", .i64, [.int 1, .null]⟩ := by
  refine ⟨?_, ?_, by decide, by decide, by decide, by decide, ?_⟩
  · simp [WellFormed, onlyPriced, SeriesTyped, CellHas, Series.length, names]
  · simp [WellFormed, onlyStocked, SeriesTyped, CellHas, Series.length, names]
  · intro merged
    have hcell := merged.right 1 none 0 rfl (by intro _ h; cases h)
    exact absurd hcell (by decide)

end FramePlan.Eval
