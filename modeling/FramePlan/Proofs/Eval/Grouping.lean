import FramePlan.Eval.Join
import FramePlan.Proofs.Table.Keys
import Mathlib.Data.List.Induction
import Mathlib.Data.List.Nodup

/-!
# Groups and pairs of rows

What grouping and pairing by key texts come to.

1. `lookup_groupRows`: under a key text stand the rows that have it, all of them and in order, and a
   key text without rows does not occur. So `partition` puts two rows into one group exactly if their
   key texts are equal (`same_group_iff`).
2. `mem_keyPairs`: a join pairs a left row and a right row exactly if both have a key text, that is
   no key cell is null, and the texts are equal.
3. `keys_faithful`: over key columns (`KeyColumns`) the texts are equal exactly if the cells are.

The third statement needs that texts are free of the separator, and `colliding_rows` is why: two rows
with different cells, and with one key text.
-/
namespace FramePlan.Eval

/-! ## Groupings -/

namespace Grouping

variable {α : Type} {k : String}

theorem lookup_cons (first : String) (a : α) (g : List (String × α)) (k : String) :
    List.lookup k ((first, a) :: g) = if k = first then some a else g.lookup k := by
  by_cases hk : k = first
  · simp [hk]
  · rw [List.lookup_cons, beq_eq_false_iff_ne.mpr hk, if_neg hk]

theorem lookup_add (g : Grouping) (k key : String) (row : Nat) :
    (g.add key row).lookup k =
      if k = key then some ((g.lookup key).getD [] ++ [row]) else g.lookup k := by
  induction g with
  | nil => rw [add, lookup_cons, List.lookup_nil, List.lookup_nil, Option.getD_none, List.nil_append]
  | cons p rest ih =>
    obtain ⟨first, members⟩ := p
    rw [add]
    by_cases hf : first = key
    · subst hf
      rw [if_pos rfl, lookup_cons, lookup_cons, lookup_cons, if_pos rfl, Option.getD_some]
      split <;> rfl
    · rw [if_neg hf, lookup_cons, lookup_cons, lookup_cons, ih, if_neg (Ne.symm hf)]
      -- A key is the first one, the added one, or neither, and the first two differ.
      by_cases hk : k = first
      · rw [if_pos hk, if_pos hk, if_neg (hk ▸ hf)]
      · rw [if_neg hk, if_neg hk]

theorem map_fst_add (g : Grouping) (key : String) (row : Nat) :
    (g.add key row).map (·.1) =
      if key ∈ g.map (·.1) then g.map (·.1) else g.map (·.1) ++ [key] := by
  induction g with
  | nil => simp [add]
  | cons p rest ih =>
    obtain ⟨first, members⟩ := p
    by_cases hf : first = key
    · simp [add, hf]
    · simp only [add, hf, if_false, List.map_cons, ih, List.mem_cons, Ne.symm hf, false_or]
      split <;> rfl

theorem mem_iff_lookup {g : List (String × α)} {a : α} (h : (g.map (·.1)).Nodup) :
    (k, a) ∈ g ↔ g.lookup k = some a := by
  induction g with
  | nil => simp
  | cons p rest ih =>
    obtain ⟨first, b⟩ := p
    obtain ⟨hf, hr⟩ := List.nodup_cons.mp h
    rw [lookup_cons, List.mem_cons, Prod.mk.injEq, ih hr]
    by_cases hk : k = first
    · subst hk
      have hn : rest.lookup k ≠ some a := by
        intro hl
        exact hf (List.mem_map_of_mem (f := (·.1)) ((ih hr).mpr hl))
      simp [hn, eq_comm]
    · simp [hk]

end Grouping

/-! ## Grouping rows by a key -/

section

variable (keyOf : Nat → Option String)

def members (rows : List Nat) (key : String) : List Nat := rows.filter fun row => keyOf row == some key

theorem groupRows_append (rows : List Nat) (row : Nat) :
    groupRows keyOf (rows ++ [row]) =
      match keyOf row with
      | some key => (groupRows keyOf rows).add key row
      | none => groupRows keyOf rows := by
  rw [groupRows, List.foldl_append]
  rfl

theorem nodup_groupRows (rows : List Nat) : ((groupRows keyOf rows).map (·.1)).Nodup := by
  induction rows using List.reverseRecOn with
  | nil => exact List.nodup_nil
  | append_singleton rows row ih =>
    rw [groupRows_append]
    cases keyOf row with
    | none => exact ih
    | some key =>
      simp only [Grouping.map_fst_add]
      split
      · exact ih
      · rename_i hk
        refine List.nodup_append.mpr ⟨ih, List.nodup_singleton key, ?_⟩
        intro k hm l hl
        rw [List.mem_singleton.mp hl]
        exact fun he => hk (he ▸ hm)

/-- Under a key stand the rows that have it, in order; a key that no row has does not occur. -/
theorem lookup_groupRows (rows : List Nat) (key : String) :
    (groupRows keyOf rows).lookup key =
      if members keyOf rows key = [] then none else some (members keyOf rows key) := by
  induction rows using List.reverseRecOn with
  | nil => rfl
  | append_singleton rows row ih =>
    rw [groupRows_append, members, List.filter_append]
    cases hr : keyOf row with
    | none => simpa [hr, members] using ih
    | some k =>
      simp only [Grouping.lookup_add]
      by_cases hk : key = k
      · subst hk
        have hd : ((groupRows keyOf rows).lookup key).getD [] = members keyOf rows key := by
          rw [ih]
          split <;> simp_all
        simp [hr, hd, members]
      · simpa [hr, hk, Ne.symm hk, members] using ih

theorem mem_groupRows {rows group : List Nat} {key : String} :
    (key, group) ∈ groupRows keyOf rows ↔ group = members keyOf rows key ∧ group ≠ [] := by
  rw [Grouping.mem_iff_lookup (nodup_groupRows keyOf rows), lookup_groupRows]
  by_cases hm : members keyOf rows key = []
  · rw [if_pos hm, hm]
    simp
  · rw [if_neg hm, Option.some.injEq]
    refine ⟨?_, fun h => h.1.symm⟩
    rintro rfl
    exact ⟨rfl, hm⟩

theorem mem_members {rows : List Nat} {key : String} {row : Nat} :
    row ∈ members keyOf rows key ↔ row ∈ rows ∧ keyOf row = some key := by
  rw [members, List.mem_filter, beq_iff_eq]

end

/-! ## Partitions -/

theorem same_group_iff {keys : List Series} {height i j : Nat} (hi : i < height) (hj : j < height) :
    (∃ group ∈ partition keys height, i ∈ group ∧ j ∈ group) ↔ rowKey keys i = rowKey keys j := by
  refine ⟨?_, ?_⟩
  · rintro ⟨group, hg, hig, hjg⟩
    obtain ⟨⟨key, _⟩, hm, rfl⟩ := List.mem_map.mp hg
    obtain ⟨rfl, -⟩ := (mem_groupRows _).mp hm
    have hik := Option.some.inj ((mem_members _).mp hig).2
    have hjk := Option.some.inj ((mem_members _).mp hjg).2
    exact hik.trans hjk.symm
  · intro h
    -- The group of the one row's key has both.
    have hig := (mem_members fun row => some (rowKey keys row)).mpr ⟨List.mem_range.mpr hi, rfl⟩
    have hjg := (mem_members fun row => some (rowKey keys row)).mpr
      ⟨List.mem_range.mpr hj, congrArg some h.symm⟩
    refine ⟨_, List.mem_map.mpr ⟨(rowKey keys i, _), (mem_groupRows _).mpr ⟨rfl, ?_⟩, rfl⟩, hig, hjg⟩
    exact List.ne_nil_of_mem hig

/-! ## Pairs -/

theorem matchKey?_eq_some {keys : List Series} {row : Nat} {key : String} :
    matchKey? keys row = some key ↔ .null ∉ keyTuple keys row ∧ rowKey keys row = key := by
  have hnull : (keys.any fun k => (k.cellAt row).isNull) = true ↔ .null ∈ keyTuple keys row := by
    rw [List.any_eq_true, keyTuple, List.mem_map]
    refine exists_congr fun k => and_congr_right fun _ => ?_
    cases k.cellAt row <;> simp [Cell.isNull]
  rw [matchKey?]
  by_cases h : Cell.null ∈ keyTuple keys row
  · rw [if_pos (hnull.mpr h)]
    simp [h]
  · rw [if_neg (mt hnull.mp h)]
    simp [h]

theorem mem_crossPairs {lh rh l r : Nat} :
    (some l, some r) ∈ crossPairs lh rh ↔ l < lh ∧ r < rh := by
  simp [crossPairs]

/-- A left row gets the rows that it is given, and no other pair has two rows. -/
theorem mem_pairsOf {how : JoinType} {l l' r : Nat} {rows : Option (List Nat)} :
    (some l, some r) ∈ pairsOf how l' rows ↔ l' = l ∧ ∃ group, rows = some group ∧ r ∈ group := by
  cases rows with
  | none =>
    simp only [pairsOf]
    split <;> simp
  | some group =>
    simp only [pairsOf, List.mem_map, Prod.mk.injEq, Option.some.injEq, exists_eq_left']
    refine ⟨?_, ?_⟩
    · rintro ⟨r, hr, rfl, rfl⟩
      exact ⟨rfl, hr⟩
    · rintro ⟨rfl, hr⟩
      exact ⟨r, hr, rfl, rfl⟩

theorem exists_lookup_groupRows {keyOf : Nat → Option String} {rows : List Nat} {key : String}
    {row : Nat} :
    (∃ group, (groupRows keyOf rows).lookup key = some group ∧ row ∈ group) ↔
      row ∈ rows ∧ keyOf row = some key := by
  rw [lookup_groupRows, ← mem_members]
  split
  · rename_i h
    simp [h]
  · simp

/-- Two rows are paired exactly if both have a key text and the texts are equal. -/
theorem mem_keyPairs {how : JoinType} {ls rs : List Series} {lh rh l r : Nat} :
    (some l, some r) ∈ keyPairs how ls rs lh rh ↔
      (l < lh ∧ r < rh) ∧ ∃ key, matchKey? ls l = some key ∧ matchKey? rs r = some key := by
  -- The right rows that an outer join adds have no left row.
  have hfree (rows : List Nat) : (some l, some r) ∉ rows.map fun r => ((none, some r) : RowPair) := by
    simp
  have hpairs : (some l, some r) ∈ ((List.range lh).flatMap fun l => pairsOf how l
      ((matchKey? ls l).bind ((groupRows (matchKey? rs) (List.range rh)).lookup ·))) ↔
      (l < lh ∧ r < rh) ∧ ∃ key, matchKey? ls l = some key ∧ matchKey? rs r = some key := by
    simp only [List.mem_flatMap, List.mem_range, mem_pairsOf, Option.bind_eq_some_iff]
    refine ⟨?_, ?_⟩
    · rintro ⟨_, hl, rfl, group, ⟨key, hk, hg⟩, hr⟩
      obtain ⟨hrh, hrk⟩ := exists_lookup_groupRows.mp ⟨group, hg, hr⟩
      exact ⟨⟨hl, List.mem_range.mp hrh⟩, key, hk, hrk⟩
    · rintro ⟨⟨hl, hr⟩, key, hk, hrk⟩
      obtain ⟨group, hg, hr⟩ := exists_lookup_groupRows.mpr ⟨List.mem_range.mpr hr, hrk⟩
      exact ⟨l, hl, rfl, group, ⟨key, hk, hg⟩, hr⟩
  rw [keyPairs]
  split
  · rw [List.mem_append, hpairs, or_iff_left (hfree _)]
  · exact hpairs

/-! ## Keys are faithful -/

/-- **Rows go together exactly if their key cells do.** Over key columns, grouping puts two rows into
one group exactly if their key cells are equal one by one, a null with a null. A join whose key columns
are such columns pairs a left row and a right row exactly if none of their key cells is null and the
cells are equal one by one. -/
theorem keys_faithful (keys : List Series) (height : Nat) (left right : Table) (spec : JoinSpec)
    (leftKeys rightKeys : List Series) :
    (KeyColumns keys → ∀ i j, i < height → j < height →
      ((∃ group ∈ partition keys height, i ∈ group ∧ j ∈ group) ↔
        keyTuple keys i = keyTuple keys j)) ∧
      (spec.check = .ok () → spec.leftOn.mapM left.column = .ok leftKeys →
        spec.rightOn.mapM right.column = .ok rightKeys →
        KeyColumns leftKeys → KeyColumns rightKeys →
        ∀ l r, l < left.height → r < right.height →
          ((some l, some r) ∈ joinPairs spec.how leftKeys rightKeys left.height right.height ↔
            (.null ∉ keyTuple leftKeys l ∧ .null ∉ keyTuple rightKeys r) ∧
              keyTuple leftKeys l = keyTuple rightKeys r)) := by
  refine ⟨?_, ?_⟩
  · intro hk i j hi hj
    rw [same_group_iff hi hj, rowKey_inj hk hk rfl]
  · intro valid hls hrs hlk hrk l r hl hr
    obtain ⟨count, cross⟩ := (JoinSpec.check_eq_ok_iff spec).mp valid
    have hlc := (mapM_eq_ok.mp hls).length_eq
    have hrc := (mapM_eq_ok.mp hrs).length_eq
    rw [joinPairs]
    split
    · -- A cross join has no keys, so that nothing can keep two rows apart.
      rename_i hc
      have hln : leftKeys = [] := List.eq_nil_of_length_eq_zero (by simp [← hlc, cross.mp hc])
      have hrn : rightKeys = [] :=
        List.eq_nil_of_length_eq_zero (by simp [← hrc, ← count, cross.mp hc])
      simp [mem_crossPairs, hl, hr, hln, hrn, keyTuple]
    · have htexts := rowKey_inj (i := l) (j := r) hlk hrk (by omega)
      rw [mem_keyPairs, ← htexts]
      simp only [matchKey?_eq_some, hl, hr, true_and]
      refine ⟨?_, ?_⟩
      · rintro ⟨_, ⟨hln, hlt⟩, hrn, hrt⟩
        exact ⟨⟨hln, hrn⟩, hlt.trans hrt.symm⟩
      · rintro ⟨⟨hln, hrn⟩, ht⟩
        exact ⟨_, ⟨hln, ht⟩, hrn, rfl⟩

/-- A count with a gap, and a last column whose texts hold the separator. -/
def markedKeys : List Series :=
  [⟨"n", .u32, [.int 1, .null, .int 1]⟩, ⟨"t", .str, [.str "x\x1fsy", .str "x", .str "x\x1fsy"]⟩]

/-- The rows 0 and 2 go together, in a grouping and in a join of the table with itself; row 1, which
    has a null, has no partner. -/
theorem keys_faithful_marked :
    ((∃ group ∈ partition markedKeys 3, 0 ∈ group ∧ 2 ∈ group) ↔
      keyTuple markedKeys 0 = keyTuple markedKeys 2) ∧
    keyTuple markedKeys 0 = keyTuple markedKeys 2 ∧
    (some 0, some 2) ∈ joinPairs .inner markedKeys markedKeys 3 3 ∧
    (some 1, some 1) ∉ joinPairs .inner markedKeys markedKeys 3 3 := by
  have hk : KeyColumns markedKeys := by
    refine ⟨?_, ?_⟩
    · intro k hk
      obtain rfl | rfl : k = _ ∨ k = _ := by simpa [markedKeys] using hk
      · exact ⟨by decide, by simp [Table.SeriesTyped, Table.CellHas]⟩
      · exact ⟨by decide, by simp [Table.SeriesTyped, Table.CellHas]⟩
    · simp [markedKeys, Series.Unseparated]
  obtain ⟨grouping, joining⟩ := keys_faithful markedKeys 3 ⟨markedKeys, 3⟩ ⟨markedKeys, 3⟩
    (.on ["n", "t"]) markedKeys markedKeys
  have pairs := joining (by decide) (by decide) (by decide) hk hk
  exact ⟨grouping hk 0 2 (by decide) (by decide), by decide,
    (pairs 0 2 (by decide) (by decide)).mpr (by decide),
    mt (pairs 1 1 (by decide) (by decide)).mp (by decide)⟩

def collidingKeys : List Series :=
  [⟨"a", .str, [.str "a", .str "a\x1fsb"]⟩, ⟨"b", .str, [.str "b\x1fsc", .str "c"]⟩]

/-- Without the condition on texts the rows need not be told apart: the two rows have different key
    cells, and they are one group, and partners in a join. -/
theorem colliding_rows :
    (∀ k ∈ collidingKeys, k.IsKey) ∧ keyTuple collidingKeys 0 ≠ keyTuple collidingKeys 1 ∧
      partition collidingKeys 2 = [[0, 1]] ∧
      (some 0, some 1) ∈ joinPairs .inner collidingKeys collidingKeys 2 2 := by
  refine ⟨?_, by decide, by decide, by decide⟩
  intro k hk
  obtain rfl | rfl : k = _ ∨ k = _ := by simpa [collidingKeys] using hk
  · exact ⟨by decide, by simp [Table.SeriesTyped, Table.CellHas]⟩
  · exact ⟨by decide, by simp [Table.SeriesTyped, Table.CellHas]⟩

end FramePlan.Eval
