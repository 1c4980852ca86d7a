import FramePlan.Proofs.Text.Fields
import FramePlan.Table.Render
import Mathlib.Data.List.Basic

/-!
# Tables drawn as boxes

The lines of a drawn table are put together apart from one another: rules from widths, the header from
names, the rows from cells. `render_box` says that they fit: a table with columns is drawn as its shape
and `height + 6` lines of one length, in which every column has its own place (`columnStart`), and the
line of a row has the text of a cell there.

Every line is a piece for each column between borders (`bordered`). What is left to say of a kind of
line is that its pieces fill their columns and hold no newline (`BoxLine`).
-/
namespace FramePlan.Table

/-- What a column has to be as wide as: three characters, its cells, its name and that of its type. -/
def measures (s : Series) : List Nat :=
  3 :: ((s.cells.map fun x => x.display.length) ++ [s.name.length, s.dtype.name.length])

/-- The length of the lines of a box: a border on the left, and for each column its text, a space on
either side, and the border on its right. -/
def boxWidth (columns : List Series) : Nat := (columns.map fun c => columnWidth c + 3).sum + 1

def columnStart (columns : List Series) (i : Nat) : Nat := boxWidth (columns.take i)

def textLines (s : String) : List String := (Text.fields '\n' s.toList).map String.ofList

/-! ## Widths -/

theorem max?_measures (s : Series) : (measures s).max? = some (columnWidth s) := by
  rw [measures, List.max?_cons', columnWidth, texts, List.map_append, List.map_map]
  rfl

theorem le_columnWidth {s : Series} {n : Nat} (h : n ∈ measures s) : n ≤ columnWidth s :=
  (List.max?_eq_some_iff.mp (max?_measures s)).2 n h

/-! ## Lines between borders -/

variable {columns : List Series} {piece : Series → List Char} {left mid right : Char}

/-- The characters of a line: a piece for each column, between borders. -/
def bordered (left mid right : Char) (columns : List Series) (piece : Series → List Char) :
    List Char :=
  left :: ([mid].intercalate (columns.map piece) ++ [right])

/-- Each piece is as wide as its column and a space on either side. -/
def Fills (columns : List Series) (piece : Series → List Char) : Prop :=
  ∀ c ∈ columns, (piece c).length = columnWidth c + 2

theorem sum_pieces (fills : Fills columns piece) :
    ((columns.map piece).map fun p => p.length + 1).sum + 1 = boxWidth columns := by
  have heach : ∀ c ∈ columns, (piece c).length + 1 = columnWidth c + 3 := by
    intro c hc
    rw [fills c hc]
  rw [List.map_map, boxWidth]
  exact congrArg (List.sum · + 1) (List.map_congr_left heach)

theorem length_bordered (hne : columns ≠ []) (fills : Fills columns piece) :
    (bordered left mid right columns piece).length = boxWidth columns := by
  have hpieces : columns.map piece ≠ [] := fun h => hne (List.map_eq_nil_iff.mp h)
  rw [bordered, List.length_cons, List.length_append, List.length_singleton,
    Text.length_intercalate hpieces, sum_pieces fills]

theorem take_drop_bordered (fills : Fills columns piece) {i : Nat} {c : Series}
    (hc : columns[i]? = some c) :
    ((bordered left mid right columns piece).drop (columnStart columns i)).take (columnWidth c + 2) =
      piece c := by
  have hbefore : Fills (columns.take i) piece := fun b hb => fills b (List.mem_of_mem_take hb)
  have hpiece : (columns.map piece)[i]? = some (piece c) := by rw [List.getElem?_map, hc]; rfl
  rw [bordered, columnStart, ← sum_pieces hbefore, List.map_take, List.drop_succ_cons,
    ← fills c (List.mem_of_getElem? hc), Text.take_drop_intercalate hpiece]

/-- A line of a box: pieces that fill their columns, and no newline in it. -/
structure BoxLine (columns : List Series) (l : String) : Prop where
  filled : ∃ left mid right piece, l.toList = bordered left mid right columns piece ∧
    Fills columns piece
  plain : '\n' ∉ l.toList

theorem BoxLine.length_eq {l : String} (h : BoxLine columns l) (hne : columns ≠ []) :
    l.length = boxWidth columns := by
  obtain ⟨left, mid, right, piece, hchars, fills⟩ := h.filled
  rw [← String.length_toList, hchars, length_bordered hne fills]

theorem boxLine_of_bordered {l : String} (chars : l.toList = bordered left mid right columns piece)
    (fills : Fills columns piece) (borders : '\n' ∉ [left, mid, right])
    (plain : ∀ c ∈ columns, '\n' ∉ piece c) : BoxLine columns l := by
  refine ⟨⟨left, mid, right, piece, chars, fills⟩, ?_⟩
  obtain ⟨hleft, hmid, hright⟩ : '\n' ≠ left ∧ '\n' ≠ mid ∧ '\n' ≠ right := by
    simpa using borders
  have hjoined : '\n' ∉ [mid].intercalate (columns.map piece) :=
    Text.notMem_intercalate hmid (List.forall_mem_map.mpr plain)
  rw [chars, bordered]
  simp [hleft, hright, hjoined]

/-! ## Rules -/

theorem boxLine_rule {l m r : String} {c : Char} (hl : l.toList = [left]) (hm : m.toList = [mid])
    (hr : r.toList = [right]) (borders : '\n' ∉ [left, mid, right]) (hc : '\n' ≠ c) :
    BoxLine columns (rule l m r c (columns.map columnWidth)) := by
  have chars : (rule l m r c (columns.map columnWidth)).toList =
      bordered left mid right columns fun s => List.replicate (columnWidth s + 2) c := by
    rw [rule, String.toList_append, String.toList_append, String.toList_intercalate, List.map_map,
      List.map_map, hl, hm, hr]
    simp [bordered, Function.comp_def]
  refine boxLine_of_bordered chars (fun s _ => ?_) borders fun s _ => ?_
  · exact List.length_replicate
  · simp [hc]

/-! ## Lines of texts -/

variable {f : Series → String}

/-- Each column is wide enough for its text. -/
def Fits (columns : List Series) (f : Series → String) : Prop :=
  ∀ c ∈ columns, (f c).length ≤ columnWidth c

theorem toList_pad {width : Nat} {s : String} (h : s.length ≤ width) :
    (pad width s).toList = ' ' :: s.toList ++ List.replicate (width + 1 - s.length) ' ' := by
  have hspaces : width + 1 - s.length = width - s.length + 1 := by omega
  simp [pad, hspaces, List.replicate_succ']

theorem toList_line : (line (columns.map columnWidth) (columns.map f)).toList =
    bordered '│' '┆' '│' columns fun c => (pad (columnWidth c) (f c)).toList := by
  rw [line, List.zipWith_map, List.zipWith_self, String.toList_append, String.toList_append,
    String.toList_intercalate, List.map_map]
  rfl

theorem fills_pad (fits : Fits columns f) :
    Fills columns fun c => (pad (columnWidth c) (f c)).toList := by
  intro c hc
  have hfit : (f c).length ≤ columnWidth c := fits c hc
  change (pad (columnWidth c) (f c)).toList.length = columnWidth c + 2
  rw [toList_pad hfit, List.length_append, List.length_cons, String.length_toList,
    List.length_replicate]
  omega

theorem boxLine_line (fits : Fits columns f) (plain : ∀ c ∈ columns, '\n' ∉ (f c).toList) :
    BoxLine columns (line (columns.map columnWidth) (columns.map f)) := by
  refine boxLine_of_bordered toList_line (fills_pad fits) (by decide) fun c hc => ?_
  simp [pad, plain c hc]

/-- In the place of a column stands its text, with a space before it and spaces behind it. -/
theorem field_line (fits : Fits columns f) {i : Nat} {c : Series} (hc : columns[i]? = some c) :
    ((line (columns.map columnWidth) (columns.map f)).toList.drop (columnStart columns i)).take
        (columnWidth c + 2) =
      ' ' :: (f c).toList ++ List.replicate (columnWidth c + 1 - (f c).length) ' ' := by
  rw [toList_line, take_drop_bordered (fills_pad fits) hc,
    toList_pad (fits c (List.mem_of_getElem? hc))]

/-! ## The lines of a box -/

/-- The text of a column in the line of a row. -/
def rowText (r : Nat) (c : Series) : String := ((texts c)[r]?).getD ""

/-- No name and no text of a cell holds a newline. -/
def PlainTexts (columns : List Series) : Prop :=
  ∀ c ∈ columns, '\n' ∉ c.name.toList ∧ ∀ x ∈ c.cells, '\n' ∉ x.display.toList

theorem rowText_eq {r : Nat} {c : Series} {x : Cell} (h : c.cells[r]? = some x) :
    rowText r c = x.display := by
  rw [rowText, texts, List.getElem?_map, h]
  rfl

theorem rowText_cases (r : Nat) (c : Series) :
    rowText r c = "" ∨ ∃ x ∈ c.cells, rowText r c = x.display := by
  cases h : c.cells[r]? with
  | none => exact .inl (by rw [rowText, texts, List.getElem?_map, h]; rfl)
  | some x => exact .inr ⟨x, List.mem_of_getElem? h, rowText_eq h⟩

theorem boxLine_names (plain : PlainTexts columns) :
    BoxLine columns (line (columns.map columnWidth) (columns.map (·.name))) :=
  boxLine_line (fun c _ => le_columnWidth (by simp [measures])) fun c hc => (plain c hc).1

theorem boxLine_marks :
    BoxLine columns (line (columns.map columnWidth) (columns.map fun _ => "---")) :=
  boxLine_line (fun c _ => le_columnWidth (List.mem_cons_self : 3 ∈ measures c)) fun _ _ => by
    decide

theorem boxLine_types :
    BoxLine columns (line (columns.map columnWidth) (columns.map fun c => c.dtype.name)) :=
  boxLine_line (fun c _ => le_columnWidth (by simp [measures])) fun c _ => by
    cases c.dtype <;> decide

theorem fits_rowText (r : Nat) : Fits columns (rowText r) := by
  intro c _
  obtain h | ⟨x, hx, h⟩ := rowText_cases r c
  · rw [h]
    exact Nat.zero_le _
  · rw [h]
    have hcell : x.display.length ∈ c.cells.map fun y => y.display.length :=
      List.mem_map.mpr ⟨x, hx, rfl⟩
    exact le_columnWidth (.tail _ (List.mem_append_left _ hcell))

theorem boxLine_row (plain : PlainTexts columns) (r : Nat) :
    BoxLine columns (line (columns.map columnWidth) (columns.map (rowText r))) := by
  refine boxLine_line (fits_rowText r) fun c hc => ?_
  obtain h | ⟨x, hx, h⟩ := rowText_cases r c
  · rw [h]
    decide
  · rw [h]
    exact (plain c hc).2 x hx

theorem boxLines_eq (t : Table) : boxLines t =
    [rule "┌" "┬" "┐" '─' (t.columns.map columnWidth),
      line (t.columns.map columnWidth) (t.columns.map (·.name)),
      line (t.columns.map columnWidth) (t.columns.map fun _ => "---"),
      line (t.columns.map columnWidth) (t.columns.map fun c => c.dtype.name),
      rule "╞" "╪" "╡" '═' (t.columns.map columnWidth)] ++
    (List.range t.height).map (fun r =>
      line (t.columns.map columnWidth) (t.columns.map (rowText r))) ++
    [rule "└" "┴" "┘" '─' (t.columns.map columnWidth)] := by
  simp only [boxLines, List.map_map, Function.comp_def]
  rfl

theorem boxLine_of_mem {t : Table} (plain : PlainTexts t.columns) {l : String}
    (h : l ∈ boxLines t) : BoxLine t.columns l := by
  rw [boxLines_eq, List.mem_append, List.mem_append, List.mem_map, List.mem_singleton] at h
  obtain (h | ⟨r, -, rfl⟩) | rfl := h
  · simp only [List.mem_cons, List.not_mem_nil, or_false] at h
    obtain rfl | rfl | rfl | rfl | rfl := h
    · exact boxLine_rule rfl rfl rfl (by decide) (by decide)
    · exact boxLine_names plain
    · exact boxLine_marks
    · exact boxLine_types
    · exact boxLine_rule rfl rfl rfl (by decide) (by decide)
  · exact boxLine_row plain r
  · exact boxLine_rule rfl rfl rfl (by decide) (by decide)

/-- The line of a row stands behind the five lines of the header. -/
theorem getElem?_boxLines {t : Table} {r : Nat} (h : r < t.height) : (boxLines t)[r + 5]? =
    some (line (t.columns.map columnWidth) (t.columns.map (rowText r))) := by
  rw [boxLines_eq]
  simp [List.getElem?_append, h]

theorem newline_notMem_shapeLine (t : Table) : '\n' ∉ (shapeLine t).toList := by
  have digits (n : Nat) : '\n' ∉ Nat.toDigits 10 n := by
    intro h
    exact absurd (Nat.isDigit_of_mem_toDigits (by decide) (by decide) h) (by decide)
  simp [shapeLine, digits]

/-- Lines without a newline in them are the lines of the text that they make. -/
theorem textLines_intercalate {lines : List String} (hne : lines ≠ [])
    (h : ∀ l ∈ lines, '\n' ∉ l.toList) : textLines ("\n".intercalate lines) = lines := by
  have hchars : lines.map String.toList ≠ [] := fun hnil => hne (List.map_eq_nil_iff.mp hnil)
  have hfields : Text.fields '\n' (['\n'].intercalate (lines.map String.toList)) =
      lines.map String.toList :=
    Text.fields_intercalate hchars (List.forall_mem_map.mpr h)
  rw [textLines, String.toList_intercalate]
  refine (congrArg (List.map String.ofList) hfields).trans ?_
  rw [List.map_map]
  simp [Function.comp_def]

/-! ## The box -/

/-- **A table with columns is drawn as a rectangle.** If no name and no text of a cell holds a newline,
the table is drawn as the line of its shape and `height + 6` lines of one length. A column takes the
greatest of its `measures` and three characters more, and in the line of a row its place is filled with
a space, the text of its cell, and spaces. -/
theorem render_box {t : Table} (wf : t.WellFormed) (hne : t.columns ≠ [])
    (plain : PlainTexts t.columns) :
    ∃ box : List String, textLines (render t) = shapeLine t :: box ∧ box.length = t.height + 6 ∧
      (∀ l ∈ box, l.length = boxWidth t.columns) ∧
      (∀ c ∈ t.columns, (measures c).max? = some (columnWidth c)) ∧
      ∀ r i c, r < t.height → t.columns[i]? = some c →
        ∃ l x, box[r + 5]? = some l ∧ c.cells[r]? = some x ∧
          (l.toList.drop (columnStart t.columns i)).take (columnWidth c + 2) =
            ' ' :: x.display.toList ++
              List.replicate (columnWidth c + 1 - x.display.length) ' ' := by
  have hlines : ∀ l ∈ shapeLine t :: boxLines t, '\n' ∉ l.toList := by
    refine List.forall_mem_cons.mpr ⟨newline_notMem_shapeLine t, fun l hl => ?_⟩
    exact (boxLine_of_mem plain hl).plain
  have hrender : render t = "\n".intercalate (shapeLine t :: boxLines t) := by
    simp [render, hne]
  refine ⟨boxLines t, ?_, ?_, ?_, fun c _ => max?_measures c, ?_⟩
  · rw [hrender, textLines_intercalate (List.cons_ne_nil _ _) hlines]
  · simp [boxLines_eq]
  · intro l hl
    exact (boxLine_of_mem plain hl).length_eq hne
  · intro r i c hr hc
    have hlength : c.cells.length = t.height := (wf.1 c (List.mem_of_getElem? hc)).1
    have hcell : c.cells[r]? = some c.cells[r] := List.getElem?_eq_getElem (hlength ▸ hr)
    refine ⟨_, c.cells[r], getElem?_boxLines hr, hcell, ?_⟩
    rw [field_line (fits_rowText r) hc, rowText_eq hcell]

/-- A table with texts of more bytes than characters, a null and an empty text. -/
def stallTable : Table :=
  ⟨[⟨"größe", .str, [.str "🍏🍏🍏🍏🍏🍏", .str "", .null]⟩,
    ⟨"o", .bool, [.bool true, .bool false, .null]⟩], 3⟩

theorem render_box_stalls : stallTable.WellFormed ∧ stallTable.columns ≠ [] ∧
    PlainTexts stallTable.columns ∧
    ∃ box : List String, textLines (render stallTable) = shapeLine stallTable :: box ∧
      box.length = stallTable.height + 6 ∧
      (∀ l ∈ box, l.length = boxWidth stallTable.columns) ∧
      (∀ c ∈ stallTable.columns, (measures c).max? = some (columnWidth c)) ∧
      ∀ r i c, r < stallTable.height → stallTable.columns[i]? = some c →
        ∃ l x, box[r + 5]? = some l ∧ c.cells[r]? = some x ∧
          (l.toList.drop (columnStart stallTable.columns i)).take (columnWidth c + 2) =
            ' ' :: x.display.toList ++
              List.replicate (columnWidth c + 1 - x.display.length) ' ' := by
  have wf : stallTable.WellFormed := by
    refine ⟨?_, by decide⟩
    simp [stallTable, Series.length, SeriesTyped, CellHas]
  have hne : stallTable.columns ≠ [] := List.cons_ne_nil _ _
  have plain : PlainTexts stallTable.columns := by
    unfold PlainTexts
    decide
  exact ⟨wf, hne, plain, render_box wf hne plain⟩

end FramePlan.Table
