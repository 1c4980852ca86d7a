import FramePlan.Eval.Expr
import FramePlan.Proofs.Eval.SeriesTyping
import FramePlan.Proofs.Text.Decimal

/-!
# Casts that change nothing

A cast gives cells of its target type, whatever it is given (`has_castCell`), and it leaves a cell that has
this type already (`castCell_of_has`). So a series of the target type stays as it is (`cast_of_typed`), and
a cast that is made twice might as well be made once, in an expression too (`eval_cast_cast`).

Other casts lose something, but an integer and a truth value are told by their texts: the text of a word is
read as the word, and `true` and `false` as what they say. So a series of these goes to texts and back
unchanged (`cast_back_of_int`, `cast_back_of_bool`).
-/
namespace FramePlan.Eval

open Table

variable {s : Series} {x : Cell} {target : DataType}

/-! ## Casts to the type at hand -/

theorem castCell_of_has (h : CellHas (Dtype.ofDataType target) x) : castCell target x = x := by
  cases target with
  | int64 =>
    cases x with
    | int i => rfl
    | null => rfl
    | _ => cases h
  | float64 =>
    cases x with
    | float f => rfl
    | null => rfl
    | int i => obtain h | h := h <;> cases h
    | _ => cases h
  | utf8 =>
    cases x with
    | str t => rfl
    | null => rfl
    | int i => obtain h | h := h <;> cases h
    | _ => cases h
  | boolean =>
    cases x with
    | bool b => rfl
    | null => rfl
    | int i => obtain h | h := h <;> cases h
    | _ => cases h

theorem cast_of_typed (hs : SeriesTyped s) (hd : s.dtype = Dtype.ofDataType target) : cast s target = s := by
  have hcells : s.cells.map (castCell target) = s.cells :=
    (List.map_congr_left fun c hc => castCell_of_has (hd ▸ hs c hc)).trans (List.map_id' _)
  rw [cast, hcells, ← hd]

theorem typed_cast (s : Series) (target : DataType) : SeriesTyped (cast s target) := by
  intro c hc
  obtain ⟨b, -, rfl⟩ := List.mem_map.mp hc
  exact has_castCell target b

theorem cast_cast (s : Series) (target : DataType) : cast (cast s target) target = cast s target :=
  cast_of_typed (typed_cast s target) rfl

theorem eval_cast_cast [Sql.Reader] (e : Expr) (target : DataType) (t : Table) :
    (Expr.cast (.cast e target) target).eval t = (Expr.cast e target).eval t := by
  cases h : e.eval t with
  | error fault => simp only [Expr.eval, h, error_bind]
  | ok s => simp only [Expr.eval, h, ok_bind, pure_eq_ok, cast_cast]

/-! ## Casts to texts and back -/

/-- The word that a decimal text stands for is the word that the text was made of. -/
theorem castInt_castText (h : CellHas .i64 x) : castInt (castText x) = x := by
  cases x with
  | int i =>
    have hcast : castInt (castText (.int i)) =
        Cell.ofInt? (Integer.ofChars? (Text.trim (Integer.toText i).toList)) := rfl
    rw [hcast, Integer.ofChars?_trim_toText]
    rfl
  | null => rfl
  | _ => cases h

theorem castBool_castText (h : CellHas .bool x) : castBool (castText x) = x := by
  cases x with
  | bool b => cases b <;> decide
  | null => rfl
  | int i => obtain h | h := h <;> cases h
  | _ => cases h

/-- Two casts, of which the second undoes the first cell by cell, leave a series of the second's type. -/
theorem cast_back {through : DataType} (hs : SeriesTyped s) (hd : s.dtype = Dtype.ofDataType target)
    (h : ∀ c, CellHas (Dtype.ofDataType target) c → castCell target (castCell through c) = c) :
    cast (cast s through) target = s := by
  have hcells : (s.cells.map (castCell through)).map (castCell target) = s.cells := by
    rw [List.map_map]
    exact (List.map_congr_left fun c hc => h c (hd ▸ hs c hc)).trans (List.map_id' _)
  rw [cast, cast, hcells, ← hd]

theorem cast_back_of_int (hs : SeriesTyped s) (hd : s.dtype = .i64) : cast (cast s .utf8) .int64 = s :=
  cast_back hs hd fun _ => castInt_castText

theorem cast_back_of_bool (hs : SeriesTyped s) (hd : s.dtype = .bool) : cast (cast s .utf8) .boolean = s :=
  cast_back hs hd fun _ => castBool_castText

/-- **A cast settles at once, and integers and truth values survive a cast to texts.** Casting twice to a
type is casting once. A typed series of integers, or of truth values, cast to texts and back is the series
as it was: its cells and nulls, its name and its type. -/
theorem casts_settle (s : Series) :
    (∀ target : DataType, cast (cast s target) target = cast s target) ∧
    (SeriesTyped s → s.dtype = .i64 → cast (cast s .utf8) .int64 = s) ∧
    (SeriesTyped s → s.dtype = .bool → cast (cast s .utf8) .boolean = s) :=
  ⟨cast_cast s, cast_back_of_int, cast_back_of_bool⟩

/-- The least and the largest word, and a null. -/
theorem casts_settle_limits :
    SeriesTyped ⟨"depth", .i64, [.int Int64.minValue, .null, .int Int64.maxValue]⟩ ∧
    cast ⟨"depth", .i64, [.int Int64.minValue, .null, .int Int64.maxValue]⟩ .utf8 =
      ⟨"depth", .str, [.str "-9223372036854775808", .null, .str "9223372036854775807"]⟩ ∧
    cast ⟨"depth", .str, [.str "-9223372036854775808", .null, .str "9223372036854775807"]⟩ .int64 =
      ⟨"depth", .i64, [.int Int64.minValue, .null, .int Int64.maxValue]⟩ := by
  have htyped : SeriesTyped ⟨"depth", .i64, [.int Int64.minValue, .null, .int Int64.maxValue]⟩ := by
    simp [SeriesTyped, CellHas]
  have htexts : cast ⟨"depth", .i64, [.int Int64.minValue, .null, .int Int64.maxValue]⟩ .utf8 =
      ⟨"depth", .str, [.str "-9223372036854775808", .null, .str "9223372036854775807"]⟩ := by
    decide
  obtain ⟨-, hback, -⟩ :=
    casts_settle ⟨"depth", .i64, [.int Int64.minValue, .null, .int Int64.maxValue]⟩
  refine ⟨htyped, htexts, ?_⟩
  rw [← htexts]
  exact hback htyped rfl

end FramePlan.Eval
