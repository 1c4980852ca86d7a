import FramePlan.Table.Basic
import FramePlan.Text.Case
import FramePlan.Text.Blank
import FramePlan.Text.Search
import FramePlan.Text.Utf8

/-!
# Functions of texts

The text functions, cell by cell. Offsets, lengths and widths count characters, and a negative
offset or count is taken from the end. Cells that are no texts give null.

Correspondence (program ↔ Lean):
  `char_slice`, `head`, `tail` ↔ `charSlice`, `head`, `tail`
  `pad`, `zfill`, `strip_set`  ↔ `padStart` and `padEnd`, `zfill`, `inSet`
  `str_cell`, `string`         ↔ `textCell`, `string`
-/
namespace FramePlan.Eval

/-- The characters from an offset on, a given number of them at most. -/
def charSlice (offset : Int) (length : Option Nat) (cs : List Char) : List Char :=
  let n : Int := cs.length
  let start := if offset < 0 then max (n + offset) 0 else min offset n
  let rest := cs.drop start.toNat
  match length with
  | none => rest
  | some k => rest.take k

/-- How many of `total` characters a count keeps: so many, or all but so many if it is negative. -/
def kept (total : Nat) (count : Int) : Nat :=
  (if 0 ≤ count then min count total else max (total + count) 0).toNat

def head (count : Int) (cs : List Char) : List Char := cs.take (kept cs.length count)
def tail (count : Int) (cs : List Char) : List Char := cs.drop (cs.length - kept cs.length count)

/-- What a text lacks to a width, in fill characters. -/
def filling (width : Nat) (fill : Char) (cs : List Char) : List Char :=
  List.replicate (width - cs.length) fill

def padStart (width : Nat) (fill : Char) (cs : List Char) : List Char := filling width fill cs ++ cs
def padEnd (width : Nat) (fill : Char) (cs : List Char) : List Char := cs ++ filling width fill cs

/-- Zeros up to a width, behind the sign if the text starts with one. -/
def zfill (width : Nat) (cs : List Char) : List Char :=
  match cs with
  | [] => padStart width '0' []
  | c :: rest =>
    if c = '-' ∨ c = '+' then c :: padStart (width - 1) '0' rest else padStart width '0' (c :: rest)

/-- The characters that a trimming set stands for: white space if it is empty. -/
def inSet (set : String) (c : Char) : Bool :=
  if set.isEmpty then Text.isBlank c else set.toList.contains c

/-- The pieces of a text between the separators; without a separator, its characters. -/
def splitText (separator cs : List Char) : List String :=
  if separator.isEmpty then cs.map String.singleton
  else (Text.pieces separator cs).map String.ofList

/-- A text without the given beginning, or as it is. -/
def stripStart (p cs : List Char) : List Char := (p.isPrefixOf? cs).getD cs

/-- A text without the given end, or as it is. -/
def stripEnd (p cs : List Char) : List Char := (p.isSuffixOf? cs).getD cs

/-- The result of a function on a text. -/
def textCell (op : StrOp) (s : String) : Outcome Cell :=
  let cs := s.toList
  let text (r : List Char) : Outcome Cell := .ok (.str (String.ofList r))
  match op with
  | .len => .ok (Cell.ofCount cs.length)
  | .lenBytes => .ok (Cell.ofCount (Text.Utf8.byteCount s))
  | .upper => text (Text.upper cs)
  | .lower => text (Text.lower cs)
  | .contains p => .ok (.bool (Text.occurs p.toList cs))
  | .slice offset length => text (charSlice offset.toInt (length.map UInt32.toNat) cs)
  | .replace _ _ false => .error .patternReplace
  | .replace p v true => text (Text.replaceAll p.toList v.toList cs)
  | .split separator => .ok (.list (splitText separator.toList cs))
  | .reverse => text cs.reverse
  | .head count => text (head count.toInt cs)
  | .tail count => text (tail count.toInt cs)
  | .padStart width fill => text (padStart width.toNat fill cs)
  | .padEnd width fill => text (padEnd width.toNat fill cs)
  | .zfill width => text (zfill width.toNat cs)
  | .stripStart p => text (stripStart p.toList cs)
  | .stripEnd p => text (stripEnd p.toList cs)
  | .trimBoth set => text (Text.dropBothWhile (inSet set) cs)
  | .trimStart set => text (cs.dropWhile (inSet set))
  | .trimEnd set => text (Text.dropRightWhile (inSet set) cs)

/-- The type of the results of a function. -/
def textType : StrOp → Dtype
  | .len => .u32
  | .lenBytes => .u32
  | .contains _ => .bool
  | .split _ => .listStr
  | _ => .str

/-- The result of a function on a cell. -/
def stringCell (op : StrOp) : Cell → Outcome Cell
  | .str s => textCell op s
  | _ => .ok .null

/-- A function of texts on a series of texts or of nulls. -/
def string (op : StrOp) (s : Series) : Outcome Series :=
  if s.dtype = .str ∨ s.dtype = .null then do
    let cells ← s.cells.mapM (stringCell op)
    pure ⟨s.name, textType op, cells⟩
  else .error (.textExpected op s.dtype)

end FramePlan.Eval
