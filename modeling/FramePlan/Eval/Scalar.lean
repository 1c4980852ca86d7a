import FramePlan.Eval.Order

/-!
# Operators on series

The unary and binary operators and the casts, cell by cell. A cell operation has no result, null,
where an operand is null or integer arithmetic leaves its range; the logical operators are the
three-valued ones. Whether an operator applies at all depends on the types of the series alone.

The operands of a binary operator are brought to one length, and the result is named after the left
one, unless that is a literal and the right one is not.

Correspondence (program ↔ Lean):
  `unary`, `binary`, `align`   ↔ `unary`, `binary`, `align`
  `arith_dtype`, `comparable`  ↔ `arithType`, `comparable`
  `arith`, `compare`, `kleene` ↔ `arith`, `comparison`, `connective`
  `cast`                       ↔ `cast`, `castCell`
-/
namespace FramePlan.Eval

/-! ## Unary operators -/

def notCell : Cell → Cell
  | .bool b => .bool !b
  | c => c

def negCell : Cell → Cell
  | .int i => Cell.ofInt? (Integer.neg? i)
  | .float x => .float x.neg
  | c => c

def unary (op : UnaryOp) (s : Series) : Outcome Series :=
  match op with
  | .isNull => .ok ⟨s.name, .bool, s.cells.map fun c => .bool c.isNull⟩
  | .isNotNull => .ok ⟨s.name, .bool, s.cells.map fun c => .bool !c.isNull⟩
  | .not =>
    if s.dtype = .bool ∨ s.dtype = .null then .ok ⟨s.name, .bool, s.cells.map notCell⟩
    else .error (.unaryType op s.dtype)
  | .neg =>
    if s.dtype.isNumeric ∨ s.dtype = .null then
      .ok ⟨s.name, if s.dtype = .u32 then .i64 else s.dtype, s.cells.map negCell⟩
    else .error (.unaryType op s.dtype)

/-! ## Binary operators on cells -/

/-- Integer arithmetic, where the exact result is a word. -/
def intArith (op : BinaryOp) (x y : Int64) : Option Int64 :=
  match op with
  | .add => Integer.add? x y
  | .sub => Integer.sub? x y
  | .mul => Integer.mul? x y
  | .div => Integer.floorDiv? x y
  | _ => Integer.floorMod? x y

def floatArith (op : BinaryOp) (x y : Binary64) : Binary64 :=
  match op with
  | .add => x.add y
  | .sub => x.sub y
  | .mul => x.mul y
  | .div => x.div y
  | _ => x.mod y

/-- Arithmetic on cells: texts are put together, integers stay integers, and an integer with a
    number becomes a number. -/
def arith (op : BinaryOp) : Cell → Cell → Cell
  | .null, _ => .null
  | _, .null => .null
  | .str s, .str t => .str (s ++ t)
  | .int x, .int y => Cell.ofInt? (intArith op x y)
  | a, b =>
    match a.asFloat?, b.asFloat? with
    | some x, some y => .float (floatArith op x y)
    | _, _ => .null

/-- The comparison holds of an order. -/
def holds (op : BinaryOp) (o : Ordering) : Bool :=
  match op with
  | .eq => o == .eq
  | .notEq => o != .eq
  | .gt => o == .gt
  | .gtEq => o != .lt
  | .lt => o == .lt
  | _ => o != .gt

def comparison (op : BinaryOp) (a b : Cell) : Cell :=
  if a.isNull || b.isNull then .null else .bool (holds op (compareCells a b))

/-- The truth value of a cell, if it has one. -/
def truth? : Cell → Option Bool
  | .bool b => some b
  | _ => none

def conjunction : Option Bool → Option Bool → Option Bool
  | some false, _ => some false
  | _, some false => some false
  | some true, some true => some true
  | _, _ => none

def disjunction : Option Bool → Option Bool → Option Bool
  | some true, _ => some true
  | _, some true => some true
  | some false, some false => some false
  | _, _ => none

/-- The three-valued connectives: unknown where the known operands do not decide. -/
def connective (op : BinaryOp) (a b : Cell) : Cell :=
  let r := match op with
    | .and => conjunction (truth? a) (truth? b)
    | _ => disjunction (truth? a) (truth? b)
  (r.map .bool).getD .null

/-! ## Binary operators on series -/

/-- The classes of binary operators. -/
inductive Family
  | arithmetic
  | comparison
  | connective
  deriving DecidableEq

def family : BinaryOp → Family
  | .add => .arithmetic
  | .sub => .arithmetic
  | .mul => .arithmetic
  | .div => .arithmetic
  | .mod => .arithmetic
  | .and => .connective
  | .or => .connective
  | _ => .comparison

/-- The type of an arithmetic result. Texts can only be added; counts stay counts unless they are
    subtracted. -/
def arithType (op : BinaryOp) (a b : Dtype) : Outcome Dtype :=
  if a = .null ∧ b = .null then .ok .i64
  else if a = .null ∧ b.isNumeric then .ok b
  else if b = .null ∧ a.isNumeric then .ok a
  else if op = .add ∧ (a = .str ∨ a = .null) ∧ (b = .str ∨ b = .null) then .ok .str
  else if a = .u32 ∧ b = .u32 ∧ op ≠ .sub then .ok .u32
  else if a.isInteger ∧ b.isInteger then .ok .i64
  else if a.isNumeric ∧ b.isNumeric then .ok .f64
  else .error (.binaryTypes op a b)

def isTruthType (d : Dtype) : Bool := d == .bool || d == .null

def comparable (a b : Dtype) : Bool :=
  a == .null || b == .null || a == b || (a.isNumeric && b.isNumeric)

/-- The type of the result of an operator on two types. -/
def resultType (op : BinaryOp) (a b : Dtype) : Outcome Dtype :=
  match family op with
  | .arithmetic => arithType op a b
  | .connective => if isTruthType a && isTruthType b then .ok .bool else .error (.binaryTypes op a b)
  | .comparison => if comparable a b then .ok .bool else .error (.binaryTypes op a b)

/-- An operator on two cells. -/
def cellOp (op : BinaryOp) : Cell → Cell → Cell :=
  match family op with
  | .arithmetic => arith op
  | .connective => connective op
  | .comparison => comparison op

/-- The name of a result of two series. -/
def resultName (l r : Series) : String :=
  if l.name = "literal" ∧ r.name ≠ "literal" then r.name else l.name

/-- Two series at one length: a single cell goes with any length. -/
def align (l r : Series) : Outcome (Series × Series) := do
  let n := if l.length = 1 then r.length else l.length
  let l ← l.broadcast n
  let r ← r.broadcast n
  pure (l, r)

def binary (op : BinaryOp) (l r : Series) : Outcome Series := do
  let (l, r) ← align l r
  let dtype ← resultType op l.dtype r.dtype
  pure ⟨resultName l r, dtype, coerce dtype (l.cells.zipWith (cellOp op) r.cells)⟩

/-! ## Casts -/

/-- A text without the blanks at its ends. -/
def trimmed (s : String) : List Char := Text.trim s.toList

def castInt : Cell → Cell
  | .int i => .int i
  | .float x => if x.isFinite then .int (Integer.clamp x.truncate) else .null
  | .bool b => .int (if b then 1 else 0)
  | .str s => Cell.ofInt? (Integer.ofChars? (trimmed s))
  | _ => .null

def castFloat : Cell → Cell
  | .int i => .float (Binary64.ofInt i.toInt)
  | .float x => .float x
  | .bool b => .float (Binary64.ofInt (if b then 1 else 0))
  | .str s => ((Binary64.ofChars? (trimmed s)).map .float).getD .null
  | _ => .null

def castBool : Cell → Cell
  | .bool b => .bool b
  | .int i => .bool (i != 0)
  | .float x => .bool !x.isZero
  | .str s => if s = "true" then .bool true else if s = "false" then .bool false else .null
  | _ => .null

def castText : Cell → Cell
  | .null => .null
  | c => .str c.display

/-- A cell in another type, null if it has no counterpart there. -/
def castCell : DataType → Cell → Cell
  | .int64 => castInt
  | .float64 => castFloat
  | .boolean => castBool
  | .utf8 => castText

def cast (s : Series) (target : DataType) : Series :=
  ⟨s.name, Dtype.ofDataType target, s.cells.map (castCell target)⟩

end FramePlan.Eval
