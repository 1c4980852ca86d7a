import FramePlan.Eval.Aggregate
import FramePlan.Eval.Rows
import FramePlan.Eval.Scalar
import FramePlan.Eval.Texts
import FramePlan.Sql.Names

/-!
# Values of query expressions

What an expression of a query is over a table: a series, by the same operators, casts, aggregates
and text functions that expressions of plans have. Arguments of a call are evaluated before it is
known whether the function takes them, and their faults count only if it does.

Correspondence (program ↔ Lean):
  `expr`, `case`              ↔ `Expr.eval`, `caseSeries`
  `value`, `map_binary`       ↔ `Literal.value`, `Operator.meaning`
  `function_args`, `function` ↔ `Args.eval`, `applyFunction`
-/
namespace FramePlan.Sql

open FramePlan.Eval

/-- The value of a literal. A number that is no integer word is a binary64 number. -/
def Literal.value : Literal → Outcome Value
  | .number text _ =>
    match Integer.ofText? text with
    | some i => .ok (.int i)
    | none =>
      match Binary64.ofText? text with
      | some x => .ok (.float x)
      | none => .error (.sql (.number text))
  | .string s => .ok (.str s)
  | .bool b => .ok (.bool b)
  | .null => .ok .null
  | .other text => .error (.sql (.literal text))

/-- The operator of plans that an operator stands for. -/
def Operator.meaning : Operator → Outcome BinaryOp
  | .plain op => .ok op
  | .concat => .ok .add
  | .other symbol => .error (.sql (.operator symbol))

/-- The series under a sign. -/
def Sign.apply : Sign → Series → Outcome Series
  | .not, s => unary .not s
  | .minus, s => unary .neg s
  | .plus, s => .ok s

/-! ## Functions -/

/-- An evaluated argument of a call. -/
inductive Given
  | series (result : Outcome Series)
  | star
  | foreign (text : String)

/-- The arguments that were understood, or the fault of the first that was not. -/
def understood : List Given → Outcome (List Given)
  | [] => .ok []
  | .foreign text :: _ => .error (.sql (.argument text))
  | a :: rest => do
    let more ← understood rest
    pure (a :: more)

/-- The one argument of a function that takes one. -/
def single (name : String) : List Given → Outcome Series
  | [.series result] => result
  | _ => .error (.sql (.oneArgument name))

/-- The aggregate that a function name stands for. -/
def aggregateOf? (name : String) : Option AggOp :=
  if name = "count" then some .count
  else if name = "sum" then some .sum
  else if name = "avg" ∨ name = "mean" then some .mean
  else if name = "min" then some .min
  else if name = "max" then some .max
  else if name = "first" then some .first
  else if name = "last" then some .last
  else none

/-- The text function that a function name stands for. -/
def textOf? (name : String) : Option StrOp :=
  if name = "length" ∨ name = "char_length" ∨ name = "len" then some .len
  else if name = "octet_length" then some .lenBytes
  else if name = "upper" then some .upper
  else if name = "lower" then some .lower
  else if name = "reverse" then some .reverse
  else none

/-- The absolute value of a number; anything else stays. -/
def absCell : Cell → Cell
  | .int i => Cell.ofInt? (Integer.abs? i)
  | .float x => .float x.abs
  | c => c

/-- The cells of a series, with those of another one where they are null. -/
def fillNulls (out next : Series) : Outcome Series := do
  let dtype ← unify out.dtype next.dtype
  pure ⟨out.name, dtype, out.cells.zipWith Cell.orElse next.cells⟩

/-- The arguments of a call that takes no star, evaluated. -/
def seriesOnly : List Given → Outcome (List Series)
  | [] => .ok []
  | .series result :: rest => do
    let s ← result
    let more ← seriesOnly rest
    pure (s :: more)
  | _ :: _ => .error (.sql .coalesceStar)

/-- In each row the first cell that is not null. -/
def coalesce (height : Nat) (args : List Given) : Outcome Series := do
  match ← seriesOnly args with
  | [] => throw (.sql .coalesceEmpty)
  | first :: rest =>
    let start ← first.broadcast height
    let out ← rest.foldlM (fun out next => do fillNulls out (← next.broadcast height)) start
    pure { out with cells := coerce out.dtype out.cells }

/-- A function on its arguments, over a table of the given height. -/
def applyFunction (height : Nat) (name : String) (args : List Given) : Outcome Series :=
  match name, args with
  | "count", [.star] => .ok (.scalar "count" .u32 (Cell.ofCount height))
  | "coalesce", _ => coalesce height args
  | "abs", _ => do
    let s ← single name args
    pure { s with cells := s.cells.map absCell }
  | _, _ =>
    match aggregateOf? name, textOf? name with
    | some op, _ => do aggregate op (← single name args)
    | none, some op => do string op (← single name args)
    | none, none => .error (.sql (.function name))

/-! ## Cases, ranges and lists -/

/-- The test of a branch: its condition, or that the subject equals it. -/
def branchTest (subject : Option Series) (condition : Series) : Outcome Series :=
  match subject with
  | some s => binary .eq s condition
  | none => .ok condition

/-- The cell of a `CASE` in a row: that of the first branch whose test is true there. -/
def caseCell (branches : List (Series × Series)) (fallback : Series) (row : Nat) : Cell :=
  match branches.find? (fun b => b.1.cellAt row == .bool true) with
  | some b => b.2.cellAt row
  | none => fallback.cellAt row

/-- The series of a `CASE` over a table of the given height. -/
def caseSeries (height : Nat) (branches : List (Series × Series)) (fallback : Series) :
    Outcome Series := do
  let dtype ← branches.foldlM (fun d b => unify d b.2.dtype) fallback.dtype
  pure ⟨"literal", dtype, coerce dtype ((List.range height).map (caseCell branches fallback))⟩

/-- What a `CASE` without an `ELSE` is where no branch applies. -/
def noCase (height : Nat) : Series := ⟨"literal", .null, List.replicate height .null⟩

/-- The series, or its negation. -/
def negated (n : Bool) (s : Series) : Outcome Series := if n then unary .not s else .ok s

/-! ## Expressions -/

mutual

/-- The series of an expression over a table. -/
def Expr.eval (t : Table) : Expr → Outcome Series
  | .ident name => t.column name.value
  | .compound parts => t.column ((parts.getLast?.map Ident.value).getD "")
  | .literal l => l.value.map literal
  | .nested e => e.eval t
  | .binary op l r => do
    let op ← op.meaning
    let a ← l.eval t
    let b ← r.eval t
    binary op a b
  | .unary sign e => do sign.apply (← e.eval t)
  | .isNull e => do unary .isNull (← e.eval t)
  | .isNotNull e => do unary .isNotNull (← e.eval t)
  | .between e n low high => do
    let x ← e.eval t
    let above ← binary .gtEq x (← low.eval t)
    let below ← binary .ltEq x (← high.eval t)
    negated n (← binary .and above below)
  | .inList e items n => do
    let x ← e.eval t
    negated n (← anyEqual t x items (.scalar x.name .bool (.bool false)))
  | .cast e _ type _ => do
    let s ← e.eval t
    match type.target with
    | some target => pure (cast s target)
    | none => throw (.sql (.castTarget type.text))
  | .case operand branches otherwise => do
    let subject ← evalOptional t operand
    let pairs ← evalBranches t subject branches
    let fallback ← match ← evalOptional t otherwise with
      | some s => s.broadcast t.height
      | none => pure (noCase t.height)
    caseSeries t.height pairs fallback
  | .call name args windowed _ =>
    if windowed then .error (.sql .windowFunction)
    else do
      let given ← args.eval t
      applyFunction t.height (functionName name) given
  | .subquery text => .error (.sql (.expression text))
  | .foreign text => .error (.sql (.expression text))

def evalOptional (t : Table) : Option Expr → Outcome (Option Series)
  | none => .ok none
  | some e => do pure (some (← e.eval t))

/-- Whether a series equals one of the items, or what is found before them holds. -/
def anyEqual (t : Table) (x : Series) : List Expr → Series → Outcome Series
  | [], found => .ok found
  | e :: es, found => do
    let hit ← binary .eq x (← e.eval t)
    anyEqual t x es (← binary .or found hit)

/-- The tests and results of branches, at the height of the table. -/
def evalBranches (t : Table) (subject : Option Series) :
    List (Expr × Expr) → Outcome (List (Series × Series))
  | [] => .ok []
  | (c, r) :: rest => do
    let test ← branchTest subject (← c.eval t)
    let test ← test.broadcast t.height
    let result ← (← r.eval t).broadcast t.height
    let more ← evalBranches t subject rest
    pure ((test, result) :: more)

/-- The evaluated arguments of a call, if all of them are understood. -/
def Args.eval (t : Table) : Args → Outcome (List Given)
  | .bare => .ok []
  | .query _ => .error (.sql .subqueryArguments)
  | .list _ args _ => understood (evalArgs t args)

def evalArgs (t : Table) : List Arg → List Given
  | [] => []
  | .expr e :: rest => .series (e.eval t) :: evalArgs t rest
  | .wildcard :: rest => .star :: evalArgs t rest
  | .foreign text :: rest => .foreign text :: evalArgs t rest

end

end FramePlan.Sql
