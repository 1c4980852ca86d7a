import FramePlan.Sql.Ast
import FramePlan.Text.Case

/-!
# What a select item is called, and whether it aggregates

An item without an alias is named after its leftmost column. An item is an aggregate if a call of an
aggregate function stands in it, where operands of `BETWEEN` and `IN` are not looked into.

Correspondence (program ↔ Lean):
  `leftmost_column`, `default_name`   ↔ `Expr.leftmost?`, `Expr.defaultName`
  `is_aggregate_name`, `is_aggregate` ↔ `aggregateNames`, `Expr.isAggregate`
-/
namespace FramePlan.Sql

/-- The name of a called function, in lower case. -/
def functionName (name : List Ident) : String := String.ofList (Text.lower (dotted name).toList)

mutual

/-- The first column that an expression names, reading from the left. -/
def Expr.leftmost? : Expr → Option String
  | .ident name => some name.value
  | .compound parts => parts.getLast?.map Ident.value
  | .binary _ l r => l.leftmost? <|> r.leftmost?
  | .unary _ e => e.leftmost?
  | .nested e => e.leftmost?
  | .cast e _ _ _ => e.leftmost?
  | .isNull e => e.leftmost?
  | .isNotNull e => e.leftmost?
  | .between e _ _ _ => e.leftmost?
  | .inList e _ _ => e.leftmost?
  | .case operand branches otherwise =>
    leftmostOptional? operand <|> leftmostCondition? branches <|> leftmostResult? branches <|>
      leftmostOptional? otherwise
  | .call _ args _ _ => args.leftmost?
  | .subquery _ => none
  | .literal _ => none
  | .foreign _ => none

def leftmostOptional? : Option Expr → Option String
  | none => none
  | some e => e.leftmost?

/-- The first column among the arguments of a call. -/
def Args.leftmost? : Args → Option String
  | .list _ args _ => leftmostArg? args
  | .bare => none
  | .query _ => none

/-- The first column among the conditions of a `CASE`. -/
def leftmostCondition? : List (Expr × Expr) → Option String
  | [] => none
  | (c, _) :: rest => c.leftmost? <|> leftmostCondition? rest

/-- The first column among the results of a `CASE`. -/
def leftmostResult? : List (Expr × Expr) → Option String
  | [] => none
  | (_, r) :: rest => r.leftmost? <|> leftmostResult? rest

def leftmostArg? : List Arg → Option String
  | [] => none
  | .expr e :: rest => e.leftmost? <|> leftmostArg? rest
  | .wildcard :: rest => leftmostArg? rest
  | .foreign _ :: rest => leftmostArg? rest

end

/-- The name of the column of an item without an alias: that of its leftmost column, the function's
    for a call on all rows, and `literal` if there is none. -/
def Expr.defaultName (e : Expr) : String :=
  match e with
  | .call name (.list _ [.wildcard] _) _ _ => functionName name
  | e => e.leftmost?.getD "literal"

/-- The aggregate functions. -/
def aggregateNames : List String := ["sum", "avg", "mean", "min", "max", "count", "first", "last"]

def Arg.isForeign : Arg → Bool
  | .foreign _ => true
  | _ => false

mutual

/-- An aggregate function is called somewhere in the expression. -/
def Expr.isAggregate : Expr → Bool
  | .call name args _ _ => aggregateNames.contains (functionName name) || args.isAggregate
  | .binary _ l r => l.isAggregate || r.isAggregate
  | .unary _ e => e.isAggregate
  | .nested e => e.isAggregate
  | .cast e _ _ _ => e.isAggregate
  | .isNull e => e.isAggregate
  | .isNotNull e => e.isAggregate
  | .case operand branches otherwise =>
    optionalAggregate operand || anyBranchAggregate branches || optionalAggregate otherwise
  | .ident _ => false
  | .compound _ => false
  | .literal _ => false
  | .between _ _ _ _ => false
  | .inList _ _ _ => false
  | .subquery _ => false
  | .foreign _ => false

/-- An aggregate function is called in one of the arguments, and all of them are understood. -/
def Args.isAggregate : Args → Bool
  | .list _ args _ => !args.any Arg.isForeign && anyArgAggregate args
  | .bare => false
  | .query _ => false

def optionalAggregate : Option Expr → Bool
  | none => false
  | some e => e.isAggregate

def anyBranchAggregate : List (Expr × Expr) → Bool
  | [] => false
  | (c, r) :: rest => c.isAggregate || r.isAggregate || anyBranchAggregate rest

def anyArgAggregate : List Arg → Bool
  | [] => false
  | .expr e :: rest => e.isAggregate || anyArgAggregate rest
  | .wildcard :: rest => anyArgAggregate rest
  | .foreign _ :: rest => anyArgAggregate rest

end

end FramePlan.Sql
