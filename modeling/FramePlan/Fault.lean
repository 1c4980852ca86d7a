import FramePlan.Error
import FramePlan.Expr.Operator
import FramePlan.Table.Cell

/-!
# Faults of evaluation

Why a plan has no table. Each fault is a cause with what it is about; `Fault.kind` is its class and
`Fault.message` its text. `Fault.toError` is how it looks from outside: a faulty join specification
is an error of its own, and everything else is a failure of the engine.

`Fault.overflow` is the end of a computation in words whose next step has no word for its result. It is
not an error that the computation answers with, so nothing that passes over errors passes over it
(`attempt`).

Correspondence (program ↔ Lean):
  `fail` with its class and text             ↔ `Fault`, `Fault.kind`, `Fault.message`
  `sql_err`                                  ↔ `SqlFault.message`
  an integer overflow that stops the program ↔ `Fault.overflow`
-/
namespace FramePlan

/-- What a query text asks for that is not supported, or asks for wrongly. -/
inductive SqlFault
  | unparsable (message : String)
  | statementCount (n : Nat)
  | queryBody (text : String)
  | notSelect (text : String)
  | fragmentItems (text : String) (n : Nat)
  | selectItem (text : String)
  | aggregateItem (text : String)
  | distinct
  | noInput
  | unknownTable (text : String)
  | joins
  | groupByAll
  | orderPosition (text : String)
  | orderRange (position : Nat)
  | limitValue (text : String)
  | limitLiteral (text : String)
  | castTarget (text : String)
  | operator (text : String)
  | number (text : String)
  | literal (text : String)
  | argument (text : String)
  | windowFunction
  | subqueryArguments
  | oneArgument (name : String)
  | coalesceStar
  | coalesceEmpty
  | function (name : String)
  | expression (text : String)
  deriving DecidableEq

def SqlFault.message : SqlFault → String
  | .unparsable message => message
  | .statementCount n => "expected one statement, got " ++ toString n
  | .queryBody text => "unsupported query body: " ++ text
  | .notSelect text => "only SELECT is supported, got: " ++ text
  | .fragmentItems text n =>
    "expected one expression in " ++ Text.quote text ++ ", got " ++ toString n
  | .selectItem text => "unsupported select item: " ++ text
  | .aggregateItem text => "unsupported select item in aggregation: " ++ text
  | .distinct => "DISTINCT is not supported"
  | .noInput => "no input bound to table df"
  | .unknownTable text => "unknown table: " ++ text
  | .joins => "joins in SQL are not supported"
  | .groupByAll => "GROUP BY ALL is not supported"
  | .orderPosition text => "invalid ORDER BY position: " ++ text
  | .orderRange position => "ORDER BY position " ++ toString position ++ " out of range"
  | .limitValue text => "invalid LIMIT value: " ++ text
  | .limitLiteral text => "LIMIT must be an integer literal, got " ++ text
  | .castTarget text => "unsupported CAST target type: " ++ text
  | .operator text => "unsupported operator: " ++ text
  | .number text => "invalid number: " ++ text
  | .literal text => "unsupported literal: " ++ text
  | .argument text => "unsupported function argument: " ++ text
  | .windowFunction => "window functions in SQL are not supported"
  | .subqueryArguments => "subquery arguments are not supported"
  | .oneArgument name => name ++ "() takes exactly one argument"
  | .coalesceStar => "coalesce(*) is not valid"
  | .coalesceEmpty => "coalesce() needs an argument"
  | .function name => "unsupported function: " ++ name
  | .expression text => "unsupported expression: " ++ text

/-- What is wrong with a delimited text file. -/
inductive FileFault
  | missing
  | zeroInName
  | notUtf8
  | empty
  | fieldCount (record found expected : Nat)
  deriving DecidableEq

def FileFault.message : FileFault → String
  | .missing => "No such file or directory (os error 2)"
  | .zeroInName => "file name contained an unexpected NUL byte"
  | .notUtf8 => "stream did not contain valid UTF-8"
  | .empty => "empty file"
  | .fieldCount record found expected =>
    "record " ++ toString record ++ " has " ++ toString found ++ " fields, expected " ++
      toString expected

inductive Fault
  | emptyPlan
  | sourceExpected (operation : String)
  | sourceWithin (operation : String)
  | patternReplace
  | badJoin (fault : JoinSpec.Fault)
  | columnMissing (name : String)
  | mixedValues (column : String) (a b : Dtype)
  | predicateType (d : Dtype)
  | keyTypes (left : String) (leftType : Dtype) (right : String) (rightType : Dtype)
  | incompatible (a b : Dtype)
  | unaryType (op : UnaryOp) (d : Dtype)
  | binaryTypes (op : BinaryOp) (a b : Dtype)
  | textExpected (op : StrOp) (d : Dtype)
  | aggregateType (op : AggOp) (d : Dtype) (column : String)
  | rowCount (column : String) (rows expected : Nat)
  | duplicateColumn (name : String)
  | overrides (count width : Nat)
  | groupValues (column : String) (count : Nat)
  | namesDiffer (top bottom : List String)
  | file (path : String) (fault : FileFault)
  | sql (fault : SqlFault)
  | overflow
  deriving DecidableEq

/-- What evaluation gives: a result, or the reason why there is none. -/
abbrev Outcome := Except Fault

/-- What a computation gives, if its fault does not matter. An overflow stops it all the same. -/
def attempt {α : Type} : Outcome α → Outcome (Option α)
  | .ok a => .ok (some a)
  | .error .overflow => .error .overflow
  | .error _ => .ok none

namespace Fault

def kind : Fault → EngineErrorKind
  | .emptyPlan => .plan
  | .sourceExpected _ => .plan
  | .sourceWithin _ => .plan
  | .patternReplace => .plan
  | .badJoin _ => .plan
  | .columnMissing _ => .column
  | .mixedValues _ _ _ => .type
  | .predicateType _ => .type
  | .keyTypes _ _ _ _ => .type
  | .incompatible _ _ => .type
  | .unaryType _ _ => .type
  | .binaryTypes _ _ _ => .type
  | .textExpected _ _ => .type
  | .aggregateType _ _ _ => .type
  | .rowCount _ _ _ => .schema
  | .duplicateColumn _ => .schema
  | .overrides _ _ => .schema
  | .groupValues _ _ => .schema
  | .namesDiffer _ _ => .schema
  | .file _ _ => .io
  | .sql _ => .sql
  | .overflow => .internal

/-- The name of a unary operator in messages. -/
def unaryName : UnaryOp → String
  | .not => "Not"
  | .neg => "Neg"
  | .isNull => "IsNull"
  | .isNotNull => "IsNotNull"

def message : Fault → String
  | .emptyPlan => "empty plan"
  | .sourceExpected operation => "plan must start with a source, got " ++ operation
  | .sourceWithin operation => operation ++ " can only start a plan"
  | .patternReplace => "pattern replacement is not supported, use a literal replace"
  | .badJoin fault => fault.message
  | .columnMissing name => "column not found: " ++ name
  | .mixedValues column a b =>
    "column " ++ column ++ ": mixed value types " ++ a.name ++ " and " ++ b.name
  | .predicateType d => "filter predicate must be bool, got " ++ d.name
  | .keyTypes left leftType right rightType =>
    "join key " ++ left ++ " (" ++ leftType.name ++ ") cannot match " ++ right ++ " (" ++
      rightType.name ++ ")"
  | .incompatible a b => "incompatible types " ++ a.name ++ " and " ++ b.name
  | .unaryType op d => "cannot apply " ++ unaryName op ++ " to " ++ d.name
  | .binaryTypes op a b => "cannot apply " ++ op.symbol ++ " to " ++ a.name ++ " and " ++ b.name
  | .textExpected op d => "str." ++ op.name ++ " expects str, got " ++ d.name
  | .aggregateType op d column => op.name ++ " of " ++ d.name ++ " column " ++ column
  | .rowCount column rows expected =>
    "column " ++ column ++ " has " ++ toString rows ++ " rows, expected " ++ toString expected
  | .duplicateColumn name => "duplicate column name: " ++ name
  | .overrides count width =>
    toString count ++ " dtype overrides for " ++ toString width ++ " columns"
  | .groupValues column count =>
    "aggregation " ++ column ++ " produced " ++ toString count ++ " values for one group"
  | .namesDiffer top bottom =>
    "concat: column names differ: " ++ Text.quoteList top ++ " vs " ++ Text.quoteList bottom
  | .file path fault => path ++ ": " ++ fault.message
  | .sql fault => fault.message
  | .overflow => "arithmetic overflow"

def toError : Fault → Error
  | .badJoin fault => .badJoin fault
  | fault => .engine fault.kind fault.message

end Fault
end FramePlan
