import FramePlan.Eval.Group
import FramePlan.Eval.Order
import FramePlan.Sql.Eval

/-!
# Queries

A fragment is one select item over a table, and a query is a whole statement. A statement without
FROM runs over one row without columns, and its only table is `df`, the rows given to it.

A query filters, then groups or projects, then sorts its result and cuts it. It groups if it names
group keys or if one of its items aggregates; then an item that does not aggregate stands for the
first row of the group. HAVING has a meaning in a grouping alone.

Correspondence (program ↔ Lean):
  `parse_select`, `eval_fragment`, `query` ↔ `readSelect`, `evalFragment`, `query`
  `project_item`                           ↔ `Item.eval`
  `grouped`, `per_group`                   ↔ `grouped`, `perGroup`
  ORDER BY, LIMIT in `query`               ↔ `ordered`, `limited`
-/
namespace FramePlan.Sql

open FramePlan.Eval

/-- The name of the table that the rows at hand have in a query. -/
def inputTable : String := "df"

/-- A select item over a table. -/
def Item.eval (t : Table) : Item → Outcome Series
  | .unnamed e => do
    let s ← e.eval t
    pure (s.renamed e.defaultName)
  | .named e name => do
    let s ← e.eval t
    pure (s.renamed name.value)
  | .wildcard tail => .error (.sql (.selectItem (Item.wildcard tail).text))
  | .foreign text => .error (.sql (.selectItem text))

/-- The one SELECT that a text consists of, with the query around it. -/
def readSelect [Reader] (text : String) : Outcome (Select × Query) :=
  match Reader.statements text with
  | .error message => .error (.sql (.unparsable message))
  | .ok [.query q] =>
    match q.body with
    | .select s => .ok (s, q)
    | .foreign text => .error (.sql (.queryBody text))
  | .ok [.foreign text] => .error (.sql (.notSelect text))
  | .ok statements => .error (.sql (.statementCount statements.length))

/-- A fragment, the text of one select item, over a table. -/
def evalFragment [Reader] (text : String) (t : Table) : Outcome Series := do
  let (select, _) ← readSelect ("SELECT " ++ text ++ " FROM " ++ inputTable)
  match select.items with
  | [item] => item.eval t
  | items => throw (.sql (.fragmentItems text items.length))

/-! ## Sources and items -/

/-- The rows that a query runs over. -/
def sourceRows (input : Option Table) : List Source → Outcome Table
  | [] => .ok .unit
  | [s] =>
    if !s.joins.isEmpty then .error (.sql .joins)
    else if s.isNamed && Text.eqIgnoringAsciiCase s.name inputTable then
      match input with
      | some t => .ok t
      | none => .error (.sql .noInput)
    else .error (.sql (.unknownTable s.factorText))
  | _ => .error (.sql .joins)

/-- The columns that an item adds to a projection. -/
def Item.columns (t : Table) : Item → Outcome (List Series)
  | .wildcard _ => .ok t.columns
  | item => do pure [← item.eval t]

/-- The result of a query that does not group. -/
def projected (t : Table) (items : List Item) : Outcome Table := do
  let series ← items.mapM (Item.columns t)
  project series.flatten

/-! ## Grouping -/

/-- An expression for one group: an aggregate of its rows, or a value of its first row, null if it
    has none. -/
def perGroup (e : Expr) (group : Table) : Outcome Series :=
  if e.isAggregate then do (← e.eval group).broadcast 1
  else if group.height = 0 then do
    let s ← e.eval group
    pure { s with cells := [.null] }
  else e.eval (group.take [0])

/-- The groups at which a condition is true. -/
def keepGroups (t : Table) (groups : List (List Nat)) : Option Expr → Outcome (List (List Nat))
  | none => .ok groups
  | some condition => do
    let keep ← aggregateGroups t groups (perGroup condition)
    pure (((groups.zip keep.cells).filter fun p => p.2 == .bool true).map (·.1))

/-- The column of an item over the groups. -/
def groupedItem (t : Table) (groups : List (List Nat)) : Item → Outcome Series
  | .unnamed e => do
    let s ← aggregateGroups t groups (perGroup e)
    pure (s.renamed e.defaultName)
  | .named e name => do
    let s ← aggregateGroups t groups (perGroup e)
    pure (s.renamed name.value)
  | item => .error (.sql (.aggregateItem item.text))

/-- The result of a query that groups. Without keys all rows are one group. -/
def grouped (t : Table) (select : Select) (keys : List Expr) : Outcome Table := do
  let series ← keys.mapM fun e => do (← e.eval t).broadcast t.height
  let all := if keys.isEmpty then [List.range t.height] else partition series t.height
  let groups ← keepGroups t all select.having
  let columns ← select.items.mapM (groupedItem t groups)
  Table.ofColumns columns

def Item.isAggregate : Item → Bool
  | .unnamed e => e.isAggregate
  | .named e _ => e.isAggregate
  | _ => false

/-- The keys of a grouping. -/
def GroupBy.keys : GroupBy → Outcome (List Expr)
  | .exprs es => .ok es
  | .all => .error (.sql .groupByAll)

/-- The rows that a SELECT gives, before they are sorted and cut. -/
def Select.rows (select : Select) (input : Option Table) : Outcome Table := do
  if select.distinct.isSome then throw (.sql .distinct)
  let source ← sourceRows input select.sources
  let filtered ← match select.filter with
    | some condition => do mask source (← condition.eval source)
    | none => pure source
  let keys ← select.groupBy.keys
  if !keys.isEmpty || select.items.any Item.isAggregate then grouped filtered select keys
  else projected filtered select.items

/-! ## Order and limit -/

/-- The column to sort by: that at a position counted from one, or an expression over the
    result. -/
def sortColumn (output : Table) : Expr → Outcome Series
  | .literal (.number text _) =>
    match Integer.countOfText? text with
    | none => .error (.sql (.orderPosition text))
    | some 0 => .error (.sql (.orderRange 0))
    | some (i + 1) =>
      match output.columns[i]? with
      | some s => .ok s
      | none => .error (.sql (.orderRange (i + 1)))
  | e => do (← e.eval output).broadcast output.height

/-- The rows in the order that a query asks for. -/
def ordered (output : Table) (items : List OrderItem) : Outcome Table := do
  let keys ← items.mapM fun o => do
    let s ← sortColumn output o.expr
    pure (s, o.ascending == some false)
  if items.isEmpty then pure output else pure (output.take (sortedRows keys output.height))

/-- How many rows a query asks for. -/
def limitOf : Expr → Outcome Nat
  | .literal (.number text _) =>
    match Integer.countOfText? text with
    | some n => .ok n
    | none => .error (.sql (.limitValue text))
  | e => .error (.sql (.limitLiteral e.text))

/-- The first rows, as many as a query asks for. -/
def limited (output : Table) : Option Expr → Outcome Table
  | none => .ok output
  | some e => do pure (output.truncate (← limitOf e))

/-- The result of a statement, with the given rows as its table `df`. -/
def query [Reader] (text : String) (input : Option Table) : Outcome Table := do
  let (select, q) ← readSelect text
  let output ← select.rows input
  let sorted ← ordered output q.orderBy
  limited sorted q.limit

end FramePlan.Sql
