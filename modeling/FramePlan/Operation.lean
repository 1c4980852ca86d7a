import FramePlan.Selector
import FramePlan.JoinSpec

/-!
# Operations

A plan is a list of operations: a source of rows, then what is done to them. A join and a
concatenation carry the whole plan of their other input.

Correspondence (program ↔ Lean):
  `Operation::name`      ↔ `Operation.name`
  `CsvOptions::default`  ↔ `CsvOptions.default`
  equality of operations ↔ `Operation.agrees`, `plansAgree`
-/
namespace FramePlan

/-- A named column of in-memory values. -/
structure Column where
  name : String
  values : List Value
  deriving DecidableEq

/-- A column to sort by. -/
structure SortField where
  column : String
  descending : Bool
  deriving DecidableEq

/-- How delimited text is read. `dtypes` gives the types of the first columns; the others are
    inferred. -/
structure CsvOptions where
  delimiter : UInt8
  hasHeader : Bool
  dtypes : Option (List DataType)
  deriving DecidableEq

/-- Commas, a header line, and all types inferred. -/
def CsvOptions.default : CsvOptions := ⟨44, true, none⟩

inductive Operation
  | readCsv (path : String) (options : CsvOptions)
  | fromMemory (columns : List Column)
  /-- A whole statement; the rows so far are its table `df`. -/
  | query (sql : String)
  | select (items : List Selector)
  | filter (predicate : Selector)
  | withColumns (items : List Selector)
  | groupBy (keys aggs : List Selector)
  | sort (fields : List SortField)
  | limit (rows : UInt64)
  | join (other : List Operation) (spec : JoinSpec)
  | concat (other : List Operation)
  | count

/-- A list of operations. -/
abbrev Plan := List Operation

/-- The two lists have the same length and related items at each place. -/
def agreeAll {α : Type} (r : α → α → Bool) : List α → List α → Bool
  | [], [] => true
  | a :: as, b :: bs => r a b && agreeAll r as bs
  | _, _ => false

/-- The same name and the same values, with numbers compared as numbers. -/
def Column.agrees (c d : Column) : Bool :=
  decide (c.name = d.name) && agreeAll Value.agrees c.values d.values

namespace Operation

def name : Operation → String
  | .readCsv _ _ => "read_csv"
  | .fromMemory _ => "from_memory"
  | .query _ => "query"
  | .select _ => "select"
  | .filter _ => "filter"
  | .withColumns _ => "with_columns"
  | .groupBy _ _ => "group_by"
  | .sort _ => "sort"
  | .limit _ => "limit"
  | .join _ _ => "join"
  | .concat _ => "concat"
  | .count => "count"

mutual

/-- The same operation, with the numbers of values and literals compared as numbers. -/
def agrees : Operation → Operation → Bool
  | .readCsv p o, .readCsv q u => decide (p = q) && decide (o = u)
  | .fromMemory cs, .fromMemory ds => agreeAll Column.agrees cs ds
  | .query s, .query t => decide (s = t)
  | .select xs, .select ys => agreeAll Selector.agrees xs ys
  | .filter x, .filter y => x.agrees y
  | .withColumns xs, .withColumns ys => agreeAll Selector.agrees xs ys
  | .groupBy ks as, .groupBy ls bs =>
    agreeAll Selector.agrees ks ls && agreeAll Selector.agrees as bs
  | .sort fs, .sort gs => decide (fs = gs)
  | .limit n, .limit m => decide (n = m)
  | .join p s, .join q t => decide (s = t) && plansAgree p q
  | .concat p, .concat q => plansAgree p q
  | .count, .count => true
  | _, _ => false

/-- The same operations in the same order, as `agrees` compares them. -/
def plansAgree : List Operation → List Operation → Bool
  | [], [] => true
  | a :: as, b :: bs => agrees a b && plansAgree as bs
  | _, _ => false

end

end Operation
end FramePlan
