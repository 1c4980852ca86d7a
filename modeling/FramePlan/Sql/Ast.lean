import FramePlan.Expr.Operator
import FramePlan.Value

/-!
# Query syntax trees

The trees that query texts are parsed to, and their text in normal form: one space between words,
keywords in capitals, comparisons in one spelling. Forms that are understood but never evaluated are
kept by their text (`Expr.foreign`, `Literal.other`, `Body.foreign`, `Statement.foreign`).

Which tree a text has is a matter of the parser. It is not part of what a query means, so everything that
reads query texts takes it as a parameter (`Reader`).
-/
namespace FramePlan.Sql

/-- A name, with its quote if it was quoted. -/
structure Ident where
  value : String
  quote : Option Char
  deriving DecidableEq, Repr

/-- The body of a quoted text, `last` being the character before it. A quote is written twice, but
    two quotes in a row count as one that is written twice already, and a quote behind a backslash
    stands as it is. -/
def doubled (quote last : Char) : List Char → List Char
  | [] => []
  | [c] => if c = quote ∧ last ≠ '\\' then [c, c] else [c]
  | c :: d :: rest =>
    if c ≠ quote then c :: doubled quote c (d :: rest)
    else if last = '\\' then c :: doubled quote last (d :: rest)
    else if d = quote then c :: d :: doubled quote c rest
    else c :: c :: doubled quote c (d :: rest)

/-- A text between quotes. -/
def inQuotes (quote : Char) (s : String) : String :=
  String.ofList (quote :: doubled quote ' ' s.toList ++ [quote])

def Ident.text (i : Ident) : String :=
  match i.quote with
  | some q => inQuotes q i.value
  | none => i.value

/-- The parts of a qualified name with points between them. -/
def dotted (parts : List Ident) : String := ".".intercalate (parts.map Ident.text)

/-- Names with commas between them. -/
def listed (names : List Ident) : String := ", ".intercalate (names.map Ident.text)

inductive Literal
  | number (text : String) (long : Bool)
  | string (s : String)
  | bool (b : Bool)
  | null
  /-- A literal without a value here, by its text. -/
  | other (text : String)
  deriving DecidableEq

def Literal.text : Literal → String
  | .number text long => if long then text ++ "L" else text
  | .string s => inQuotes '\x27' s
  | .bool b => Value.boolText b
  | .null => "NULL"
  | .other text => text

/-- A binary operator: one that the engine has, concatenation of texts, or another. -/
inductive Operator
  | plain (op : BinaryOp)
  | concat
  | other (symbol : String)
  deriving DecidableEq

def Operator.text : Operator → String
  | .plain .notEq => "<>"
  | .plain op => op.symbol
  | .concat => "||"
  | .other symbol => symbol

inductive Sign
  | not
  | minus
  | plus
  deriving DecidableEq

/-- How a cast is written: as a call, of one of three functions, or behind a double colon. -/
inductive CastStyle
  | call
  | tryCall
  | safeCall
  | colons
  deriving DecidableEq

/-- A type as written, and the column type that it stands for, if any. -/
structure TypeName where
  text : String
  target : Option DataType
  deriving DecidableEq

mutual

inductive Expr
  | ident (name : Ident)
  | compound (parts : List Ident)
  | literal (value : Literal)
  | nested (e : Expr)
  | binary (op : Operator) (left right : Expr)
  | unary (sign : Sign) (e : Expr)
  | isNull (e : Expr)
  | isNotNull (e : Expr)
  | between (e : Expr) (negated : Bool) (low high : Expr)
  | inList (e : Expr) (items : List Expr) (negated : Bool)
  /-- A cast; `format` is what is written behind the type. -/
  | cast (e : Expr) (style : CastStyle) (type : TypeName) (format : String)
  | case (operand : Option Expr) (branches : List (Expr × Expr)) (otherwise : Option Expr)
  /-- A call with the text behind its arguments. -/
  | call (name : List Ident) (args : Args) (windowed : Bool) (tail : String)
  /-- A query in parentheses, by its text with them. -/
  | subquery (text : String)
  | foreign (text : String)

/-- What a function is called on. -/
inductive Args
  /-- Nothing, not even parentheses. -/
  | bare
  /-- A query, by its text. -/
  | query (text : String)
  /-- Arguments, with the text before and behind them inside the parentheses. -/
  | list (before : String) (args : List Arg) (behind : String)

inductive Arg
  | expr (e : Expr)
  | wildcard
  | foreign (text : String)

end

/-- The text with a space behind it if there is any. -/
def spaced (s : String) : String := if s.isEmpty then "" else s ++ " "

/-- `NOT ` where it is meant. -/
def negation (negated : Bool) : String := if negated then "NOT " else ""

/-- A text that is there only sometimes. -/
def textIf (b : Bool) (s : String) : String := if b then s else ""

mutual

def Expr.text : Expr → String
  | .ident name => name.text
  | .compound parts => dotted parts
  | .literal value => value.text
  | .nested e => "(" ++ e.text ++ ")"
  | .binary op l r => l.text ++ " " ++ op.text ++ " " ++ r.text
  | .unary .not e => "NOT " ++ e.text
  | .unary .minus e => "-" ++ e.text
  | .unary .plus e => "+" ++ e.text
  | .isNull e => e.text ++ " IS NULL"
  | .isNotNull e => e.text ++ " IS NOT NULL"
  | .between e negated low high =>
    e.text ++ " " ++ negation negated ++ "BETWEEN " ++ low.text ++ " AND " ++ high.text
  | .inList e items negated =>
    e.text ++ " " ++ negation negated ++ "IN (" ++ ", ".intercalate (textAll items) ++ ")"
  | .cast e .call type format => "CAST(" ++ e.text ++ " AS " ++ type.text ++ format ++ ")"
  | .cast e .tryCall type format => "TRY_CAST(" ++ e.text ++ " AS " ++ type.text ++ format ++ ")"
  | .cast e .safeCall type format => "SAFE_CAST(" ++ e.text ++ " AS " ++ type.text ++ format ++ ")"
  | .cast e .colons type _ => e.text ++ "::" ++ type.text
  | .case operand branches otherwise =>
    "CASE" ++ textOptional " " operand ++ textBranches branches ++ textOptional " ELSE " otherwise ++
      " END"
  | .call name args _ tail => dotted name ++ args.text ++ tail
  | .subquery text => text
  | .foreign text => text

def textAll : List Expr → List String
  | [] => []
  | e :: es => e.text :: textAll es

def textOptional (before : String) : Option Expr → String
  | none => ""
  | some e => before ++ e.text

def textBranches : List (Expr × Expr) → String
  | [] => ""
  | (c, r) :: rest => " WHEN " ++ c.text ++ " THEN " ++ r.text ++ textBranches rest

def Args.text : Args → String
  | .bare => ""
  | .query text => "(" ++ text ++ ")"
  | .list before args behind =>
    "(" ++ spaced before ++ ", ".intercalate (textArgs args) ++ behind ++ ")"

def textArgs : List Arg → List String
  | [] => []
  | a :: as => a.text :: textArgs as

def Arg.text : Arg → String
  | .expr e => e.text
  | .wildcard => "*"
  | .foreign text => text

end

def Expr.isSubquery : Expr → Bool
  | .subquery _ => true
  | _ => false

/-- Expressions with commas between them. -/
def textList (es : List Expr) : String := ", ".intercalate (textAll es)

/-! ## Statements -/

/-- An item of a select list. -/
inductive Item
  | unnamed (e : Expr)
  | named (e : Expr) (name : Ident)
  /-- All columns, with what is written behind the star. -/
  | wildcard (tail : String)
  | foreign (text : String)

def Item.text : Item → String
  | .unnamed e => e.text
  | .named e name => e.text ++ " AS " ++ name.text
  | .wildcard tail => "*" ++ tail
  | .foreign text => text

def Item.textAll (items : List Item) : String := ", ".intercalate (items.map Item.text)

/-- A table in a FROM list: a name, or another source of rows; `tail` is what is written behind it,
    such as its alias. -/
structure Source where
  name : String
  isNamed : Bool
  tail : String
  /-- It is two tables joined, in parentheses. -/
  isNest : Bool
  /-- The joins behind it, as text. -/
  joins : List String

def Source.factorText (s : Source) : String := s.name ++ s.tail

def Source.text (s : Source) : String := s.factorText ++ String.join (s.joins.map (" " ++ ·))

def Source.textAll (sources : List Source) : String := ", ".intercalate (sources.map Source.text)

inductive GroupBy
  | exprs (es : List Expr)
  | all

def GroupBy.text : GroupBy → String
  | .exprs [] => ""
  | .exprs es => " GROUP BY " ++ textList es
  | .all => " GROUP BY ALL"

/-- A SELECT. The clauses that are texts are read and have no effect; each has its keyword and a
    space before it, and is empty if it is absent. -/
structure Select where
  /-- How it is marked distinct, if it is. -/
  distinct : Option String
  top : String
  items : List Item
  into : String
  sources : List Source
  views : String
  filter : Option Expr
  groupBy : GroupBy
  arrangement : String
  having : Option Expr
  windows : String

def Select.text (s : Select) : String :=
  "SELECT" ++ (match s.distinct with | some d => " " ++ d | none => "") ++ s.top ++ " " ++
    Item.textAll s.items ++ s.into ++
    (if s.sources.isEmpty then "" else " FROM " ++ Source.textAll s.sources) ++ s.views ++
    textOptional " WHERE " s.filter ++ s.groupBy.text ++ s.arrangement ++
    textOptional " HAVING " s.having ++ s.windows

inductive Body
  | select (s : Select)
  | foreign (text : String)

def Body.text : Body → String
  | .select s => s.text
  | .foreign text => text

/-- An item of an ORDER BY list: its expression, whether it is marked `ASC` or `DESC`, and what is
    written about nulls. -/
structure OrderItem where
  expr : Expr
  ascending : Option Bool
  nulls : String

def OrderItem.text (o : OrderItem) : String :=
  let direction := match o.ascending with
    | none => ""
    | some true => " ASC"
    | some false => " DESC"
  o.expr.text ++ direction ++ o.nulls

def OrderItem.textAll (items : List OrderItem) : String := ", ".intercalate (items.map OrderItem.text)

structure Query where
  /-- The WITH clause as text. -/
  tables : String
  body : Body
  orderBy : List OrderItem
  limit : Option Expr
  /-- The clauses behind the limit as text. -/
  tail : String

def Query.text (q : Query) : String :=
  spaced q.tables ++ q.body.text ++
    (if q.orderBy.isEmpty then "" else " ORDER BY " ++ OrderItem.textAll q.orderBy) ++
    textOptional " LIMIT " q.limit ++ q.tail

inductive Statement
  | query (q : Query)
  | foreign (text : String)

def Statement.text : Statement → String
  | .query q => q.text
  | .foreign text => text

/-- A parser of query texts: the statements of a text, or the message that it is refused with. -/
class Reader where
  statements : String → Except String (List Statement)

end FramePlan.Sql
