import FramePlan.Expr.Basic

/-!
# Selectors

One entry of a projection, a grouping or a filter: the name of a column, an expression, or a raw
fragment of query text. A plain text becomes a name when it is an identifier and a fragment when it
is not, and an expression that is nothing but a fragment becomes that fragment.

Correspondence (program ↔ Lean):
  `is_identifier`                        ↔ `isIdentifier`
  `Selector::tag`                        ↔ `Selector.tag`
  `Selector::from` a text, an expression ↔ `Selector.ofText`, `ofExpr`
-/
namespace FramePlan

inductive Selector
  | name (column : String)
  | expr (e : Expr)
  | raw (text : String)
  deriving DecidableEq

/-- A letter or an underscore. -/
def isIdentifierStart (c : Char) : Bool := c.isAlpha || c == '_'

/-- An ASCII letter or an underscore, then such characters and digits. -/
def isIdentifier (s : String) : Bool :=
  match s.toList with
  | [] => false
  | c :: cs => isIdentifierStart c && cs.all fun d => isIdentifierStart d || d.isDigit

namespace Selector

/-- The tag of a selector in a plan record. -/
def tag : Selector → UInt8
  | .name _ => 0
  | .expr _ => 1
  | .raw _ => 2

/-- The selector that a plain text stands for. -/
def ofText (s : String) : Selector := if isIdentifier s then .name s else .raw s

/-- The selector that an expression stands for. -/
def ofExpr : Expr → Selector
  | .raw text => .raw text
  | e => .expr e

def display : Selector → String
  | .name column => column
  | .expr e => e.display
  | .raw text => "sql(" ++ text ++ ")"

/-- The same selector, with the numbers of literals compared as numbers. -/
def agrees : Selector → Selector → Bool
  | .expr e, .expr f => e.agrees f
  | s, t => decide (s = t)

end Selector
end FramePlan
