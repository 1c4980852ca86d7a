import FramePlan.Expr.Operator
import FramePlan.Value
import FramePlan.Window

/-!
# Expressions

An expression is a closed tree over columns, literals and raw fragments of query text. Nothing here
evaluates one: a tree has its text (`display`), its children, and the name that its column is
expected to get (`outputName`), which is the alias if it has one and its leftmost column otherwise.

Correspondence (program ↔ Lean):
  `Expr::children`, `is_raw` ↔ `children`, `isRaw`
  `Expr::output_name`        ↔ `outputName`
  text of an expression      ↔ `display`
  `over`, `over_ordered`     ↔ `overKeys`, `overOrdered`
-/
namespace FramePlan

inductive Expr
  | column (name : String)
  | literal (v : Value)
  | unary (op : UnaryOp) (e : Expr)
  | binary (op : BinaryOp) (left right : Expr)
  | cast (e : Expr) (target : DataType)
  | str (op : StrOp) (e : Expr)
  | agg (op : AggOp) (e : Expr)
  | offset (func : OffsetFunc) (e : Expr)
  | window (e : Expr) (spec : WindowSpec)
  | aliased (e : Expr) (name : String)
  | raw (text : String)
  deriving DecidableEq, Inhabited

namespace Expr

/-- The direct children, left to right. -/
def children : Expr → List Expr
  | .column _ => []
  | .literal _ => []
  | .raw _ => []
  | .binary _ l r => [l, r]
  | .unary _ e => [e]
  | .cast e _ => [e]
  | .str _ e => [e]
  | .agg _ e => [e]
  | .offset _ e => [e]
  | .window e _ => [e]
  | .aliased e _ => [e]

def isRaw : Expr → Bool
  | .raw _ => true
  | _ => false

def isLiteral : Expr → Bool
  | .literal _ => true
  | _ => false

/-- The name that the column of an expression is expected to get. A literal is named `literal`, and
    a literal left operand gives way to the right one; a raw fragment is its own text. -/
def outputName : Expr → String
  | .aliased _ name => name
  | .column name => name
  | .literal _ => "literal"
  | .raw text => text
  | .binary _ l r => if l.isLiteral then r.outputName else l.outputName
  | .unary _ e => e.outputName
  | .cast e _ => e.outputName
  | .str _ e => e.outputName
  | .agg _ e => e.outputName
  | .offset _ e => e.outputName
  | .window e _ => e.outputName

/-- The text of an expression. Texts stand in single quotes as they are. -/
def display : Expr → String
  | .column name => "col(" ++ name ++ ")"
  | .literal (.str s) => "'" ++ s ++ "'"
  | .literal v => v.display
  | .unary .not e => "NOT " ++ e.display
  | .unary .neg e => "-" ++ e.display
  | .unary .isNull e => e.display ++ " IS NULL"
  | .unary .isNotNull e => e.display ++ " IS NOT NULL"
  | .binary op l r => "(" ++ l.display ++ " " ++ op.symbol ++ " " ++ r.display ++ ")"
  | .cast e target => e.display ++ ".cast(" ++ target.name ++ ")"
  | .str op e => e.display ++ ".str." ++ op.name ++ "()"
  | .agg op e => e.display ++ "." ++ op.name ++ "()"
  | .offset f e => e.display ++ "." ++ f.name ++ "(" ++ Integer.toText f.rows ++ ")"
  | .window e w =>
    let order := if w.isOrdered then ", order_by=[" ++ ", ".intercalate w.orderBy ++ "]" else ""
    e.display ++ ".over([" ++ ", ".intercalate w.partitionBy ++ "]" ++ order ++ ")"
  | .aliased e name => e.display ++ ".alias(" ++ name ++ ")"
  | .raw text => "sql(" ++ text ++ ")"

/-- The same tree, with the numbers of literals compared as numbers. -/
def agrees : Expr → Expr → Bool
  | .literal v, .literal w => v.agrees w
  | .unary p e, .unary q f => decide (p = q) && e.agrees f
  | .binary p l r, .binary q l' r' => decide (p = q) && l.agrees l' && r.agrees r'
  | .cast e t, .cast f u => decide (t = u) && e.agrees f
  | .str p e, .str q f => decide (p = q) && e.agrees f
  | .agg p e, .agg q f => decide (p = q) && e.agrees f
  | .offset p e, .offset q f => decide (p = q) && e.agrees f
  | .window e v, .window f w => decide (v = w) && e.agrees f
  | .aliased e a, .aliased f b => decide (a = b) && e.agrees f
  | .column a, .column b => decide (a = b)
  | .raw a, .raw b => decide (a = b)
  | _, _ => false

/-! ## Building -/

instance : Add Expr := ⟨.binary .add⟩
instance : Sub Expr := ⟨.binary .sub⟩
instance : Mul Expr := ⟨.binary .mul⟩
instance : Div Expr := ⟨.binary .div⟩
instance : Mod Expr := ⟨.binary .mod⟩
instance : Neg Expr := ⟨.unary .neg⟩

/-- The expression computed in each partition and spread over its rows. -/
def overKeys (e : Expr) (keys : List String) : Expr := .window e (.partitioned keys)

/-- The expression computed in each partition with the partition's rows in a given order. -/
def overOrdered (e : Expr) (keys order : List String) : Expr := .window e (.ordered keys order)

end Expr
end FramePlan
