/-!
# Windows and row offsets

A window names the columns that split rows into partitions and, if any, the columns that order the
rows of each. An offset function takes the value some rows before (`lag`) or after (`lead`) the
current one.

Correspondence (program ↔ Lean):
  `OffsetFunc::kind_code`, `param` ↔ `OffsetFunc.code`, `rows`
  `OffsetFunc::from_code`          ↔ `OffsetFunc.ofCode?`
  `WindowSpec::is_ordered`         ↔ `WindowSpec.isOrdered`
-/
namespace FramePlan

/-- The partition and the ordering of a window expression. Without an ordering the rows of a
    partition stay in their own order. -/
structure WindowSpec where
  partitionBy : List String
  orderBy : List String
  deriving DecidableEq, Repr

namespace WindowSpec

def partitioned (keys : List String) : WindowSpec := ⟨keys, []⟩
def ordered (keys order : List String) : WindowSpec := ⟨keys, order⟩

/-- The window with no partition columns and no ordering. -/
def whole : WindowSpec := ⟨[], []⟩

def isOrdered (w : WindowSpec) : Bool := !w.orderBy.isEmpty

end WindowSpec

/-- A function that shifts a column by whole rows; rows outside yield null. -/
inductive OffsetFunc
  | lag (rows : Int64)
  | lead (rows : Int64)
  deriving DecidableEq

namespace OffsetFunc

def code : OffsetFunc → UInt8
  | .lag _ => 0
  | .lead _ => 1

/-- How many rows the function looks back or ahead. -/
def rows : OffsetFunc → Int64
  | .lag n => n
  | .lead n => n

def ofCode? (c : UInt8) (rows : Int64) : Option OffsetFunc :=
  if c = 0 then some (.lag rows) else if c = 1 then some (.lead rows) else none

def name : OffsetFunc → String
  | .lag _ => "lag"
  | .lead _ => "lead"

theorem ofCode?_code (f : OffsetFunc) : ofCode? f.code f.rows = some f := by cases f <;> rfl

end OffsetFunc
end FramePlan
