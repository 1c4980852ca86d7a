/-!
# Malformed plans

What can be wrong with a plan record when it is read, each cause with the number that shows it.

Correspondence (program ↔ Lean):
  `malformed` and its texts ↔ `Malformed`, `Malformed.message`
-/
namespace FramePlan.Wire

inductive Malformed
  | nullPlan
  | nullArray
  | notUtf8
  | noArguments (opcode : UInt16)
  | unknownOpcode (opcode : UInt16)
  | dataType (code : UInt8)
  | joinType (code : UInt8)
  | filterEntries (count : Nat)
  | entryTag (tag : UInt8)
  | entryWithoutNode
  | valueTag (tag : UInt8)
  | exprKind (kind : UInt8)
  | exprOp (kind op : UInt8)
  | missingOperand (kind : UInt8)
  | strOp (op : UInt8)
  | width (n : Int64)
  | sliceLength (m : Int64)
  | fill (c : UInt32)
  deriving DecidableEq

/-- The cause in words. -/
def Malformed.reason : Malformed → String
  | .nullPlan => "null plan"
  | .nullArray => "null array with non-zero length"
  | .notUtf8 => "string is not valid UTF-8"
  | .noArguments opcode => "opcode " ++ toString opcode.toNat ++ " without arguments"
  | .unknownOpcode opcode => "unknown opcode " ++ toString opcode.toNat
  | .dataType code => "dtype code " ++ toString code.toNat
  | .joinType code => "join type " ++ toString code.toNat
  | .filterEntries count => "filter takes one predicate, got " ++ toString count
  | .entryTag tag => "entry tag " ++ toString tag.toNat
  | .entryWithoutNode => "expression entry without a node"
  | .valueTag tag => "value tag " ++ toString tag.toNat
  | .exprKind kind => "expr kind " ++ toString kind.toNat
  | .exprOp kind op => "expr kind " ++ toString kind.toNat ++ " op " ++ toString op.toNat
  | .missingOperand kind => "expr kind " ++ toString kind.toNat ++ " missing operand"
  | .strOp op => "string op " ++ toString op.toNat
  | .width n => "width " ++ toString n.toInt ++ " out of range"
  | .sliceLength m => "slice length " ++ toString m.toInt ++ " out of range"
  | .fill c => "fill " ++ toString c.toNat

def Malformed.message (m : Malformed) : String := "malformed plan: " ++ m.reason

end FramePlan.Wire
