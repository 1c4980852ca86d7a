import FramePlan.JoinSpec
import FramePlan.Wire.Malformed

/-!
# Errors

What can go wrong while a plan is built, read from its records, or run by an engine. An engine
reports a kind and a message in its own words; every other error is a cause, and `Error.message`
puts it into words.

Correspondence (program ↔ Lean):
  `EngineErrorKind::code`, `from_code` ↔ `EngineErrorKind.code`, `ofCode`
  `Error`, its text                    ↔ `Error`, `Error.message`
  `Error::engine_kind`                 ↔ `Error.engineKind?`
-/
namespace FramePlan

/-- The class of a failure reported by an engine. -/
inductive EngineErrorKind
  | plan
  | column
  | type
  | schema
  | io
  | sql
  | memory
  | handle
  | internal
  deriving DecidableEq, Repr

namespace EngineErrorKind

/-- The status code of a failure. -/
def code : EngineErrorKind → Int32
  | .plan => 1
  | .column => 2
  | .type => 3
  | .schema => 4
  | .io => 5
  | .sql => 6
  | .memory => 7
  | .handle => 8
  | .internal => 9

/-- The class of a status code; every code without a class of its own is an internal failure. -/
def ofCode (c : Int32) : EngineErrorKind :=
  ([(1, .plan), (2, .column), (3, .type), (4, .schema), (5, .io), (6, .sql), (7, .memory),
    (8, .handle)].lookup c).getD .internal

def display : EngineErrorKind → String
  | .plan => "invalid plan"
  | .column => "column not found"
  | .type => "type error"
  | .schema => "schema error"
  | .io => "I/O error"
  | .sql => "SQL error"
  | .memory => "out of memory"
  | .handle => "invalid result handle"
  | .internal => "internal engine error"

theorem ofCode_code (k : EngineErrorKind) : ofCode k.code = k := by cases k <;> rfl

end EngineErrorKind

/-- The faults of a JSON tree that is to become a frame. The offending parts are held as text. -/
inductive JsonFault
  | recordNotObject (shown : String)
  | columnNotArray (name shown : String)
  | neither (shown : String)
  deriving DecidableEq

def JsonFault.message : JsonFault → String
  | .recordNotObject shown => "from_json: expected an object per record, got " ++ shown
  | .columnNotArray name shown => "from_json: column " ++ name ++ " is not an array: " ++ shown
  | .neither shown =>
    "from_json: expected an array of records or an object of columns, got " ++ shown

inductive Error
  | emptyRecords
  | emptyFirstRecord
  | emptyColumns
  | lengthMismatch (expected found : Nat)
  | pathNotUtf8 (shown : String)
  | badJson (fault : JsonFault)
  | noFrames
  | badJoin (fault : JoinSpec.Fault)
  | malformed (cause : Wire.Malformed)
  | engine (kind : EngineErrorKind) (message : String)
  | nullHandle
  deriving DecidableEq

namespace Error

/-- The text of an error. An engine's message stands behind its class. -/
def message : Error → String
  | .emptyRecords => "from_records: records cannot be empty"
  | .emptyFirstRecord => "from_records: first record is empty"
  | .emptyColumns => "from_columns: columns cannot be empty"
  | .lengthMismatch expected found =>
    "from_columns: all columns must have same length (got " ++ toString expected ++ " and " ++
      toString found ++ ")"
  | .pathNotUtf8 shown => "read_csv: path is not valid UTF-8: " ++ shown
  | .badJson fault => fault.message
  | .noFrames => "concat: at least one frame is required"
  | .badJoin fault => fault.message
  | .malformed cause => cause.message
  | .engine kind text => if text.isEmpty then kind.display else kind.display ++ ": " ++ text
  | .nullHandle => "result handle is null or already released"

/-- The class of an engine's failure. -/
def engineKind? : Error → Option EngineErrorKind
  | .engine kind _ => some kind
  | _ => none

end Error
end FramePlan
