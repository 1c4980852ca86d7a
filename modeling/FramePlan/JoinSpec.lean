/-!
# Join specifications

A join pairs columns of two tables by position: `leftOn[i]` is matched against `rightOn[i]`. A
specification is valid when both lists have the same length and are empty exactly for a cross join;
`JoinSpec.check` says what is wrong with one that is not, the key counts first.

Correspondence (program ↔ Lean):
  `JoinSpec::validate`          ↔ `JoinSpec.check`
  `JoinSpec::key_pairs`         ↔ `JoinSpec.keyPairs`
  `JoinType::code`, `from_code` ↔ `JoinType.code`, `ofCode?`
-/
namespace FramePlan

/-- Which rows without a partner a join keeps: none, the left ones, or those of both sides. A cross
    join pairs every left row with every right row. -/
inductive JoinType
  | inner
  | left
  | outer
  | cross
  deriving DecidableEq, Repr

namespace JoinType

def code : JoinType → UInt8
  | .inner => 0
  | .left => 1
  | .outer => 2
  | .cross => 3

def ofCode? (c : UInt8) : Option JoinType :=
  [(0, .inner), (1, .left), (2, .outer), (3, .cross)].lookup c

def name : JoinType → String
  | .inner => "inner"
  | .left => "left"
  | .outer => "outer"
  | .cross => "cross"

theorem ofCode?_code (t : JoinType) : ofCode? t.code = some t := by cases t <;> rfl

end JoinType

structure JoinSpec where
  leftOn : List String
  rightOn : List String
  how : JoinType
  /-- Put behind the name of a right column that the left table has too. -/
  suffix : String
  /-- Each key pair becomes one column, named after the left key. -/
  coalesce : Bool
  deriving DecidableEq

namespace JoinSpec

/-- What is wrong with a specification. -/
inductive Fault
  | keyCounts (left right : Nat)
  | crossWithKeys
  | keysRequired (how : JoinType)
  deriving DecidableEq

def Fault.message : Fault → String
  | .keyCounts left right =>
    "join: left_on has " ++ toString left ++ " keys but right_on has " ++ toString right
  | .crossWithKeys => "join: cross join does not take keys"
  | .keysRequired how => "join: " ++ how.name ++ " join requires at least one key"

/-- An inner join without keys, with the usual suffix and coalescing. -/
def default : JoinSpec := ⟨[], [], .inner, "_right", true⟩

/-- The same key names on both sides. -/
def on (keys : List String) : JoinSpec := { default with leftOn := keys, rightOn := keys }

def cross : JoinSpec := { default with how := .cross }

/-- The first fault of a specification, if any. -/
def check (s : JoinSpec) : Except Fault Unit :=
  if s.leftOn.length ≠ s.rightOn.length then
    .error (.keyCounts s.leftOn.length s.rightOn.length)
  else if s.how = .cross then
    if s.leftOn.isEmpty then .ok () else .error .crossWithKeys
  else if s.leftOn.isEmpty then .error (.keysRequired s.how)
  else .ok ()

/-- The key pairs, left and right. -/
def keyPairs (s : JoinSpec) : List (String × String) := s.leftOn.zip s.rightOn

/-- A valid specification: as many left keys as right keys, and none exactly for a cross join. -/
def Valid (s : JoinSpec) : Prop :=
  s.leftOn.length = s.rightOn.length ∧ (s.how = .cross ↔ s.leftOn = [])

theorem check_eq_ok_iff (s : JoinSpec) : s.check = .ok () ↔ s.Valid := by
  unfold check Valid
  by_cases hl : s.leftOn.length = s.rightOn.length <;> by_cases hh : s.how = .cross <;>
    cases hk : s.leftOn <;> simp_all

end JoinSpec
end FramePlan
