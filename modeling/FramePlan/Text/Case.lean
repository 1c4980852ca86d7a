import FramePlan.Text.CaseTable

/-!
# Upper and lower case

The full case mappings of a text: a character may become several (`ß` in upper case is `SS`), and a
capital sigma becomes the final form `ς` at the end of a word and `σ` elsewhere.
-/
namespace FramePlan.Text

/-- The code point is in one of the ranges. -/
def inRanges (ranges : List (Nat × Nat)) (n : Nat) : Bool :=
  ranges.any fun r => decide (r.1 ≤ n) && decide (n ≤ r.2)

/-- The code point is one of the run's. -/
def CaseRun.has (r : CaseRun) (n : Nat) : Bool :=
  decide (r.first ≤ n) && decide (n ≤ r.last) && (n - r.first) % r.step == 0

/-- The characters that a character is mapped to: its sequence if it has one, else its run's
    neighbour, else itself. -/
def mapCase (runs : List CaseRun) (sequences : List (Nat × List Nat)) (c : Char) : List Char :=
  match sequences.lookup c.toNat with
  | some ns => ns.map Char.ofNat
  | none =>
    match runs.find? (·.has c.toNat) with
    | some r => [Char.ofNat (c.toNat + r.shift).toNat]
    | none => [c]

def upperChar : Char → List Char := mapCase upperRuns upperSequences
def lowerChar : Char → List Char := mapCase lowerRuns lowerSequences

/-- The nearest character that is not passed over is a cased one. -/
def meetsCased (cs : List Char) : Bool :=
  match cs.dropWhile (fun c => inRanges caseIgnorableRanges c.toNat) with
  | c :: _ => inRanges casedRanges c.toNat
  | [] => false

/-- The lower case of a text, given the characters before it, the nearest first. A capital sigma is
    final where a cased character stands before it and none after it. -/
def lowerFrom (before : List Char) : List Char → List Char
  | [] => []
  | c :: cs =>
    let mapped := if c = 'Σ' then [if meetsCased before && !meetsCased cs then 'ς' else 'σ']
      else lowerChar c
    mapped ++ lowerFrom (c :: before) cs

def upper (cs : List Char) : List Char := cs.flatMap upperChar
def lower (cs : List Char) : List Char := lowerFrom [] cs

/-- Equality up to the case of the ASCII letters. -/
def eqIgnoringAsciiCase (a b : String) : Bool := a.toList.map Char.toLower == b.toList.map Char.toLower

end FramePlan.Text
