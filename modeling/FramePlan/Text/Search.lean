/-!
# Finding a text in a text

Occurrences are found from left to right and do not overlap. `pieces` cuts a text at each of them;
replacing is joining the pieces anew.
-/
namespace FramePlan.Text

/-- The pieces of a text between the occurrences of a non-empty `p`, after `skip` characters that
    belong to an occurrence already found. -/
def piecesFrom (p : List Char) : Nat → List Char → List (List Char)
  | _, [] => [[]]
  | skip + 1, _ :: cs => piecesFrom p skip cs
  | 0, c :: cs =>
    if p.isPrefixOf (c :: cs) then [] :: piecesFrom p (p.length - 1) cs
    else
      match piecesFrom p 0 cs with
      | [] => [[c]]
      | piece :: rest => (c :: piece) :: rest

/-- The pieces of a text between the occurrences of a non-empty `p`. -/
def pieces (p s : List Char) : List (List Char) := piecesFrom p 0 s

/-- The text `p` stands somewhere in the text. -/
def occurs (p : List Char) : List Char → Bool
  | [] => p.isEmpty
  | c :: cs => p.isPrefixOf (c :: cs) || occurs p cs

/-- The text with `v` in place of each occurrence of `p`. The empty text occurs before every
    character and at the end. -/
def replaceAll (p v s : List Char) : List Char :=
  if p.isEmpty then v ++ s.flatMap (fun c => c :: v) else v.intercalate (pieces p s)

/-- The fields of a line: the pieces between the delimiters. -/
def fields (delimiter : Char) : List Char → List (List Char)
  | [] => [[]]
  | c :: cs =>
    if c = delimiter then [] :: fields delimiter cs
    else
      match fields delimiter cs with
      | [] => [[c]]
      | f :: rest => (c :: f) :: rest

end FramePlan.Text
