import FramePlan.Integer
import FramePlan.Sql.Ast
import FramePlan.Sql.Keyword

/-!
# Parsers of tokens

A parser takes tokens from the front of a list, or fails. It fails because the tokens do not fit, and
then another way of reading them may be tried, or because they nest too deeply, and then the whole
text has failed.

A comma may stand behind the last item of a list, and a word that could begin the next clause is not
taken for an alias.
-/
namespace FramePlan.Sql

/-- The name that a word is. -/
def Word.ident (w : Word) : Ident := ⟨w.text, w.quote⟩

/-- Why tokens cannot be read: they do not fit, or they nest too deeply. -/
inductive Misfit
  | tokens
  | depth
  deriving DecidableEq

/-- A parser takes tokens from the front, or fails. -/
abbrev Parser := StateT (List Token) (Except Misfit)

namespace Parser

/-- The tokens do not fit. -/
def fail {α : Type} : Parser α := fun _ => .error .tokens

/-- They nest too deeply. -/
def tooDeep {α : Type} : Parser α := fun _ => .error .depth

/-- The result of a parser, or nothing taken if the tokens do not fit it. -/
def optional {α : Type} (p : Parser α) : Parser (Option α) := fun ts =>
  match p ts with
  | .ok (a, rest) => .ok (some a, rest)
  | .error .tokens => .ok (none, ts)
  | .error .depth => .error .depth

/-- A parser, or another one where the tokens do not fit the first. -/
def orElse {α : Type} (p q : Parser α) : Parser α := fun ts =>
  match p ts with
  | .error .tokens => q ts
  | result => result

/-- The next token, which stays. -/
def peek : Parser (Option Token) := fun ts => .ok (ts.head?, ts)

/-- The next token, which is taken. -/
def next : Parser Token := fun ts =>
  match ts with
  | t :: rest => .ok (t, rest)
  | [] => .error .tokens

/-- The symbol is next; it stays. -/
def atSymbol (s : String) : Parser Bool := fun ts => .ok (ts.head? == some (.symbol s), ts)

/-- The symbol is taken if it is next. -/
def symbol? (s : String) : Parser Bool := fun ts =>
  match ts with
  | .symbol t :: rest => if t = s then .ok (true, rest) else .ok (false, ts)
  | _ => .ok (false, ts)

def symbol (s : String) : Parser Unit := do
  if !(← symbol? s) then fail

/-- The keywords stand at the front. -/
def beginsWith (ks : List String) (ts : List Token) : Bool :=
  decide (ks.length ≤ ts.length) && (ks.zip ts).all (fun p => p.2.isKeyword p.1)

/-- The keywords are taken if they are next, all of them. -/
def keywords? (ks : List String) : Parser Bool := fun ts =>
  if beginsWith ks ts then .ok (true, ts.drop ks.length) else .ok (false, ts)

def keyword? (k : String) : Parser Bool := keywords? [k]

def keywords (ks : List String) : Parser Unit := do
  if !(← keywords? ks) then fail

def keyword (k : String) : Parser Unit := keywords [k]

/-- The one of the keywords that is next, taken. -/
def oneOf? (ks : List String) : Parser (Option String) := fun ts =>
  match ts with
  | t :: rest =>
    match ks.find? (t.isKeyword ·) with
    | some k => .ok (some k, rest)
    | none => .ok (none, ts)
  | [] => .ok (none, ts)

def oneOf (ks : List String) : Parser String := do
  match ← oneOf? ks with
  | some k => pure k
  | none => fail

/-- One of the keywords is next; it stays. -/
def atKeyword (ks : List String) : Parser Bool := fun ts =>
  .ok (ks.any fun k => beginsWith [k] ts, ts)

/-- The text of a clause: its words and what they introduce, or nothing if the words are not next. -/
def clauseText (ks : List String) (p : Parser String) : Parser String := do
  if ← keywords? ks then
    let s ← p
    pure (" ".intercalate ks ++ " " ++ s)
  else pure ""

/-- The text of a clause with a space before it, or nothing. -/
def clause (ks : List String) (p : Parser String) : Parser String := do
  if ← keywords? ks then
    let s ← p
    pure (" " ++ " ".intercalate ks ++ " " ++ s)
  else pure ""

/-- Words that are taken and repeated, or nothing if they are not next. -/
def words (ks : List String) : Parser String := do
  if ← keywords? ks then pure (" " ++ " ".intercalate ks) else pure ""

/-- Something in parentheses. -/
def parenthesized {α : Type} (p : Parser α) : Parser α := do
  symbol "("
  let a ← p
  symbol ")"
  pure a

/-! ## Names and values -/

/-- A name: a word or a string. -/
def ident : Parser Ident := do
  match ← next with
  | .word w => pure w.ident
  | .string text => pure ⟨text, some '\x27'⟩
  | _ => fail

/-- Names with points between them. -/
def dottedNameWithin : Nat → Parser (List Ident)
  | 0 => fail
  | fuel + 1 => do
    let i ← ident
    if ← symbol? "." then
      let rest ← dottedNameWithin fuel
      pure (i :: rest)
    else pure [i]

def dottedName : Parser (List Ident) := fun ts => dottedNameWithin ts.length ts

/-- The text of a qualified name. -/
def nameText : Parser String := dotted <$> dottedName

/-- A string: in quotes, or a word that is no keyword. -/
def stringText : Parser String := do
  match ← next with
  | .word w => if w.isPlainName then pure w.text else fail
  | .string text => pure text
  | _ => fail

/-- A string between single quotes as text, its characters as they are. -/
def rawQuoted (s : String) : String := "'" ++ s ++ "'"

/-- A natural number of 64 bits. -/
def count : Parser Nat := do
  match ← next with
  | .number text _ =>
    if text.toList.all Char.isDigit then
      match Integer.countOfText? text with
      | some n => pure n
      | none => fail
    else fail
  | _ => fail

/-- What a value that is no number, string or keyword stands as. -/
def markedLiteral? : Token → Option Literal
  | .national text => some (.other ("N" ++ rawQuoted text))
  | .hex text => some (.other ("X" ++ rawQuoted text))
  | .dollar tag text => some (.other ("$" ++ tag ++ "$" ++ text ++ "$" ++ tag ++ "$"))
  | .placeholder text => some (.other text)
  | _ => none

/-- A literal: a number, a string, a truth value, `NULL` or a placeholder. -/
def value : Parser Literal := do
  match ← next with
  | .number text long => pure (.number text long)
  | .string s => pure (.string s)
  | .symbol s =>
    if s = ":" ∨ s = "@" then
      match ← next with
      | .word w => pure (.other (s ++ w.text))
      | .number text false => pure (.other (s ++ text))
      | _ => fail
    else fail
  | .word w =>
    if w.upper = "TRUE" then pure (.bool true)
    else if w.upper = "FALSE" then pure (.bool false)
    else if w.upper = "NULL" then pure .null
    else if w.quote = some '"' then pure (.other (inQuotes '"' w.text))
    else fail
  | t =>
    match markedLiteral? t with
    | some l => pure l
    | none => fail

/-! ## Lists -/

/-- The words that begin a clause behind a select list. -/
def clauseWords : List String :=
  ["WITH", "EXPLAIN", "ANALYZE", "SELECT", "WHERE", "GROUP", "SORT", "HAVING", "ORDER", "TOP",
    "LATERAL", "VIEW", "LIMIT", "OFFSET", "FETCH", "UNION", "EXCEPT", "INTERSECT", "CLUSTER",
    "DISTRIBUTE", "RETURNING", "FROM", "INTO", "END"]

/-- The words that begin a clause behind a table. -/
def tableWords : List String :=
  ["WITH", "EXPLAIN", "ANALYZE", "SELECT", "WHERE", "GROUP", "SORT", "HAVING", "ORDER", "PIVOT",
    "UNPIVOT", "TOP", "LATERAL", "VIEW", "LIMIT", "OFFSET", "FETCH", "UNION", "EXCEPT",
    "INTERSECT", "ON", "JOIN", "INNER", "CROSS", "FULL", "LEFT", "RIGHT", "NATURAL", "USING",
    "CLUSTER", "DISTRIBUTE", "GLOBAL", "ANTI", "SEMI", "RETURNING", "OUTER", "SET", "QUALIFY",
    "WINDOW", "END", "FOR", "PARTITION", "PREWHERE", "SETTINGS", "FORMAT", "START", "CONNECT",
    "MATCH_RECOGNIZE", "FROM"]

/-- The tokens that may follow a comma behind the last item of a list. -/
def endsList : Option Token → Bool
  | none => true
  | some (.symbol s) => s == ")" || s == ";" || s == "]" || s == "\x7d"
  | some t => clauseWords.any t.isKeyword

/-- Items with commas between them, and perhaps one behind. -/
def commaListWithin {α : Type} (item : Parser α) : Nat → Parser (List α)
  | 0 => fail
  | fuel + 1 => do
    let a ← item
    if ← symbol? "," then
      if endsList (← peek) then pure [a]
      else
        let rest ← commaListWithin item fuel
        pure (a :: rest)
    else pure [a]

/-- Items with commas between them, at least one. -/
def commaList {α : Type} (item : Parser α) : Parser (List α) := fun ts =>
  commaListWithin item (ts.length + 1) ts

/-- Items with commas between them, and none behind the last. -/
def strictListWithin {α : Type} (item : Parser α) : Nat → Parser (List α)
  | 0 => fail
  | fuel + 1 => do
    let a ← item
    if ← symbol? "," then
      let rest ← strictListWithin item fuel
      pure (a :: rest)
    else pure [a]

def strictList {α : Type} (item : Parser α) : Parser (List α) := fun ts =>
  strictListWithin item (ts.length + 1) ts

/-- Items with commas between them, perhaps none, before a closing symbol, which stays. -/
def commaListUntil {α : Type} (item : Parser α) (close : String) : Parser (List α) := do
  if ← atSymbol close then pure []
  else
    match ← optional (do symbol ","; if !(← atSymbol close) then fail) with
    | some _ => pure []
    | none => commaList item

/-- Texts with commas between them, as one text. -/
def commaText (item : Parser String) : Parser String := do
  let texts ← commaList item
  pure (", ".intercalate texts)

/-- Names in parentheses as text, with the parentheses. -/
def nameList : Parser String := do
  let names ← parenthesized (commaList ident)
  pure ("(" ++ listed names ++ ")")

/-- An alias: any name behind AS, and without it a string or a word that begins no clause. -/
def optionalAlias (reserved : List String) : Parser (Option Ident) := do
  if ← keyword? "AS" then some <$> ident
  else
    match ← peek with
    | some (.string _) => some <$> ident
    | some (.word w) => if reserved.contains w.upper then pure none else some <$> ident
    | _ => pure none

end Parser
end FramePlan.Sql
