import FramePlan.Text.AlphabeticTable
import FramePlan.Text.Blank
import FramePlan.Text.Case
import FramePlan.Text.NumericTable

/-!
# Tokens of query text

A query text is words, numbers, strings, placeholders and symbols, with blanks and comments between
them. A word is an identifier or a keyword, which only its place decides; a word in quotes is never
a keyword. Symbols are taken as long as possible.
-/
namespace FramePlan.Sql

/-- A word as written, with its quote if it was quoted. -/
structure Word where
  text : String
  quote : Option Char
  /-- The keyword that it could be: its text in capitals, nothing for a quoted word. -/
  upper : String
  deriving DecidableEq, Inhabited

/-- The word of an unquoted text. -/
def Word.plain (text : String) : Word := ⟨text, none, String.ofList (Text.upper text.toList)⟩

/-- The word of a quoted text. -/
def Word.quoted (text : String) (quote : Char) : Word := ⟨text, some quote, ""⟩

/-- The word as it is written, its text as it is between the quotes. -/
def Word.written (w : Word) : String :=
  match w.quote with
  | some q => String.singleton q ++ w.text ++ String.singleton q
  | none => w.text

inductive Token
  | word (w : Word)
  /-- A number as written, and whether an `L` stands behind it. -/
  | number (text : String) (long : Bool)
  /-- A string in single quotes. -/
  | string (text : String)
  /-- A string behind an `N`. -/
  | national (text : String)
  /-- A string of hexadecimal digits. -/
  | hex (text : String)
  /-- A string between two dollar signs, perhaps with a tag in them. -/
  | dollar (tag text : String)
  /-- A mark for a value that is given later. -/
  | placeholder (text : String)
  | symbol (text : String)
  deriving DecidableEq, Inhabited

/-- The token is an unquoted word that is the keyword in any case. -/
def Token.isKeyword (keyword : String) : Token → Bool
  | .word w => w.upper == keyword
  | _ => false

def isWordStart (c : Char) : Bool := Text.inRanges Text.alphabeticRanges c.toNat || c == '_'

def isWordPart (c : Char) : Bool := isWordStart c || c.isDigit || c == '$'

def isNumeric (c : Char) : Bool := Text.inRanges Text.numericRanges c.toNat

/-- The symbols of more than one character, the longer ones first. -/
def longSymbols : List String :=
  ["!~~*", "<=>", "->>", "||/", "#>>", "!~~", "!~*", "~~*", "==", "=>", "!=", "<>", "<=", ">=",
    "<<", ">>", "<@", "//", "||", "|/", "::", ":=", "->", "&&", "^@", "!!", "!~", "~~", "~*", "#>",
    "#-", "@>", "@?", "@@"]

/-- The text of a quoted word or string up to its closing quote, which is written twice inside, and
    what follows. -/
def readQuoted (quote : Char) : List Char → Option (List Char × List Char)
  | [] => none
  | [c] => if c = quote then some ([], []) else none
  | c :: d :: rest =>
    if c = quote then
      if d = quote then (readQuoted quote rest).map fun r => (quote :: r.1, r.2)
      else some ([], d :: rest)
    else (readQuoted quote (d :: rest)).map fun r => (c :: r.1, r.2)

/-- The character that a backslash before this one stands for. -/
def escaped (c : Char) : Char :=
  if c = '0' then '\x00'
  else if c = 'a' then '\x07'
  else if c = 'b' then '\x08'
  else if c = 'f' then '\x0c'
  else if c = 'n' then '\n'
  else if c = 'r' then '\r'
  else if c = 't' then '\t'
  else if c = 'Z' then '\x1a'
  else c

/-- The text of a string with backslash escapes up to its closing quote, and what follows. -/
def readEscaped : List Char → Option (List Char × List Char)
  | [] => none
  | [c] => if c = '\x27' then some ([], []) else none
  | c :: d :: rest =>
    if c = '\x27' then
      if d = '\x27' then (readEscaped rest).map fun r => (c :: r.1, r.2)
      else some ([], d :: rest)
    else if c = '\\' then (readEscaped rest).map fun r => (escaped d :: r.1, r.2)
    else (readEscaped (d :: rest)).map fun r => (c :: r.1, r.2)

/-- What follows the end of a block comment, `depth` comments further out than the innermost one.
    Comments nest. A character can end one mark and begin the next, so that a comment which ends
    before a star begins anew; `last` is the character before. -/
def afterBlockComment (depth : Nat) (last : Char) : List Char → Option (List Char)
  | [] => none
  | c :: rest =>
    if last = '/' ∧ c = '*' then afterBlockComment (depth + 1) c rest
    else if last = '*' ∧ c = '/' then
      match depth with
      | 0 => some rest
      | d + 1 => afterBlockComment d c rest
    else afterBlockComment depth c rest

/-- What follows the end of the line. -/
def afterLine : List Char → List Char
  | '\n' :: rest => rest
  | _ :: rest => afterLine rest
  | [] => []

/-- The exponent at the start of the text, if there is a whole one, and what follows. -/
def readExponent (cs : List Char) : List Char × List Char :=
  match cs with
  | e :: rest =>
    if e = 'e' ∨ e = 'E' then
      let (sign, body) := match rest with
        | '+' :: r => (['+'], r)
        | '-' :: r => (['-'], r)
        | r => ([], r)
      let digits := body.takeWhile Char.isDigit
      if digits.isEmpty then ([], cs) else (e :: sign ++ digits, body.dropWhile Char.isDigit)
    else ([], cs)
  | [] => ([], [])

def isHexDigit (c : Char) : Bool :=
  c.isDigit || (decide ('a' ≤ c) && decide (c ≤ 'f')) || (decide ('A' ≤ c) && decide (c ≤ 'F'))

/-- A number, a string of hexadecimal digits behind `0x`, or a point alone, at the start of the
    text, and what follows. -/
def readNumber (cs : List Char) : Token × List Char :=
  match cs with
  | '0' :: 'x' :: rest =>
    (.hex (String.ofList (rest.takeWhile isHexDigit)), rest.dropWhile isHexDigit)
  | _ =>
    let whole := cs.takeWhile Char.isDigit
    let (point, rest) := match cs.dropWhile Char.isDigit with
      | '.' :: r => (['.'], r)
      | r => ([], r)
    let part := rest.takeWhile Char.isDigit
    let rest := rest.dropWhile Char.isDigit
    if whole.isEmpty && part.isEmpty then (.symbol ".", rest)
    else
      let (exponent, rest) := readExponent rest
      let text := String.ofList (whole ++ point ++ part ++ exponent)
      match rest with
      | 'L' :: r => (.number text true, r)
      | r => (.number text false, r)

/-- A symbol at the start of the text, and what follows. Any character is a symbol. -/
def readSymbol (cs : List Char) : Option (Token × List Char) :=
  match longSymbols.find? (fun s => s.toList.isPrefixOf cs) with
  | some s => some (.symbol (if s = "!=" then "<>" else s), cs.drop s.length)
  | none =>
    match cs with
    | c :: rest => some (.symbol (String.singleton c), rest)
    | [] => none

/-- The text up to two dollar signs in a row, and what follows them. -/
def readDollars : List Char → Option (List Char × List Char)
  | [] => none
  | [_] => none
  | c :: d :: rest =>
    if c = '$' ∧ d = '$' then some ([], rest)
    else (readDollars (d :: rest)).map fun r => (c :: r.1, r.2)

/-- The text up to a tag between dollar signs, and what follows it, `fuel` bounding the number of
    dollar signs met on the way. Where a sign begins another tag, the characters up to the first
    different one belong to the text. -/
def readTagged (tag : List Char) : Nat → List Char → Option (List Char × List Char)
  | 0, _ => none
  | fuel + 1, cs =>
    match cs.dropWhile (· != '$') with
    | [] => none
    | _ :: rest =>
      let start := cs.takeWhile (· != '$')
      let same := (tag.zip rest).takeWhile (fun p => p.1 == p.2)
      if same.length = tag.length then
        match rest.drop tag.length with
        | '$' :: after => some (start, after)
        | after => (readTagged tag fuel after).map fun r => (start ++ '$' :: tag ++ r.1, r.2)
      else
        let passed := rest.take (same.length + 1)
        if passed.length = same.length + 1 then
          (readTagged tag fuel (rest.drop (same.length + 1))).map fun r =>
            (start ++ '$' :: passed ++ r.1, r.2)
        else none

/-- A string between dollar signs or a placeholder, behind the first dollar sign. -/
def readDollar (cs : List Char) : Option (Token × List Char) :=
  match cs with
  | '$' :: rest => (readDollars rest).map fun r => (.dollar "" (String.ofList r.1), r.2)
  | _ =>
    let part := fun c => isWordStart c || isNumeric c
    let tag := cs.takeWhile part
    match cs.dropWhile part with
    | '$' :: rest =>
      (readTagged tag (rest.length + 1) rest).map fun r =>
        (.dollar (String.ofList tag) (String.ofList r.1), r.2)
    | rest => some (.placeholder ("$" ++ String.ofList tag), rest)

/-- A word at the start of the text, and what follows. -/
def readWord (cs : List Char) : Token × List Char :=
  (.word (.plain (String.ofList (cs.takeWhile isWordPart))), cs.dropWhile isWordPart)

/-- What stands at the start of a non-empty text, nothing for a blank or a comment, and what
    follows. A string with a letter `E` before it has no meaning here. -/
def readToken : List Char → Option (Option Token × List Char)
  | [] => none
  | '-' :: '-' :: rest => some (none, afterLine rest)
  | '/' :: '*' :: rest => (afterBlockComment 0 ' ' rest).map fun r => (none, r)
  | 'N' :: '\x27' :: rest => (readQuoted '\x27' rest).map fun r =>
    (some (.national (String.ofList r.1)), r.2)
  | 'n' :: '\x27' :: rest => (readQuoted '\x27' rest).map fun r =>
    (some (.national (String.ofList r.1)), r.2)
  | 'X' :: '\x27' :: rest => (readEscaped rest).map fun r =>
    (some (.hex (String.ofList r.1)), r.2)
  | 'x' :: '\x27' :: rest => (readEscaped rest).map fun r =>
    (some (.hex (String.ofList r.1)), r.2)
  | 'E' :: '\x27' :: _ => none
  | 'e' :: '\x27' :: _ => none
  | '$' :: rest => (readDollar rest).map fun r => (some r.1, r.2)
  | '?' :: rest =>
    some (some (.placeholder ("?" ++ String.ofList (rest.takeWhile isNumeric))),
      rest.dropWhile isNumeric)
  | c :: rest =>
    if Text.isBlank c then some (none, rest)
    else if c = '\x27' then
      (readQuoted c rest).map fun r => (some (.string (String.ofList r.1)), r.2)
    else if c = '"' ∨ c = '\x60' then
      (readQuoted c rest).map fun r => (some (.word (.quoted (String.ofList r.1) c)), r.2)
    else if c.isDigit ∨ c = '.' then
      let (t, r) := readNumber (c :: rest)
      some (some t, r)
    else if isWordStart c then
      let (t, r) := readWord (c :: rest)
      some (some t, r)
    else (readSymbol (c :: rest)).map fun r => (some r.1, r.2)

/-- The tokens of a text, `fuel` bounding the number of steps; none if it has no tokens. -/
def tokensWithin : Nat → List Char → Option (List Token)
  | _, [] => some []
  | 0, _ :: _ => none
  | fuel + 1, cs => do
    let (token, rest) ← readToken cs
    let tokens ← tokensWithin fuel rest
    pure (token.toList ++ tokens)

/-- The tokens of a text. Every step takes at least one character. -/
def tokens (text : String) : Option (List Token) := tokensWithin text.length text.toList

end FramePlan.Sql
