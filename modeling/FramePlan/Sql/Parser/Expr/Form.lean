import FramePlan.Sql.Parser.Expr.Call

/-!
# Forms with a grammar of their own

Some words begin an expression with its own grammar, such as a case or a cast. `form` reads what such
a word begins, behind the word, and gives nothing for a word that begins no form.
-/
namespace FramePlan.Sql.Parser

section

variable (g : Grammar)

/-! ## Cases and casts -/

/-- The branches of a CASE, behind the first WHEN. -/
def branchesWithin : Nat → Parser (List (Expr × Expr))
  | 0 => fail
  | fuel + 1 => do
    let condition ← g.expr 0
    keyword "THEN"
    let result ← g.expr 0
    if ← keyword? "WHEN" then
      let rest ← branchesWithin fuel
      pure ((condition, result) :: rest)
    else pure [(condition, result)]

/-- A CASE, behind that word. -/
def caseForm : Parser Expr := do
  let operand ← do
    if ← keyword? "WHEN" then pure none
    else
      let e ← g.expr 0
      keyword "WHEN"
      pure (some e)
  let branches ← fun ts => branchesWithin g (ts.length + 1) ts
  let otherwise ← do
    if ← keyword? "ELSE" then some <$> g.expr 0 else pure none
  keyword "END"
  pure (.case operand branches otherwise)

/-- The format of a cast. -/
def castFormat : Parser String := do
  if ← keyword? "FORMAT" then
    let v ← value
    let zone ← clause ["AT", "TIME", "ZONE"] (Literal.text <$> value)
    pure (" FORMAT " ++ v.text ++ zone)
  else pure ""

/-- A cast written as a call, behind its word. -/
def castForm (style : CastStyle) : Parser Expr := parenthesized do
  let e ← g.expr 0
  keyword "AS"
  let type ← typeName
  let format ← castFormat
  pure (.cast e style type format)

/-- A conversion to a type or to a set of characters. -/
def convertForm : Parser Expr := parenthesized do
  let e ← g.expr 0
  if ← keyword? "USING" then
    let set ← nameText
    pure (.foreign ("CONVERT(" ++ e.text ++ " USING " ++ set ++ ")"))
  else
    symbol ","
    let type ← typeName
    let set ← clause ["CHARACTER", "SET"] nameText
    pure (.foreign ("CONVERT(" ++ e.text ++ ", " ++ type.text ++ set ++ ")"))

/-! ## Functions of numbers and times -/

/-- Rounding up or down, to a field of a time or to a number of places. -/
def roundForm (name : String) : Parser Expr := parenthesized do
  let e ← g.expr 0
  if ← keyword? "TO" then
    let field ← timeField
    pure (.foreign (name ++ "(" ++ e.text ++ " TO " ++ field ++ ")"))
  else if ← symbol? "," then
    match ← value with
    | .number n long =>
      pure (.foreign (name ++ "(" ++ e.text ++ ", " ++ (Literal.number n long).text ++ ")"))
    | _ => fail
  else pure (.foreign (name ++ "(" ++ e.text ++ ")"))

/-- A field of a time. -/
def extractForm : Parser Expr := parenthesized do
  let field ← timeField
  keyword "FROM"
  let e ← g.expr 0
  pure (.foreign ("EXTRACT(" ++ field ++ " FROM " ++ e.text ++ ")"))

/-! ## Functions of texts -/

/-- The place of a text in another one, or a call of the function. -/
def positionForm (name : Ident) : Parser Expr := orElse
  (parenthesized do
    let e ← g.expr 20
    keyword "IN"
    let within ← g.expr 0
    pure (.foreign ("POSITION(" ++ e.text ++ " IN " ++ within.text ++ ")")))
  (call g [name])

/-- A part of a text. The words and the comma may be mixed; the comma in the first place decides how
    both parts are written. -/
def substringForm : Parser Expr := parenthesized do
  let e ← g.expr 0
  let comma ← symbol? ","
  let hasStart ← if comma then pure true else keyword? "FROM"
  let start ← if hasStart then some <$> g.expr 0 else pure none
  let hasLength ← if ← keyword? "FOR" then pure true else symbol? ","
  let length ← if hasLength then some <$> g.expr 0 else pure none
  pure (.foreign ("SUBSTRING(" ++ e.text ++ textOptional (if comma then ", " else " FROM ") start ++
    textOptional (if comma then ", " else " FOR ") length ++ ")"))

/-- A text with a part of it replaced. -/
def overlayForm : Parser Expr := parenthesized do
  let e ← g.expr 0
  keyword "PLACING"
  let what ← g.expr 0
  keyword "FROM"
  let start ← g.expr 0
  let length ← clause ["FOR"] (exprText g)
  pure (.foreign ("OVERLAY(" ++ e.text ++ " PLACING " ++ what.text ++ " FROM " ++ start.text ++
    length ++ ")"))

/-- A text without the characters at its ends. A comma may stand behind the text. -/
def trimForm : Parser Expr := parenthesized do
  let side ← oneOf? ["BOTH", "LEADING", "TRAILING"]
  let start := "TRIM(" ++ spaced (side.getD "")
  let e ← g.expr 0
  if ← keyword? "FROM" then
    let whole ← g.expr 0
    pure (.foreign (start ++ e.text ++ " FROM " ++ whole.text ++ ")"))
  else
    let _ ← symbol? ","
    pure (.foreign (start ++ e.text ++ ")"))

/-! ## Arrays, maps and queries -/

/-- An array in brackets, behind the first one. -/
def arrayItems (name : String) : Parser Expr := do
  let items ← commaListUntil (g.expr 0) "]"
  symbol "]"
  pure (.foreign (name ++ "[" ++ textList items ++ "]"))

/-- An entry of a map. -/
def mapEntry : Parser String := do
  let key ← g.expr 0
  symbol ":"
  let e ← g.expr 0
  pure (key.text ++ ": " ++ e.text)

/-- An entry of a dictionary, whose key is a name. -/
def dictionaryEntry : Parser String := do
  let key ← ident
  symbol ":"
  let e ← g.expr 0
  pure (key.text ++ ": " ++ e.text)

/-- Entries in braces behind the first one, with both. -/
def braced (entry : Parser String) : Parser String := do
  let entries ← commaListUntil entry "\x7d"
  symbol "\x7d"
  pure ("\x7b" ++ ", ".intercalate entries ++ "\x7d")

/-- A negation, behind that word. -/
def notForm : Parser Expr := do
  if ← keyword? "EXISTS" then
    let q ← subqueryText g
    pure (.foreign ("NOT EXISTS " ++ q))
  else .unary .not <$> g.expr 15

/-! ## Words that begin forms -/

/-- The functions that are called without parentheses. -/
def timeFunctions : List String :=
  ["CURRENT_DATE", "CURRENT_TIME", "CURRENT_TIMESTAMP", "LOCALTIME", "LOCALTIMESTAMP"]

/-- The parsers of forms by the words that begin them. -/
def forms : List (String × Parser Expr) :=
  [("TRUE", pure (.literal (.bool true))), ("FALSE", pure (.literal (.bool false))),
    ("NULL", pure (.literal .null)), ("CASE", caseForm g), ("CAST", castForm g .call),
    ("TRY_CAST", castForm g .tryCall), ("SAFE_CAST", castForm g .safeCall),
    ("CONVERT", convertForm g), ("NOT", notForm g), ("EXTRACT", extractForm g),
    ("EXISTS", (fun q => .foreign ("EXISTS " ++ q)) <$> subqueryText g),
    ("CEIL", roundForm g "CEIL"), ("FLOOR", roundForm g "FLOOR"), ("SUBSTRING", substringForm g),
    ("OVERLAY", overlayForm g), ("TRIM", trimForm g), ("INTERVAL", interval g)]

/-- The form that a word begins, if it begins one. Some words begin a form only before a certain
    symbol. -/
def form (w : Word) : Parser (Option Expr) := do
  if timeFunctions.contains w.upper then some <$> timeCall g w.ident
  else
    match (forms g).lookup w.upper with
    | some p => some <$> p
    | none =>
      if w.upper = "POSITION" then
        if ← atSymbol "(" then some <$> positionForm g w.ident else pure none
      else if w.upper = "ARRAY" then
        if ← symbol? "[" then some <$> arrayItems g "ARRAY"
        else if ← atSymbol "(" then
          let q ← parenthesized g.query
          pure (some (.call [w.ident] (.query q.text) false ""))
        else pure none
      else if w.upper = "MAP" then
        if ← symbol? "\x7b" then (fun s => some (.foreign ("MAP " ++ s))) <$> braced (mapEntry g)
        else pure none
      else pure none

end

end FramePlan.Sql.Parser
