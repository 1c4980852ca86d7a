import FramePlan.Sql.Parser.TypeName

/-!
# Parts of expressions

What nests in expressions is read by the parsers of a `Grammar`, which the parsers of all parts of
expressions take. Here are the parts that calls and queries share: queries in parentheses, sort
keys, intervals and windows.
-/
namespace FramePlan.Sql.Parser

/-- The parsers of what nests. -/
structure Grammar where
  /-- An expression whose operators bind more tightly than a given one. -/
  expr : Nat → Parser Expr
  query : Parser Query
  /-- An operand alone, whose own parts are the expressions and queries above. -/
  operand : Parser Expr

/-- The word is one that a query in parentheses begins with inside an expression. -/
def beginsSelect : Option Token → Bool
  | some t => t.isKeyword "SELECT" || t.isKeyword "WITH"
  | none => false

section

variable (g : Grammar)

/-- An expression as text. -/
def exprText : Parser String := Expr.text <$> g.expr 0

/-- Expressions with commas between them as text. -/
def exprListText : Parser String := textList <$> commaList (g.expr 0)

/-- A query in parentheses as text, with them. -/
def subqueryText : Parser String := do
  let q ← parenthesized g.query
  pure ("(" ++ q.text ++ ")")

/-! ## Sort keys -/

/-- An item of an ORDER BY list. -/
def orderItem : Parser OrderItem := do
  let e ← g.expr 0
  let ascending ← do
    if ← keyword? "ASC" then pure (some true)
    else if ← keyword? "DESC" then pure (some false)
    else pure none
  let nulls ← do
    if ← keywords? ["NULLS", "FIRST"] then pure " NULLS FIRST"
    else if ← keywords? ["NULLS", "LAST"] then pure " NULLS LAST"
    else pure ""
  pure ⟨e, ascending, nulls⟩

/-- An ORDER BY clause, empty if there is none. -/
def orderBy : Parser (List OrderItem) := do
  if ← keywords? ["ORDER", "BY"] then commaList (orderItem g) else pure []

/-- The list of an ORDER BY clause as text. -/
def orderText : Parser String := OrderItem.textAll <$> commaList (orderItem g)

/-! ## Intervals -/

/-- The units of time that may stand behind the value of an interval. -/
def intervalUnits : List String :=
  ["YEAR", "MONTH", "WEEK", "DAY", "HOUR", "MINUTE", "SECOND", "CENTURY", "DECADE", "DOW", "DOY",
    "EPOCH", "ISODOW", "ISOYEAR", "JULIAN", "MICROSECOND", "MICROSECONDS", "MILLENIUM",
    "MILLENNIUM", "MILLISECOND", "MILLISECONDS", "NANOSECOND", "NANOSECONDS", "QUARTER",
    "TIMEZONE", "TIMEZONE_HOUR", "TIMEZONE_MINUTE"]

/-- The fields of a date or a time. -/
def timeFields : List String :=
  intervalUnits ++ ["DAYOFWEEK", "DAYOFYEAR", "DATE", "DATETIME", "ISOWEEK", "TIME",
    "TIMEZONE_ABBR", "TIMEZONE_REGION"]

/-- A field of a date or a time. -/
def timeField : Parser String := oneOf timeFields

/-- A number in parentheses with a space before it, or nothing. -/
def spacedWidth : Parser String := do
  let w ← width
  pure (textIf (!w.isEmpty) " " ++ w)

/-- The fields behind the value of an interval. -/
def intervalFields : Parser String := do
  match ← oneOf? intervalUnits with
  | some "SECOND" =>
    if ← symbol? "(" then
      let n ← count
      let scale ← do
        if ← symbol? "," then
          let s ← count
          pure (", " ++ toString s)
        else pure ""
      symbol ")"
      pure (" SECOND (" ++ toString n ++ scale ++ ")")
    else pure " SECOND"
  | unit =>
    let start := match unit with
      | some u => " " ++ u
      | none => ""
    let w ← spacedWidth
    if ← keyword? "TO" then
      let last ← timeField
      let part ← if last = "SECOND" then spacedWidth else pure ""
      pure (start ++ w ++ " TO " ++ last ++ part)
    else pure (start ++ w)

/-- An interval, behind that word. Its value is an operand. -/
def interval : Parser Expr := do
  let value ← g.operand
  let fields ← intervalFields
  pure (.foreign ("INTERVAL " ++ value.text ++ fields))

/-! ## Windows -/

/-- An end of the frame of a window. -/
def frameBound : Parser String := do
  if ← keywords? ["CURRENT", "ROW"] then pure "CURRENT ROW"
  else
    let rows ← do
      if ← keyword? "UNBOUNDED" then pure "UNBOUNDED"
      else
        match ← peek with
        | some (.string _) => Expr.text <$> interval g
        | _ => exprText g
    let side ← oneOf ["PRECEDING", "FOLLOWING"]
    pure (rows ++ " " ++ side)

/-- The frame of a window. -/
def windowFrame : Parser String := do
  let units ← oneOf ["ROWS", "RANGE", "GROUPS"]
  if ← keyword? "BETWEEN" then
    let start ← frameBound g
    keyword "AND"
    let stop ← frameBound g
    pure (units ++ " BETWEEN " ++ start ++ " AND " ++ stop)
  else
    let start ← frameBound g
    pure (units ++ " " ++ start)

/-- The window that this one is made from. -/
def baseWindow : Parser String := do
  match ← peek with
  | some (.word w) => if w.isPlainName then Ident.text <$> ident else pure ""
  | _ => pure ""

/-- A window in parentheses, with them. -/
def windowText : Parser String := do
  symbol "("
  let name ← baseWindow
  let keys ← clauseText ["PARTITION", "BY"] (exprListText g)
  let order ← clauseText ["ORDER", "BY"] (orderText g)
  let frame ← do
    if ← atSymbol ")" then pure "" else windowFrame g
  symbol ")"
  let parts := [name, keys, order, frame].filter (!·.isEmpty)
  pure ("(" ++ " ".intercalate parts ++ ")")

end

end FramePlan.Sql.Parser
