import FramePlan.Sql.Parser.Source

/-!
# A SELECT

A SELECT is a list of items and the clauses behind it, in a fixed order. Clauses without an effect
are read all the same, and kept as text.
-/
namespace FramePlan.Sql.Parser

section

variable (g : Grammar)

/-! ## Items -/

/-- A column that takes the place of one among those of a star. -/
def replacement : Parser String := do
  let e ← g.expr 0
  let naming ← words ["AS"]
  let name ← ident
  pure (e.text ++ naming ++ " " ++ name.text)

/-- What may follow a star of a select list. -/
def starTail : Parser String := do
  let exclude ← do
    if ← keyword? "EXCLUDE" then
      if ← atSymbol "(" then
        let names ← nameList
        pure (" EXCLUDE " ++ names)
      else
        let name ← ident
        pure (" EXCLUDE " ++ name.text)
    else pure ""
  let replace ← do
    if ← keyword? "REPLACE" then
      let items ← parenthesized (commaText (replacement g))
      pure (" REPLACE (" ++ items ++ ")")
    else pure ""
  pure (exclude ++ replace)

/-- The expression is the bare word that begins a FROM clause. -/
def isFrom : Expr → Bool
  | .ident ⟨name, none⟩ => Text.lower name.toList == "from".toList
  | _ => false

/-- An item of a select list. -/
def item : Parser Item := do
  match ← starred g with
  | .within path =>
    let tail ← starTail g
    pure (.foreign (dotted path ++ ".*" ++ tail))
  | .all => .wildcard <$> starTail g
  | .expr e =>
    if isFrom e then fail
    match ← optionalAlias clauseWords with
    | some name => pure (.named e name)
    | none => pure (.unnamed e)

/-! ## Clauses before the tables -/

/-- Whether a SELECT is marked distinct, perhaps on a list of expressions. -/
def distinctMark : Parser (Option String) := do
  let all ← keyword? "ALL"
  if ← keyword? "DISTINCT" then
    if all then fail
    if ← keyword? "ON" then
      let es ← parenthesized do
        if ← atSymbol ")" then pure "" else exprListText g
      pure (some ("DISTINCT ON (" ++ es ++ ")"))
    else pure (some "DISTINCT")
  else pure none

/-- How many rows a SELECT begins by asking for. -/
def topClause : Parser String := do
  if ← keyword? "TOP" then
    let quantity ← do
      if ← atSymbol "(" then
        let e ← parenthesized (exprText g)
        pure ("(" ++ e ++ ")")
      else toString <$> count
    let percent ← words ["PERCENT"]
    let ties ← words ["WITH", "TIES"]
    pure (" TOP " ++ quantity ++ percent ++ ties)
  else pure ""

/-- The table that a SELECT makes. -/
def intoClause : Parser String := do
  if ← keyword? "INTO" then
    let temporary ← oneOf? ["TEMP", "TEMPORARY"]
    let unlogged ← words ["UNLOGGED"]
    let table ← words ["TABLE"]
    let name ← nameText
    pure (" INTO" ++ textIf temporary.isSome " TEMPORARY" ++ unlogged ++ table ++ " " ++ name)
  else pure ""

/-! ## Clauses behind the tables -/

/-- The words that are no name of a column of a view. -/
def viewWords : List String := ["WHERE", "GROUP", "CLUSTER", "HAVING", "LATERAL"]

/-- The views behind the tables. -/
def lateralViewsWithin : Nat → Parser String
  | 0 => pure ""
  | fuel + 1 => do
    if ← keywords? ["LATERAL", "VIEW"] then
      let outer ← words ["OUTER"]
      let e ← g.expr 0
      let name ← nameText
      let columns ← commaList (optionalAlias viewWords)
      let names := columns.filterMap id
      let rest ← lateralViewsWithin fuel
      pure (" LATERAL VIEW" ++ outer ++ " " ++ e.text ++ " " ++ name ++
        textIf (!names.isEmpty) (" AS " ++ listed names) ++ rest)
    else pure ""

/-- An expression behind a keyword, if that is next. -/
def clause? (k : String) : Parser (Option Expr) := do
  if ← keyword? k then some <$> g.expr 0 else pure none

/-- Expressions in parentheses, perhaps none. -/
def keySet : Parser (List Expr) := parenthesized do
  if ← atSymbol ")" then pure [] else commaList (g.expr 0)

/-- A part of a grouping by many sets: expressions in parentheses, or one expression. -/
def keyPart : Parser String := do
  if ← atSymbol "(" then
    match ← keySet g with
    | [e] => pure e.text
    | es => pure ("(" ++ textList es ++ ")")
  else exprText g

/-- An item of a GROUP BY list. -/
def groupItem : Parser Expr := do
  if ← keywords? ["GROUPING", "SETS"] then
    let sets ← parenthesized (commaText ((fun es => "(" ++ textList es ++ ")") <$> keySet g))
    pure (.foreign ("GROUPING SETS (" ++ sets ++ ")"))
  else
    match ← oneOf? ["CUBE", "ROLLUP"] with
    | some word =>
      let parts ← parenthesized (commaText (keyPart g))
      pure (.foreign (word ++ " (" ++ parts ++ ")"))
    | none =>
      match ← optional (do symbol "("; symbol ")") with
      | some _ => pure (.foreign "()")
      | none => g.expr 0

/-- A GROUP BY clause. -/
def groupBy : Parser GroupBy := do
  if ← keywords? ["GROUP", "BY"] then
    if ← keyword? "ALL" then pure .all else GroupBy.exprs <$> commaList (groupItem g)
  else pure (.exprs [])

/-- A window with a name. -/
def namedWindow : Parser String := do
  let name ← ident
  keyword "AS"
  let window ← windowText g
  pure (name.text ++ " AS " ++ window)

/-- The clauses about windows, in either order. -/
def windowClauses : Parser String := do
  let windows := clause ["WINDOW"] (commaText (namedWindow g))
  let qualify := clause ["QUALIFY"] (exprText g)
  if ← atKeyword ["WINDOW"] then
    let w ← windows
    let q ← qualify
    pure (w ++ q)
  else
    let q ← qualify
    let w ← if q.isEmpty then pure "" else windows
    pure (q ++ w)

/-- A SELECT, behind that word. -/
def select : Parser Select := do
  let distinct ← distinctMark g
  let top ← topClause g
  let items ← commaList (item g)
  let into ← intoClause
  let sources ← do
    if ← keyword? "FROM" then commaList (source g) else pure []
  let views ← fun ts => lateralViewsWithin g ts.length ts
  let filter ← clause? g "WHERE"
  let groups ← groupBy g
  let cluster ← clause ["CLUSTER", "BY"] (exprListText g)
  let distribute ← clause ["DISTRIBUTE", "BY"] (exprListText g)
  let sort ← clause ["SORT", "BY"] (exprListText g)
  let having ← clause? g "HAVING"
  let windows ← windowClauses g
  pure ⟨distinct, top, items, into, sources, views, filter, groups, cluster ++ distribute ++ sort,
    having, windows⟩

end

end FramePlan.Sql.Parser
