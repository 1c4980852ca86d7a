import FramePlan.Sql.Parser.Expr.Operators

/-!
# Tables of a FROM list

A table is a name, a call, a query in parentheses or tables joined in parentheses; it may have an
alias, and it may be turned by PIVOT and UNPIVOT. Joins stand behind it.
-/
namespace FramePlan.Sql.Parser

/-- A column in the alias of a table, with its type if one is given. -/
def aliasColumn : Parser String := do
  let name ← ident
  match ← optional typeName with
  | some type => pure (name.text ++ " " ++ type.text)
  | none => pure name.text

/-- The columns of an alias in parentheses, with them; empty if there are none. -/
def aliasColumns : Parser String := do
  if ← atSymbol "(" then
    let columns ← parenthesized (commaText aliasColumn)
    pure (" (" ++ columns ++ ")")
  else pure ""

/-- The alias of a table as text, with a space before it. -/
def tableAlias : Parser String := do
  match ← optionalAlias tableWords with
  | some name =>
    let columns ← aliasColumns
    pure (" AS " ++ name.text ++ columns)
  | none => pure ""

/-- A source of rows that is no plain name. -/
def rowSource (text tail : String) : Source := ⟨text, false, tail, false, []⟩

section

variable (g : Grammar)

/-! ## Turned tables -/

/-- An expression with a name that may stand behind AS. -/
def namedExpr : Parser String := do
  let e ← g.expr 0
  let name ← clause ["AS"] (Ident.text <$> ident)
  pure (e.text ++ name)

/-- An aggregate of a turned table. -/
def pivotCall : Parser String := do
  match ← next with
  | .word w =>
    let e ← call g [⟨w.text, none⟩]
    let name ← clause ["AS"] (Ident.text <$> ident)
    pure (e.text ++ name)
  | _ => fail

/-- The values that become columns. -/
def pivotValues : Parser String := do
  if ← keyword? "ANY" then
    let order ← clause ["ORDER", "BY"] (orderText g)
    pure ("ANY" ++ order)
  else if beginsSelect (← peek) then Query.text <$> g.query
  else commaText (namedExpr g)

/-- A PIVOT behind a table, behind that word. -/
def pivotTail : Parser String := do
  let body ← parenthesized do
    let calls ← commaText (pivotCall g)
    keyword "FOR"
    let column ← nameText
    keyword "IN"
    let values ← parenthesized (pivotValues g)
    let fallback ← do
      if ← keywords? ["DEFAULT", "ON", "NULL"] then
        let e ← parenthesized (exprText g)
        pure (" DEFAULT ON NULL (" ++ e ++ ")")
      else pure ""
    pure (calls ++ " FOR " ++ column ++ " IN (" ++ values ++ ")" ++ fallback)
  let name ← tableAlias
  pure (" PIVOT(" ++ body ++ ")" ++ name)

/-- An UNPIVOT behind a table, behind that word. -/
def unpivotTail : Parser String := do
  let body ← parenthesized do
    let value ← ident
    keyword "FOR"
    let name ← ident
    keyword "IN"
    let columns ← nameList
    pure (value.text ++ " FOR " ++ name.text ++ " IN " ++ columns)
  let name ← tableAlias
  pure (" UNPIVOT(" ++ body ++ ")" ++ name)

/-- A table with what turns it. -/
def turnedWithin (s : Source) : Nat → Parser Source
  | 0 => pure s
  | fuel + 1 => do
    if ← keyword? "PIVOT" then
      let tail ← pivotTail g
      turnedWithin (rowSource (s.factorText ++ tail) "") fuel
    else if ← keyword? "UNPIVOT" then
      let tail ← unpivotTail
      turnedWithin (rowSource (s.factorText ++ tail) "") fuel
    else pure s

def turned (s : Source) : Parser Source := fun ts => turnedWithin g s ts.length ts

/-! ## Tables -/

/-- A query in parentheses behind the first one, as a table. -/
def derived (before : String) : Parser Source := do
  let q ← g.query
  symbol ")"
  let tail ← tableAlias
  pure (rowSource (before ++ "(" ++ q.text ++ ")") tail)

/-- The arguments of a table function, in parentheses. -/
def tableArguments : Parser String := parenthesized do
  if ← atSymbol ")" then pure "" else commaText (Arg.text <$> argument g)

/-- A table that may depend on the tables before it, behind that word. -/
def lateralTable : Parser Source := do
  if ← symbol? "(" then derived g "LATERAL "
  else
    let name ← nameText
    let args ← tableArguments g
    let tail ← tableAlias
    pure (rowSource ("LATERAL " ++ name ++ "(" ++ args ++ ")") tail)

/-- The hints behind a table. -/
def tableHints : Parser String := do
  let hints ← optional (do keyword "WITH"; symbol "(")
  match hints with
  | some _ =>
    let es ← exprListText g
    symbol ")"
    pure (" WITH (" ++ es ++ ")")
  | none => pure ""

/-- A table by its name, or a call of a table function. -/
def namedTable : Parser Source := do
  let name ← nameText
  let args ← do
    if ← atSymbol "(" then
      let args ← tableArguments g
      pure ("(" ++ args ++ ")")
    else pure ""
  let ordinality ← words ["WITH", "ORDINALITY"]
  let naming ← tableAlias
  let hints ← tableHints g
  turned g ⟨name, true, args ++ ordinality ++ naming ++ hints, false, []⟩

/-! ## Joins -/

/-- The condition of a join. -/
def joinCondition : Parser String := do
  if ← keyword? "ON" then
    let e ← g.expr 0
    pure (" ON " ++ e.text)
  else if ← keyword? "USING" then
    let names ← nameList
    pure (" USING" ++ names)
  else pure ""

/-- The kind of join behind LEFT or RIGHT, up to its word. -/
def sidedJoin (side : String) : Parser String := do
  match ← oneOf ["OUTER", "SEMI", "ANTI", "JOIN"] with
  | "JOIN" => pure (side ++ " JOIN")
  | kind =>
    keyword "JOIN"
    pure (if kind = "OUTER" then side ++ " JOIN" else side ++ " " ++ kind ++ " JOIN")

/-- The words that begin a join which has a condition, in normal form; none if no join begins. -/
def joinWords : Parser (Option String) := do
  if ← atKeyword ["INNER", "JOIN"] then
    let _ ← keyword? "INNER"
    keyword "JOIN"
    pure (some "JOIN")
  else if ← keyword? "LEFT" then some <$> sidedJoin "LEFT"
  else if ← keyword? "RIGHT" then some <$> sidedJoin "RIGHT"
  else if ← keyword? "ANTI" then
    keyword "JOIN"
    pure (some "ANTI JOIN")
  else if ← keyword? "SEMI" then
    keyword "JOIN"
    pure (some "SEMI JOIN")
  else if ← keyword? "FULL" then
    let _ ← keyword? "OUTER"
    keyword "JOIN"
    pure (some "FULL JOIN")
  else pure none

/-- A join behind a table, if one begins: `table` reads the table that is joined. The word GLOBAL is
    taken in any case. -/
def join? (table : Parser Source) : Parser (Option String) := do
  let everywhere ← keyword? "GLOBAL"
  let start := textIf everywhere "GLOBAL "
  if ← keyword? "CROSS" then
    let word ← oneOf ["JOIN", "APPLY"]
    let t ← table
    pure (some (start ++ "CROSS " ++ word ++ " " ++ t.factorText))
  else if ← keyword? "OUTER" then
    keyword "APPLY"
    let t ← table
    pure (some (start ++ "OUTER APPLY " ++ t.factorText))
  else if ← keyword? "ASOF" then
    keyword "JOIN"
    let t ← table
    keyword "MATCH_CONDITION"
    let c ← parenthesized (exprText g)
    let condition ← joinCondition g
    pure (some (start ++ "ASOF JOIN " ++ t.factorText ++ " MATCH_CONDITION (" ++ c ++ ")" ++
      condition))
  else
    let natural ← keyword? "NATURAL"
    match ← joinWords with
    | some word =>
      let t ← table
      let condition ← if natural then pure "" else joinCondition g
      pure (some (start ++ textIf natural "NATURAL " ++ word ++ " " ++ t.factorText ++ condition))
    | none => if natural then fail else pure none

/-- The joins behind a table. -/
def joinsWithin (table : Parser Source) : Nat → Parser (List String)
  | 0 => pure []
  | fuel + 1 => do
    match ← join? g table with
    | some j =>
      let rest ← joinsWithin table fuel
      pure (j :: rest)
    | none => pure []

/-- A table and the joins behind it. -/
def joined (table : Parser Source) : Parser Source := do
  let s ← table
  let joins ← fun ts => joinsWithin g table (ts.length + 1) ts
  pure { s with joins := joins }

/-- A table in parentheses, behind the first one: a query, or joined tables. A table alone may not
    stand in parentheses, unless it stands in more than one pair. -/
def nestedTable (inner : Parser Source) : Parser Source := do
  match ← optional (derived g "") with
  | some s => turned g s
  | none =>
    let s ← inner
    if s.joins.isEmpty && !s.isNest then fail
    symbol ")"
    let tail ← tableAlias
    pure ⟨"(" ++ s.text ++ ")", false, tail, true, []⟩

/-- A table without the joins behind it, `fuel` bounding how many are within each other. -/
def tableWithin : Nat → Parser Source
  | 0 => fail
  | fuel + 1 => do
    if ← keyword? "LATERAL" then lateralTable g
    else if ← keyword? "TABLE" then
      let e ← parenthesized (exprText g)
      let tail ← tableAlias
      pure (rowSource ("TABLE(" ++ e ++ ")") tail)
    else if ← symbol? "(" then nestedTable g (joined g (tableWithin fuel))
    else namedTable g

/-- A table with its joins. -/
def source : Parser Source := fun ts => joined g (tableWithin g (ts.length + 1)) ts

end

end FramePlan.Sql.Parser
