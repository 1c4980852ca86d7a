import FramePlan.Sql.Parser.Select

/-!
# Queries

A query has a body, which is a SELECT, rows of values, a table, a query in parentheses, or several of
them put together by set operations. Tables with names may stand before it, and an order, limits and
locks behind it. Instead of a body there may be an INSERT or an UPDATE.

Expressions and queries nest, and how deep is bounded: `grammar depth` has the parsers with that many
levels left, and every nested expression or query takes one.
-/
namespace FramePlan.Sql.Parser

section

variable (g : Grammar)

/-! ## Changes of tables -/

/-- A table, in a list of which several may stand. -/
def sourceListText : Parser String := Source.textAll <$> commaList (source g)

/-- The items that a change of a table gives back. -/
def returning : Parser String := clause ["RETURNING"] (Item.textAll <$> commaList (item g))

/-- An assignment to a column, or to several. -/
def assignment : Parser String := do
  let column ← do
    if ← atSymbol "(" then
      let names ← parenthesized (commaText nameText)
      pure ("(" ++ names ++ ")")
    else nameText
  symbol "="
  let e ← g.expr 0
  pure (column ++ " = " ++ e.text)

/-- What is to be done where a change meets a row that is there already. -/
def conflictWord : Parser String := do
  match ← optional (do keyword "OR"; oneOf ["REPLACE", "ROLLBACK", "ABORT", "FAIL", "IGNORE"]) with
  | some word => pure (" OR " ++ word)
  | none => pure ""

/-- An UPDATE, behind that word. -/
def updateText : Parser String := do
  let conflict ← conflictWord
  let s ← source g
  keyword "SET"
  let assignments ← commaText (assignment g)
  let tables ← clause ["FROM"] (Source.text <$> source g)
  let filter ← clause ["WHERE"] (exprText g)
  let back ← returning g
  pure ("UPDATE" ++ conflict ++ " " ++ s.text ++ " SET " ++ assignments ++ tables ++ filter ++ back)

/-- What an INSERT does with a row that is there already. -/
def insertConflict : Parser String := do
  if ← keyword? "ON" then
    if ← keyword? "CONFLICT" then
      let target ← do
        if ← keywords? ["ON", "CONSTRAINT"] then (" ON CONSTRAINT " ++ ·) <$> nameText
        else if ← atSymbol "(" then nameList
        else pure ""
      keyword "DO"
      let start := " ON CONFLICT" ++ target ++ " DO "
      if ← keyword? "NOTHING" then pure (start ++ "NOTHING")
      else
        keywords ["UPDATE", "SET"]
        let assignments ← commaText (assignment g)
        let filter ← clause ["WHERE"] (exprText g)
        pure (start ++ "UPDATE SET " ++ assignments ++ filter)
    else
      keywords ["DUPLICATE", "KEY", "UPDATE"]
      let assignments ← commaText (assignment g)
      pure (" ON DUPLICATE KEY UPDATE " ++ assignments)
  else pure ""

/-- A query in parentheses is next. -/
def beginsSubquery : List Token → Bool
  | .symbol "(" :: t :: _ => t.isKeyword "SELECT"
  | _ => false

/-- The columns and the partition that an INSERT is about. -/
def insertColumns : Parser String := do
  if beginsSubquery (← get) then pure ""
  else
    let columns ← if ← atSymbol "(" then (· ++ " ") <$> nameList else pure ""
    if ← keyword? "PARTITION" then
      let keys ← parenthesized (exprListText g)
      pure (columns ++ "PARTITION (" ++ keys ++ ") ")
    else pure columns

/-- An INSERT, behind that word. -/
def insertText : Parser String := do
  let conflict ← conflictWord
  let overwrite ← words ["OVERWRITE"]
  let into ← words ["INTO"]
  let _ ← keyword? "LOCAL"
  let table ← words ["TABLE"]
  let name ← nameText
  let start := "INSERT" ++ (if conflict.isEmpty then overwrite ++ into ++ table else
    conflict ++ " INTO") ++ " " ++ name ++ " "
  let rows ← do
    if ← keywords? ["DEFAULT", "VALUES"] then pure "DEFAULT VALUES"
    else
      let columns ← insertColumns g
      let q ← g.query
      pure (columns ++ q.text)
  let change ← insertConflict g
  let back ← returning g
  pure (start ++ rows ++ change ++ back)

/-! ## Bodies -/

/-- A row of values, and whether it is marked as one. -/
def valueRow : Parser (Bool × String) := do
  let marked ← keyword? "ROW"
  let es ← parenthesized (exprListText g)
  pure (marked, "(" ++ es ++ ")")

/-- The rows behind VALUES. If one of them is marked, all are. -/
def valueRows : Parser String := do
  let rows ← commaList (valueRow g)
  let mark := textIf (rows.any (·.1)) "ROW"
  pure ("VALUES " ++ ", ".intercalate (rows.map fun r => mark ++ r.2))

/-- The text of a word. -/
def wordText? : Token → Option String
  | .word w => some w.text
  | _ => none

/-- The table behind TABLE. Three tokens are taken, or as many as there are, and the second one
    counts only if it is a point. -/
def tableBody : Parser String := fun ts =>
  let rest := ts.drop 3
  match ts with
  | t :: .symbol "." :: u :: _ =>
    match wordText? t, wordText? u with
    | some schema, some name => .ok ("TABLE " ++ schema ++ "." ++ name, rest)
    | _, _ => .error .tokens
  | [_, .symbol "."] => .error .tokens
  | t :: _ =>
    match wordText? t with
    | some name => .ok ("TABLE " ++ name, rest)
    | none => .error .tokens
  | [] => .error .tokens

/-- A query body without set operations. -/
def simpleBody : Parser Body := do
  if ← keyword? "SELECT" then .select <$> select g
  else if ← atSymbol "(" then .foreign <$> subqueryText g
  else if ← keyword? "VALUES" then .foreign <$> valueRows g
  else
    keyword "TABLE"
    .foreign <$> tableBody

/-- How tightly the set operation at the front binds; zero for what is none. -/
def setPrecedence : Option Token → Nat
  | some t =>
    if t.isKeyword "UNION" || t.isKeyword "EXCEPT" then 10
    else if t.isKeyword "INTERSECT" then 20
    else 0
  | none => 0

/-- A set operation, with the words about repeated rows and names. -/
def setOperation : Parser String := do
  let name ← oneOf ["UNION", "EXCEPT", "INTERSECT"]
  let every ← do
    if ← keywords? ["DISTINCT", "BY", "NAME"] then pure " DISTINCT BY NAME"
    else if ← keywords? ["BY", "NAME"] then pure " BY NAME"
    else if ← keyword? "ALL" then
      let names ← words ["BY", "NAME"]
      pure (" ALL" ++ names)
    else words ["DISTINCT"]
  pure (" " ++ name ++ every ++ " ")

/-- The set operations behind a body that bind more tightly than `floor`: `body` reads the right
    side of one that binds as tightly as given. -/
def setOperationsWithin (body : Nat → Parser Body) (floor : Nat) (left : Body) : Nat → Parser Body
  | 0 => pure left
  | fuel + 1 => do
    let p := setPrecedence (← peek)
    if p ≤ floor then pure left
    else
      let op ← setOperation
      let right ← body p
      setOperationsWithin body floor (.foreign (left.text ++ op ++ right.text)) fuel

/-- A query body whose set operations bind more tightly than `floor`. -/
def bodyWithin : Nat → Nat → Parser Body
  | 0, _ => fail
  | fuel + 1, floor => do
    let b ← simpleBody g
    fun ts => setOperationsWithin (bodyWithin fuel) floor b ts.length ts

/-- A query body. -/
def body : Parser Body := fun ts => bodyWithin g (ts.length + 1) 0 ts

/-! ## Clauses around a body -/

/-- A table of a WITH clause. -/
def withTable : Parser String := do
  let name ← ident
  let columns ← aliasColumns
  keyword "AS"
  let q ← subqueryText g
  let origin ← clause ["FROM"] (Ident.text <$> ident)
  pure (name.text ++ columns ++ " AS " ++ q ++ origin)

/-- A WITH clause as text, empty if there is none. -/
def withClause : Parser String := do
  if ← keyword? "WITH" then
    let recursive ← words ["RECURSIVE"]
    let tables ← commaText (withTable g)
    pure ("WITH" ++ recursive ++ " " ++ tables)
  else pure ""

/-- A LIMIT clause, unless one is there already; that of all rows is none. -/
def limit? (seen : Option Expr) : Parser (Option Expr) := do
  if seen.isSome then pure seen
  else if ← keyword? "LIMIT" then
    if ← keyword? "ALL" then pure none else some <$> g.expr 0
  else pure none

/-- An OFFSET clause as text, unless one is there already. -/
def offset (seen : String) : Parser String := do
  if !seen.isEmpty then pure seen
  else if ← keyword? "OFFSET" then
    let e ← g.expr 0
    let rows ← oneOf? ["ROW", "ROWS"]
    pure (" OFFSET " ++ e.text ++ ((rows.map (" " ++ ·)).getD ""))
  else pure ""

/-- A FETCH clause. -/
def fetchClause : Parser String := do
  if ← keyword? "FETCH" then
    let _ ← oneOf ["FIRST", "NEXT"]
    let quantity ← do
      match ← oneOf? ["ROW", "ROWS"] with
      | some _ => pure ""
      | none =>
        let v ← value
        let percent ← words ["PERCENT"]
        let _ ← oneOf ["ROW", "ROWS"]
        pure (v.text ++ percent ++ " ")
    let stop ← do
      if ← keyword? "ONLY" then pure "ONLY"
      else
        keywords ["WITH", "TIES"]
        pure "WITH TIES"
    pure (" FETCH FIRST " ++ quantity ++ "ROWS " ++ stop)
  else pure ""

/-- A lock, behind FOR. -/
def lock : Parser String := do
  let kind ← oneOf ["UPDATE", "SHARE"]
  let table ← clause ["OF"] nameText
  let skip ← do
    if ← keyword? "NOWAIT" then pure " NOWAIT" else words ["SKIP", "LOCKED"]
  pure (" FOR " ++ kind ++ table ++ skip)

/-- A string in parentheses as text, if one is next. -/
def elementName : Parser String := do
  if ← atSymbol "(" then
    let s ← parenthesized stringText
    pure ("(" ++ rawQuoted s ++ ")")
  else pure ""

/-- An option of the format of a result. A word that is none is left, and no option is read. -/
def formatOption : Parser String := do
  match ← oneOf? ["ELEMENTS", "TYPE", "BINARY", "ROOT", "INCLUDE_NULL_VALUES",
    "WITHOUT_ARRAY_WRAPPER"] with
  | some "BINARY" =>
    keyword "BASE64"
    pure ", BINARY BASE64"
  | some "ROOT" =>
    let s ← parenthesized stringText
    pure (", ROOT(" ++ rawQuoted s ++ ")")
  | some word => pure (", " ++ word)
  | none => pure ""

/-- The options of the format of a result, each behind a comma. -/
def formatOptionsWithin : Nat → Parser String
  | 0 => fail
  | fuel + 1 => do
    if ← symbol? "," then
      let o ← formatOption
      let rest ← formatOptionsWithin fuel
      pure (o ++ rest)
    else pure ""

/-- The format of a result, behind FOR; nothing if none is given. -/
def resultFormat? : Parser (Option String) := do
  match ← oneOf? ["XML", "JSON", "BROWSE"] with
  | some "BROWSE" => pure (some " FOR BROWSE")
  | some name =>
    let kind ← oneOf (if name = "XML" then ["RAW", "AUTO", "EXPLICIT", "PATH"] else ["AUTO", "PATH"])
    let element ←
      if name = "XML" ∧ (kind = "RAW" ∨ kind = "PATH") then elementName else pure ""
    let options ← fun ts => formatOptionsWithin (ts.length + 1) ts
    pure (some (" FOR " ++ name ++ " " ++ kind ++ element ++ options))
  | none => pure none

/-- The locks behind a query, and the format of its result, which ends them. -/
def forClausesWithin : Nat → Parser String
  | 0 => pure ""
  | fuel + 1 => do
    if ← keyword? "FOR" then
      match ← resultFormat? with
      | some s => pure s
      | none =>
        let s ← lock
        let rest ← forClausesWithin fuel
        pure (s ++ rest)
    else pure ""

/-! ## Queries -/

/-- A query that is a change of a table. -/
def changeQuery (tables text : String) : Query := ⟨tables, .foreign text, [], none, ""⟩

/-- A query. LIMIT and OFFSET may stand in either order. -/
def queryBody : Parser Query := do
  let tables ← withClause g
  if ← keyword? "INSERT" then changeQuery tables <$> insertText g
  else if ← keyword? "UPDATE" then changeQuery tables <$> updateText g
  else
    let b ← body g
    let order ← orderBy g
    let limit ← limit? g none
    let rows ← offset g ""
    let limit ← limit? g limit
    let rows ← offset g rows
    let fetch ← fetchClause
    let locks ← fun ts => forClausesWithin ts.length ts
    pure ⟨tables, b, order, limit, rows ++ fetch ++ locks⟩

end

/-- The parsers of expressions and queries with `depth` levels left. -/
def grammar : Nat → Grammar
  | 0 => .ofNested (fun _ => tooDeep) tooDeep
  | depth + 1 =>
    let inner := grammar depth
    .ofNested (exprAbove inner) (queryBody inner)

end FramePlan.Sql.Parser
