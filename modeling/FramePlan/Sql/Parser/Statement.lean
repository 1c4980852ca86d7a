import FramePlan.Sql.Parser.Definition

/-!
# Statements

A text is statements with semicolons between them. Only queries are evaluated; the other statements
are read to be named in a refusal, and kept by their text.
-/
namespace FramePlan.Sql
namespace Parser

section

variable (g : Grammar)

/-! ## Changes of rows -/

/-- A DELETE, behind that word. -/
def deleteText : Parser String := do
  let tables ← do
    if ← atKeyword ["FROM"] then pure "" else (· ++ " ") <$> commaText nameText
  keyword "FROM"
  let sources ← sourceListText g
  let others ← clause ["USING"] (sourceListText g)
  let filter ← clause ["WHERE"] (exprText g)
  let back ← returning g
  let order ← clause ["ORDER", "BY"] (orderText g)
  let limit ← limit? g none
  pure ("DELETE " ++ tables ++ "FROM " ++ sources ++ others ++ filter ++ back ++ order ++
    textOptional " LIMIT " limit)

/-- A TRUNCATE, behind that word. -/
def truncateText : Parser String := do
  let table ← words ["TABLE"]
  let only ← words ["ONLY"]
  let names ← commaText nameText
  let parts ← do
    if ← keyword? "PARTITION" then
      let es ← parenthesized (exprListText g)
      pure (" PARTITION (" ++ es ++ ")")
    else pure ""
  pure ("TRUNCATE" ++ table ++ only ++ " " ++ names ++ parts)

/-- A COPY, behind that word. -/
def copyText : Parser String := do
  let isQuery ← atSymbol "("
  let origin ← do
    if isQuery then subqueryText g
    else
      let name ← nameText
      let columns ← optionalNames
      pure (name ++ textIf (!columns.isEmpty) " " ++ columns)
  let word ← oneOf ["FROM", "TO"]
  if isQuery && word = "FROM" then fail
  let target ← do
    match ← oneOf? ["STDOUT", "PROGRAM"] with
    | some "STDOUT" => pure "STDOUT"
    | some _ => (fun s => "PROGRAM " ++ inQuotes '\x27' s) <$> stringText
    | none => inQuotes '\x27' <$> stringText
  pure ("COPY " ++ origin ++ " " ++ word ++ " " ++ target)

/-! ## Settings and sessions -/

/-- The assignment of a setting, behind its word. -/
def setText : Parser String := do
  let scope ← oneOf? ["SESSION", "LOCAL"]
  let name ← do
    if ← keywords? ["TIME", "ZONE"] then pure "TIMEZONE" else nameText
  if !(← symbol? "=") then keyword "TO"
  let values ← strictList do
    if beginsSelect (← peek) then Query.text <$> g.query else exprText g
  pure ("SET " ++ textIf (scope == some "LOCAL") "LOCAL " ++ name ++ " = " ++ ", ".intercalate values)

/-- The names of what is to be shown, to an equals sign or the end. Other tokens are passed over. -/
def shownNames (ts : List Token) : List Ident × List Token :=
  let isEquals : Token → Bool := (· == .symbol "=")
  ((ts.takeWhile (!isEquals ·)).filterMap fun t => match t with
    | .word w => some w.ident
    | _ => none, ts.dropWhile (!isEquals ·))

/-- A SHOW, behind that word. -/
def showText : Parser String := do
  match ← oneOf? ["TABLES", "SCHEMAS", "DATABASES", "VIEWS", "FUNCTIONS"] with
  | some what => pure ("SHOW " ++ what)
  | none =>
    let names ← fun ts => .ok (shownNames ts)
    pure ("SHOW" ++ String.join (names.map fun n => " " ++ n.text))

/-- A setting of the database, behind its word. -/
def pragmaText : Parser String := do
  let name ← nameText
  let setting : Parser String := do
    match ← value with
    | .bool _ => fail
    | .null => fail
    | v => pure v.text
  if ← atSymbol "(" then
    let v ← parenthesized setting
    pure ("PRAGMA " ++ name ++ "(" ++ v ++ ")")
  else if ← symbol? "=" then
    let v ← setting
    pure ("PRAGMA " ++ name ++ " = " ++ v)
  else pure ("PRAGMA " ++ name)

/-- A call of a procedure, behind its word. -/
def callText : Parser String := do
  let name ← dottedName
  if ← atSymbol "(" then
    let e ← call g name
    pure ("CALL " ++ e.text)
  else pure ("CALL " ++ dotted name)

/-! ## Databases and transactions -/

/-- An option of a database that is attached. -/
def attachOption : Parser String := do
  if ← keyword? "READ_ONLY" then
    match ← oneOf? ["TRUE", "FALSE"] with
    | some "TRUE" => pure "READ_ONLY true"
    | some _ => pure "READ_ONLY false"
    | none => pure "READ_ONLY"
  else
    keyword "TYPE"
    let name ← ident
    pure ("TYPE " ++ name.text)

/-- An ATTACH, behind that word. -/
def attachText : Parser String := do
  let database ← words ["DATABASE"]
  let test ← words ["IF", "NOT", "EXISTS"]
  let path ← ident
  let name ← clause ["AS"] (Ident.text <$> ident)
  let options ← do
    if ← atSymbol "(" then
      let os ← parenthesized (commaText attachOption)
      pure (" (" ++ os ++ ")")
    else pure ""
  pure ("ATTACH" ++ database ++ test ++ " " ++ path.text ++ name ++ options)

/-- A DETACH, behind that word. -/
def detachText : Parser String := do
  let database ← words ["DATABASE"]
  let test ← words ["IF", "EXISTS"]
  let name ← ident
  pure ("DETACH" ++ database ++ test ++ " " ++ name.text)

/-- How strictly a transaction keeps to itself. -/
def isolation : Parser String := do
  if ← keywords? ["READ", "UNCOMMITTED"] then pure "READ UNCOMMITTED"
  else if ← keywords? ["READ", "COMMITTED"] then pure "READ COMMITTED"
  else if ← keywords? ["REPEATABLE", "READ"] then pure "REPEATABLE READ"
  else oneOf ["SERIALIZABLE"]

/-- The modes of a transaction. The commas between them may be left out, but a mode follows each. -/
def modesWithin (required : Bool) : Nat → Parser (List String)
  | 0 => pure []
  | fuel + 1 => do
    let mode ← do
      if ← keywords? ["ISOLATION", "LEVEL"] then
        let level ← isolation
        pure ("ISOLATION LEVEL " ++ level)
      else if ← keywords? ["READ", "ONLY"] then pure "READ ONLY"
      else if ← keywords? ["READ", "WRITE"] then pure "READ WRITE"
      else if required then fail
      else pure ""
    if mode.isEmpty then pure []
    else
      let comma ← symbol? ","
      let rest ← modesWithin comma fuel
      pure (mode :: rest)

/-- The modes of a transaction as text. -/
def modesText : Parser String := do
  let modes ← fun ts => modesWithin false (ts.length + 1) ts
  pure (textIf (!modes.isEmpty) " " ++ ", ".intercalate modes)

/-- Whether another transaction follows one that ends. -/
def chainText : Parser String := do
  let _ ← oneOf? ["TRANSACTION", "WORK"]
  if ← keyword? "AND" then
    let no ← keyword? "NO"
    keyword "CHAIN"
    pure (textIf (!no) " AND CHAIN")
  else pure ""

/-- The end of a transaction that undoes it, behind its word. -/
def rollbackText : Parser String := do
  let chain ← chainText
  let point ← do
    if ← keyword? "TO" then
      let _ ← keyword? "SAVEPOINT"
      let name ← ident
      pure (" TO SAVEPOINT " ++ name.text)
    else pure ""
  pure ("ROLLBACK" ++ chain ++ point)

/-- The texts of statements about transactions and databases, by the word that begins them. -/
def sessionTexts : List (String × Parser String) :=
  [("BEGIN", do
      let _ ← oneOf? ["TRANSACTION", "WORK"]
      ("BEGIN TRANSACTION" ++ ·) <$> modesText),
    ("START", do
      keyword "TRANSACTION"
      ("START TRANSACTION" ++ ·) <$> modesText),
    ("COMMIT", ("COMMIT" ++ ·) <$> chainText), ("END", ("COMMIT" ++ ·) <$> chainText),
    ("ROLLBACK", rollbackText),
    ("SAVEPOINT", (fun i => "SAVEPOINT " ++ i.text) <$> ident),
    ("RELEASE", do
      let _ ← keyword? "SAVEPOINT"
      (fun i => "RELEASE SAVEPOINT " ++ i.text) <$> ident),
    ("ATTACH", attachText), ("DETACH", detachText),
    ("INSTALL", (fun i => "INSTALL " ++ i.text) <$> ident),
    ("LOAD", (fun i => "LOAD " ++ i.text) <$> ident),
    ("USE", ("USE " ++ ·) <$> nameText), ("PRAGMA", pragmaText), ("SHOW", showText)]

/-- The texts of the other statements, by the word that begins them. -/
def changeTexts : List (String × Parser String) :=
  [("DELETE", deleteText g), ("INSERT", insertText g), ("UPDATE", updateText g),
    ("TRUNCATE", truncateText g), ("COPY", copyText g), ("CREATE", createText g),
    ("ALTER", alterText g), ("DROP", dropText), ("SET", setText g), ("CALL", callText g),
    ("ANALYZE", do keyword "TABLE"; ("ANALYZE TABLE " ++ ·) <$> nameText)]

/-! ## Statements -/

/-- The word that a statement begins with is one of those of a query. -/
def beginsQuery : Option Token → Bool
  | some (.symbol s) => s == "("
  | some t => ["SELECT", "WITH", "VALUES"].any t.isKeyword
  | none => false

/-- A statement that explains no other one. -/
def plainStatement : Parser Statement := do
  if beginsQuery (← peek) then Statement.query <$> g.query
  else
    match ← next with
    | .word w =>
      match (sessionTexts ++ changeTexts g).lookup w.upper with
      | some p => Statement.foreign <$> p
      | none => fail
    | _ => fail

/-- The words that explain a statement or describe a table. -/
def explainWords : List String := ["EXPLAIN", "DESCRIBE", "DESC"]

/-- An option of an explanation. -/
def explainOption : Parser String := do
  let name ← ident
  if (← atSymbol ",") || (← atSymbol ")") then pure name.text
  else
    let e ← g.expr 0
    pure (name.text ++ " " ++ e.text)

/-- What may stand before the statement that is explained. -/
def explainMarks (word : String) : Parser String := do
  if word = "EXPLAIN" ∧ (← atSymbol "(") then
    let options ← parenthesized (commaText (explainOption g))
    pure ("(" ++ options ++ ") ")
  else if ← keywords? ["QUERY", "PLAN"] then pure "QUERY PLAN "
  else
    let analyze ← keyword? "ANALYZE"
    let verbose ← keyword? "VERBOSE"
    let format ← do
      if ← keyword? "FORMAT" then
        let name ← oneOf ["TEXT", "GRAPHVIZ", "JSON"]
        pure ("FORMAT " ++ name ++ " ")
      else pure ""
    pure (textIf analyze "ANALYZE " ++ textIf verbose "VERBOSE " ++ format)

/-- An explanation of a statement, or a description of a table where no statement follows. -/
def explainText (word : String) (inner : Parser Statement) : Parser String := do
  let marks ← explainMarks g word
  match ← optional inner with
  | some s => pure (word ++ " " ++ marks ++ s.text)
  | none =>
    let details ← oneOf? ["EXTENDED", "FORMATTED"]
    let name ← nameText
    pure (word ++ " " ++ spaced (details.getD "") ++ name)

end

/-- How many levels a statement may nest. -/
def maxDepth : Nat := 49

/-- A statement. One that explains another takes a level for it. -/
def statement : Parser Statement := do
  match ← oneOf? explainWords with
  | some word =>
    if ← atKeyword explainWords then fail
    else
      let inner := plainStatement (grammar (maxDepth - 1))
      Statement.foreign <$> explainText (grammar maxDepth) word inner
  | none => plainStatement (grammar maxDepth)

/-- The semicolons at the front are taken. -/
def semicolons : Parser Unit := fun ts => .ok ((), ts.dropWhile (· == .symbol ";"))

/-- Statements with semicolons between them, to the end of the tokens or to the word END behind a
    statement. -/
def statementsWithin : Nat → Parser (List Statement)
  | 0 => fail
  | fuel + 1 => do
    semicolons
    match ← peek with
    | none => pure []
    | some _ =>
      let s ← statement
      match ← peek with
      | none => pure [s]
      | some t =>
        if t == .symbol ";" then
          let rest ← statementsWithin fuel
          pure (s :: rest)
        else if t.isKeyword "END" then pure [s]
        else fail

end Parser

/-- The statements of a query text, none if it cannot be parsed. -/
def parse (text : String) : Option (List Statement) := do
  let ts ← tokens text
  match (Parser.statementsWithin (ts.length + 1)).run ts with
  | .ok (statements, _) => some statements
  | .error _ => none

/-- The parser of this dialect. Its message says that a text is refused, not where. -/
@[reducible]
def dialect : Reader where
  statements text := (parse text).elim (.error "sql parser error") .ok

end FramePlan.Sql
