import FramePlan.Sql.Parser.Query

/-!
# Definitions of tables

The statements that make, change and drop what a database holds, as text.
-/
namespace FramePlan.Sql.Parser

/-! ## Columns and constraints -/

/-- What becomes of rows that refer to a changed one. -/
def referentialAction : Parser String := do
  if ← keywords? ["SET", "NULL"] then pure "SET NULL"
  else if ← keywords? ["NO", "ACTION"] then pure "NO ACTION"
  else if ← keywords? ["SET", "DEFAULT"] then pure "SET DEFAULT"
  else oneOf ["RESTRICT", "CASCADE"]

/-- What becomes of rows that refer to deleted and to updated ones, in either order. -/
def referentialActions : Parser String := do
  let first ← clause ["ON", "DELETE"] referentialAction
  let update ← clause ["ON", "UPDATE"] referentialAction
  let last ← if first.isEmpty then clause ["ON", "DELETE"] referentialAction else pure ""
  pure (first ++ last ++ update)

/-- Names in parentheses, if they are next. -/
def optionalNames : Parser String := do
  if ← atSymbol "(" then nameList else pure ""

section

variable (g : Grammar)

/-- A condition in parentheses. -/
def checkText : Parser String := do
  let e ← parenthesized (exprText g)
  pure ("CHECK (" ++ e ++ ")")

/-- An option of a column, if one is next. -/
def columnOption? : Parser (Option String) := do
  if ← keywords? ["NOT", "NULL"] then pure (some "NOT NULL")
  else if ← keyword? "NULL" then pure (some "NULL")
  else if ← keyword? "COMMENT" then
    let s ← stringText
    pure (some ("COMMENT " ++ inQuotes '\x27' s))
  else if ← keyword? "DEFAULT" then
    let e ← g.expr 0
    pure (some ("DEFAULT " ++ e.text))
  else if ← keywords? ["PRIMARY", "KEY"] then pure (some "PRIMARY KEY")
  else if ← keyword? "UNIQUE" then pure (some "UNIQUE")
  else if ← keyword? "REFERENCES" then
    let table ← nameText
    let names ← optionalNames
    let actions ← referentialActions
    pure (some ("REFERENCES " ++ table ++ textIf (!names.isEmpty) " " ++ names ++ actions))
  else if ← keyword? "CHECK" then some <$> checkText g
  else pure none

/-- The options of a column, some of them with a name. -/
def columnOptionsWithin : Nat → Parser String
  | 0 => pure ""
  | fuel + 1 => do
    let name ← clause ["CONSTRAINT"] (Ident.text <$> ident)
    match ← columnOption? g with
    | some option =>
      let rest ← columnOptionsWithin fuel
      pure (name ++ " " ++ option ++ rest)
    | none => if name.isEmpty then pure "" else fail

/-- A column with its type and options. -/
def columnDefinition : Parser String := do
  let name ← ident
  let type ← typeName
  let collation ← clause ["COLLATE"] nameText
  let options ← fun ts => columnOptionsWithin g ts.length ts
  pure (name.text ++ " " ++ type.text ++ collation ++ options)

/-- A constraint of a table, if one is next. -/
def tableConstraint? : Parser (Option String) := do
  let name ← clauseText ["CONSTRAINT"] (Ident.text <$> ident)
  let start := spaced name
  if ← keyword? "UNIQUE" then
    let names ← nameList
    pure (some (start ++ "UNIQUE " ++ names))
  else if ← keywords? ["PRIMARY", "KEY"] then
    let names ← nameList
    pure (some (start ++ "PRIMARY KEY " ++ names))
  else if ← keywords? ["FOREIGN", "KEY"] then
    let names ← nameList
    keyword "REFERENCES"
    let table ← nameText
    let columns ← nameList
    let actions ← referentialActions
    pure (some (start ++ "FOREIGN KEY " ++ names ++ " REFERENCES " ++ table ++ columns ++ actions))
  else if ← keyword? "CHECK" then
    let check ← checkText g
    pure (some (start ++ check))
  else if name.isEmpty then pure none
  else fail

/-- The columns and the constraints of a table behind the opening parenthesis, with the closing
    one. -/
def columnsWithin : Nat → Parser (List String × List String)
  | 0 => fail
  | fuel + 1 => do
    let (column, constraint) ← do
      match ← tableConstraint? g with
      | some c => pure ([], [c])
      | none =>
        let c ← columnDefinition g
        pure ([c], [])
    let comma ← symbol? ","
    if ← symbol? ")" then pure (column, constraint)
    else if comma then
      let (columns, constraints) ← columnsWithin fuel
      pure (column ++ columns, constraint ++ constraints)
    else fail

/-- The columns and constraints of a table in parentheses, perhaps none. -/
def tableColumns : Parser (List String) := do
  if ← symbol? "(" then
    if ← symbol? ")" then pure []
    else
      let (columns, constraints) ← fun ts => columnsWithin g (ts.length + 1) ts
      pure (columns ++ constraints)
  else pure []

/-! ## Making -/

/-- A new table, behind that word. -/
def newTable (start : String) : Parser String := do
  let test ← words ["IF", "NOT", "EXISTS"]
  let name ← nameText
  let model ← do
    match ← oneOf? ["LIKE", "ILIKE"] with
    | some _ => (" LIKE " ++ ·) <$> nameText
    | none => pure ""
  let columns ← tableColumns g
  let rows ← clause ["AS"] (Query.text <$> g.query)
  let columnText :=
    if !columns.isEmpty then " (" ++ ", ".intercalate columns ++ ")"
    else textIf (rows.isEmpty && model.isEmpty) " ()"
  pure (start ++ "TABLE" ++ test ++ " " ++ name ++ columnText ++ model ++ rows)

/-- A new view, from the word that says so on. -/
def newView (start : String) (temporary : Bool) : Parser String := do
  let materialized ← keyword? "MATERIALIZED"
  keyword "VIEW"
  let name ← nameText
  let columns ← optionalNames
  keyword "AS"
  let q ← g.query
  pure (start ++ textIf materialized "MATERIALIZED " ++ textIf temporary "TEMPORARY " ++ "VIEW " ++
    name ++ textIf (!columns.isEmpty) " " ++ columns ++ " AS " ++ q.text)

/-- An argument of a new function, perhaps with a value. -/
def functionParameter : Parser String := do
  let name ← ident
  let hasValue ← if ← symbol? ":=" then pure true else symbol? "=>"
  if hasValue then
    let e ← g.expr 0
    pure (name.text ++ " := " ++ e.text)
  else pure name.text

/-- A new function that stands for an expression or a query, behind its word. -/
def newFunction (start word : String) : Parser String := do
  let name ← nameText
  let parameters ← parenthesized do
    if ← atSymbol ")" then pure ""
    else
      let ps ← commaText (functionParameter g)
      pure ("(" ++ ps ++ ")")
  keyword "AS"
  let result ← do
    if ← keyword? "TABLE" then
      let q ← g.query
      pure ("TABLE " ++ q.text)
    else exprText g
  pure (start ++ word ++ " " ++ name ++ parameters ++ " AS " ++ result)

/-- A new index, behind that word. -/
def newIndex (start : String) : Parser String := do
  let test ← words ["IF", "NOT", "EXISTS"]
  let name ← do
    if ← atKeyword ["ON"] then pure "" else (" " ++ ·) <$> nameText
  keyword "ON"
  let table ← nameText
  let columns ← parenthesized (commaList (orderItem g))
  pure (start ++ "INDEX" ++ test ++ name ++ " ON " ++ table ++ "(" ++
    ",".intercalate (columns.map OrderItem.text) ++ ")")

/-- A statement that makes something, behind its first word. -/
def createText : Parser String := do
  let replace ← words ["OR", "REPLACE"]
  let reach ← do
    match ← oneOf? ["LOCAL", "GLOBAL"] with
    | some word => pure (" " ++ word)
    | none => pure ""
  let temporary := (← oneOf? ["TEMP", "TEMPORARY"]).isSome
  let start := "CREATE" ++ replace ++ " "
  let mark := textIf temporary "TEMPORARY "
  if ← keyword? "TABLE" then newTable g ("CREATE" ++ replace ++ reach ++ " " ++ mark)
  else if ← atKeyword ["MATERIALIZED", "VIEW"] then newView g start temporary
  else if ← keyword? "MACRO" then newFunction g (start ++ mark) "MACRO"
  else if !replace.isEmpty then fail
  else if ← keyword? "INDEX" then newIndex g start
  else if ← keywords? ["UNIQUE", "INDEX"] then newIndex g (start ++ "UNIQUE ")
  else
    let what ← oneOf ["SCHEMA", "DATABASE", "SEQUENCE"]
    let test ← words ["IF", "NOT", "EXISTS"]
    let name ← nameText
    pure (start ++ textIf (what = "SEQUENCE") mark ++ what ++ test ++ " " ++ name)

/-! ## Changing and dropping -/

/-- A change of a table. -/
def alteration : Parser String := do
  if ← keyword? "ADD" then
    match ← tableConstraint? g with
    | some c => pure ("ADD " ++ c)
    | none =>
      let early ← words ["IF", "NOT", "EXISTS"]
      let column ← words ["COLUMN"]
      let test ← words ["IF", "NOT", "EXISTS"]
      let definition ← columnDefinition g
      pure ("ADD" ++ column ++ (if test.isEmpty then early else test) ++ " " ++ definition)
  else if ← keyword? "RENAME" then
    if ← keyword? "TO" then (fun t => "RENAME TO " ++ t) <$> nameText
    else
      let _ ← keyword? "COLUMN"
      let old ← ident
      keyword "TO"
      let new ← ident
      pure ("RENAME COLUMN " ++ old.text ++ " TO " ++ new.text)
  else
    keyword "DROP"
    let what := if ← keyword? "CONSTRAINT" then "CONSTRAINT" else "COLUMN"
    let _ ← if what = "COLUMN" then keyword? "COLUMN" else pure false
    let test ← words ["IF", "EXISTS"]
    let name ← ident
    let reach ← oneOf? ["CASCADE", "RESTRICT"]
    pure ("DROP " ++ what ++ test ++ " " ++ name.text ++ ((reach.map (" " ++ ·)).getD ""))

/-- A statement that changes a table, behind its first word. -/
def alterText : Parser String := do
  keyword "TABLE"
  let test ← words ["IF", "EXISTS"]
  let only ← words ["ONLY"]
  let name ← nameText
  let changes ← commaText (alteration g)
  pure ("ALTER TABLE" ++ test ++ only ++ " " ++ name ++ " " ++ changes)

end

/-- A statement that drops something, behind its first word. -/
def dropText : Parser String := do
  let temporary ← words ["TEMPORARY"]
  let what ← oneOf ["TABLE", "VIEW", "INDEX", "ROLE", "SCHEMA", "DATABASE", "SEQUENCE", "STAGE",
    "TYPE"]
  let test ← words ["IF", "EXISTS"]
  let names ← commaText nameText
  let cascade ← words ["CASCADE"]
  let restrict ← words ["RESTRICT"]
  let purge ← words ["PURGE"]
  let reach := cascade ++ restrict ++ purge
  if !cascade.isEmpty && !restrict.isEmpty then fail
  if what = "ROLE" && !reach.isEmpty then fail
  pure ("DROP" ++ temporary ++ " " ++ what ++ test ++ " " ++ names ++ reach)

end FramePlan.Sql.Parser
