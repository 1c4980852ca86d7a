import FramePlan.Sql.Parser.Expr.Form

/-!
# Operands

An operand is a literal, a column, a call, a form of its own, a sign with what it applies to, or
something in parentheses. A type before a string makes a literal too. A word that begins a form is
read as a name where that form does not fit, but for a few words.
-/
namespace FramePlan.Sql.Parser

/-- The words that are no names where the form that they begin does not fit. -/
def formOnly : List String := ["EXISTS", "INTERVAL", "STRUCT", "TRIM"]

/-- The parts of a path behind the first, each with its point. -/
def pathWithin : Nat → Parser (List Ident)
  | 0 => pure []
  | fuel + 1 => do
    if ← symbol? "." then
      let i ← ident
      let rest ← pathWithin fuel
      pure (i :: rest)
    else pure []

/-- An operand with its collation, if it has one. -/
def collated (e : Expr) : Parser Expr := do
  if ← keyword? "COLLATE" then
    let name ← nameText
    pure (.foreign (e.text ++ " COLLATE " ++ name))
  else pure e

section

variable (g : Grammar)

/-- A string with its type before it, or an interval. -/
def typedString : Parser Expr := do
  let r ← typeReading
  if r.type.text = "INTERVAL" then interval g
  else if r.isCustom then fail
  else
    let s ← stringText
    pure (.foreign (r.type.text ++ " " ++ inQuotes '\x27' s))

/-- What a word is as a name: a column, a call, or the mark of a string. -/
def named (w : Word) : Parser Expr := do
  let rest ← fun ts => pathWithin ts.length ts
  if ← atSymbol "(" then call g (w.ident :: rest)
  else if !rest.isEmpty then pure (.compound (w.ident :: rest))
  else if w.text.startsWith "_" then
    match ← peek with
    | some (.string _) => do let v ← value; pure (.foreign (w.text ++ " " ++ v.text))
    | some (.hex _) => do let v ← value; pure (.foreign (w.text ++ " " ++ v.text))
    | _ => pure (.ident w.ident)
  else pure (.ident w.ident)

/-- What a word begins: a form, or else a name. -/
def wordOperand (w : Word) : Parser Expr := fun ts =>
  match form g w ts with
  | .ok (some e, rest) => collated e rest
  | .ok (none, rest) => (do let e ← named g w; collated e : Parser Expr) rest
  | .error misfit =>
    if formOnly.contains w.upper then .error misfit
    else
      match named g w ts with
      | .ok result => .ok result
      | .error _ => .error misfit

/-- A query or expressions in parentheses behind the first one, perhaps with a field of it. -/
def grouped : Parser Expr := do
  let e ← do
    if beginsSelect (← peek) then
      let q ← g.query
      pure (.subquery ("(" ++ q.text ++ ")"))
    else
      match ← commaList (g.expr 0) with
      | [e] => pure (.nested e)
      | es => pure (.foreign ("(" ++ textList es ++ ")"))
  symbol ")"
  if ← symbol? "." then
    match ← next with
    | .word w => pure (.foreign (e.text ++ "." ++ w.ident.text))
    | _ => fail
  else pure e

/-- An operand that no type stands before. -/
def plainOperand : Parser Expr := do
  match ← peek with
  | some (.word w) =>
    let _ ← next
    wordOperand g w
  | some (.symbol s) =>
    let e ← do
      if ← symbol? "-" then .unary .minus <$> g.expr 40
      else if ← symbol? "+" then .unary .plus <$> g.expr 40
      else if ← symbol? "(" then grouped g
      else if ← symbol? "[" then arrayItems g ""
      else if ← symbol? "\x7b" then .foreign <$> braced (dictionaryEntry g)
      else if s = ":" ∨ s = "@" then .literal <$> value
      else fail
    collated e
  | _ =>
    let l ← value
    collated (.literal l)

/-- An operand. -/
def operandStep : Parser Expr := do
  match ← optional (typedString g) with
  | some e => pure e
  | none => plainOperand g

/-- An operand, `fuel` bounding how many intervals are within each other. -/
def operandWithin : Nat → Parser Expr
  | 0 => fail
  | fuel + 1 => operandStep { g with operand := operandWithin fuel }

end

/-- The grammar with the given nested expressions and queries. -/
def Grammar.ofNested (expr : Nat → Parser Expr) (query : Parser Query) : Grammar :=
  ⟨expr, query, fun ts => operandWithin ⟨expr, query, fail⟩ (ts.length + 1) ts⟩

end FramePlan.Sql.Parser
