import FramePlan.Sql.Parser.Expr.Basic

/-!
# Calls

A function is called on arguments in parentheses. Clauses may stand behind the arguments, inside the
parentheses, and behind the call: a filter, the treatment of nulls and a window. All of them are
kept as text, but that there is a window is remembered.
-/
namespace FramePlan.Sql.Parser

/-! ## Stars -/

/-- An expression, or a star, perhaps with a path before it. -/
inductive Starred
  | expr (e : Expr)
  | all
  | within (path : List Ident)

def Starred.arg : Starred → Arg
  | .expr e => .expr e
  | .all => .wildcard
  | .within path => .foreign (dotted path ++ ".*")

/-- The rest of a path that a star ends, from a point on; none if no star ends it. -/
def starPathWithin : Nat → Parser (Option (List Ident))
  | 0 => fail
  | fuel + 1 => do
    if ← symbol? "." then
      if ← symbol? "*" then pure (some [])
      else
        let i ← ident
        let rest ← starPathWithin fuel
        pure (rest.map (i :: ·))
    else pure none

/-- A path that a star ends, taken with the star; otherwise nothing is taken. -/
def starPath : Parser (Option (List Ident)) := fun ts =>
  let path (first : Ident) (rest : List Token) : Except Misfit (Option (List Ident) × List Token) :=
    match starPathWithin (rest.length + 1) rest with
    | .ok (some more, after) => .ok (some (first :: more), after)
    | .ok (none, _) => .ok (none, ts)
    | .error e => .error e
  match ts with
  | .word w :: rest => path w.ident rest
  | .string s :: rest => path ⟨s, some '\x27'⟩ rest
  | _ => .ok (none, ts)

section

variable (g : Grammar)

/-- An expression or a star. -/
def starred : Parser Starred := do
  if ← symbol? "*" then pure .all
  else
    match ← starPath with
    | some path => pure (.within path)
    | none => .expr <$> g.expr 0

/-! ## Arguments -/

/-- The symbol between the name of an argument and its value. -/
def argumentSign : Parser String := do
  if ← symbol? "=>" then pure "=>"
  else if ← symbol? "=" then pure "="
  else
    symbol ":="
    pure ":="

/-- An argument of a call: a named one, a star, or an expression. -/
def argument : Parser Arg := orElse
  (do
    let name ← ident
    let sign ← argumentSign
    let v ← starred g
    pure (.foreign (name.text ++ " " ++ sign ++ " " ++ v.arg.text)))
  (Starred.arg <$> starred g)

/-- What is to become of nulls among the arguments. -/
def nullClause : Parser String := do
  if ← keywords? ["ABSENT", "ON", "NULL"] then pure "ABSENT ON NULL"
  else if ← keywords? ["NULL", "ON", "NULL"] then pure "NULL ON NULL"
  else pure ""

/-- What is to become of a text that is too long. -/
def overflowClause : Parser String := do
  if ← keywords? ["ON", "OVERFLOW"] then
    if ← keyword? "ERROR" then pure "ON OVERFLOW ERROR"
    else
      keyword "TRUNCATE"
      let filler ← do
        match ← peek with
        | some (.word w) => if w.upper = "WITH" ∨ w.upper = "WITHOUT" then pure "" else fail
        | some (.string _) => exprText g
        | some (.national _) => exprText g
        | some (.hex _) => exprText g
        | _ => fail
      let word ← oneOf ["WITH", "WITHOUT"]
      keyword "COUNT"
      pure ("ON OVERFLOW TRUNCATE " ++ spaced filler ++ word ++ " COUNT")
  else pure ""

/-- Whether repeated values are left out; it can be said in one way only. -/
def duplicates : Parser String := do
  let all ← keyword? "ALL"
  let distinct ← keyword? "DISTINCT"
  if all && distinct then fail
  else if all then pure "ALL"
  else if distinct then pure "DISTINCT"
  else pure ""

/-- The arguments of a call behind the opening parenthesis, with the closing one. -/
def argumentList : Parser Args := do
  let start ← nullClause
  if ← symbol? ")" then pure (.list "" [] start)
  else
    let before ← duplicates
    let args ← commaList (argument g)
    let order ← clauseText ["ORDER", "BY"] (orderText g)
    let limit ← clauseText ["LIMIT"] (exprText g)
    let overflow ← overflowClause g
    let stop ← nullClause
    symbol ")"
    let clauses := [start, order, limit, overflow, stop].filter (!·.isEmpty)
    pure (.list before args (String.join (clauses.map (" " ++ ·))))

/-! ## Calls -/

/-- A filter behind a call. Its word is taken even if no filter follows. -/
def filterTail : Parser String := do
  if ← keyword? "FILTER" then
    if ← symbol? "(" then
      if ← keyword? "WHERE" then
        let e ← g.expr 0
        symbol ")"
        pure (" FILTER (WHERE " ++ e.text ++ ")")
      else pure ""
    else pure ""
  else pure ""

/-- How a call treats nulls. -/
def nullTreatment : Parser String := do
  match ← oneOf? ["RESPECT", "IGNORE"] with
  | some word =>
    keyword "NULLS"
    pure (" " ++ word ++ " NULLS")
  | none => pure ""

/-- A call of the named function, from its opening parenthesis on. -/
def call (name : List Ident) : Parser Expr := do
  symbol "("
  let args ← argumentList g
  let group ← do
    if ← keywords? ["WITHIN", "GROUP"] then
      let order ← parenthesized (do keywords ["ORDER", "BY"]; orderText g)
      pure (" WITHIN GROUP (ORDER BY " ++ order ++ ")")
    else pure ""
  let filter ← filterTail g
  let nulls ← nullTreatment
  let tail := group ++ filter ++ nulls
  if ← keyword? "OVER" then
    let window ← do
      if ← atSymbol "(" then windowText g else Ident.text <$> ident
    pure (.call name args true (tail ++ " OVER " ++ window))
  else pure (.call name args false tail)

/-- A call of a function that needs no parentheses. -/
def timeCall (name : Ident) : Parser Expr := do
  if ← symbol? "(" then
    let args ← argumentList g
    pure (.call [name] args false "")
  else pure (.call [name] .bare false "")

end

end FramePlan.Sql.Parser
