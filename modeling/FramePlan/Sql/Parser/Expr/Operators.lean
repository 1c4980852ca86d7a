import FramePlan.Sql.Parser.Expr.Operand

/-!
# Operators

An expression is read by the precedence of its operators: an operand, and then the operators that
bind more tightly than the one to its left, one by one.
-/
namespace FramePlan.Sql.Parser

/-! ## Precedence -/

/-- The tests of likeness. -/
def likeWords : List String := ["LIKE", "ILIKE", "SIMILAR", "REGEXP", "RLIKE"]

/-- How tightly the operator that is a symbol binds; zero for what is none. -/
def symbolPrecedence (s : String) : Nat :=
  if s ∈ ["=", "==", "<>", "<", "<=", ">", ">=", "<=>", "~", "~*", "!~", "!~*", "~~", "~~*", "!~~",
    "!~~*"] then 20
  else if s = "|" then 21
  else if s ∈ ["^", "#", "<<", ">>"] then 22
  else if s = "&" then 23
  else if s ∈ ["+", "-"] then 30
  else if s ∈ ["*", "/", "//", "%", "||"] then 40
  else if s ∈ ["::", "[", "!", "&&", "^@"] then 50
  else if s ∈ ["->", "->>", "#>", "#>>", "@>", "<@", "#-", "@?", "@@"] then 16
  else 0

/-- How tightly the operator that is a keyword binds, given the tokens behind it. -/
def wordPrecedence (word : String) (rest : List Token) : Nat :=
  if word = "OR" then 5
  else if word = "AND" then 10
  else if word = "XOR" then 24
  else if word = "AT" then if beginsWith ["TIME", "ZONE"] rest then 41 else 0
  else if word = "NOT" then
    match rest with
    | .word w :: _ =>
      if w.upper = "IN" ∨ w.upper = "BETWEEN" then 20
      else if likeWords.contains w.upper then 19
      else 0
    | _ => 0
  else if word = "IS" then 17
  else if word = "IN" ∨ word = "BETWEEN" ∨ word = "OPERATOR" then 20
  else if likeWords.contains word then 19
  else if word = "DIV" then 40
  else 0

/-- How tightly the operator at the front binds; zero for what is none. -/
def precedence : List Token → Nat
  | .symbol s :: _ => symbolPrecedence s
  | .word w :: rest => wordPrecedence w.upper rest
  | _ => 0

/-- The operators of the engine by their symbols. -/
def plainOperators : List (String × BinaryOp) :=
  [("+", .add), ("-", .sub), ("*", .mul), ("/", .div), ("%", .mod), ("=", .eq), ("==", .eq),
    ("<>", .notEq), (">", .gt), (">=", .gtEq), ("<", .lt), ("<=", .ltEq)]

/-- The symbols of the other binary operators, but for concatenation. -/
def otherOperators : List String :=
  ["|", "^", "&", "<<", ">>", "//", "<=>", "~", "~*", "!~", "!~*", "~~", "~~*", "!~~", "!~~*", "->",
    "->>", "#>", "#>>", "@>", "<@", "#-", "@?", "@@"]

/-- The binary operator of a token. -/
def operator? : Token → Option Operator
  | .symbol s =>
    match plainOperators.lookup s with
    | some op => some (.plain op)
    | none =>
      if s = "||" then some .concat
      else if otherOperators.contains s then some (.other s)
      else none
  | .word w =>
    if w.upper = "AND" then some (.plain .and)
    else if w.upper = "OR" then some (.plain .or)
    else if w.upper = "XOR" then some (.other "XOR")
    else none
  | _ => none

/-- The operators that compare with all or any of several values. -/
def comparesMany : Operator → Bool
  | .plain op => [.gt, .lt, .gtEq, .ltEq, .eq, .notEq].contains op
  | _ => false

section

variable (g : Grammar)

/-! ## What follows an operand -/

/-- The right side of a comparison with several values, behind its word. -/
def manyOf (precedence : Nat) : Parser Expr := fun ts =>
  match ts with
  | .symbol "(" :: t :: _ =>
    if beginsSelect (some t) then g.expr precedence ts else parenthesized (g.expr precedence) ts
  | _ => .error .tokens

/-- What follows a binary operator. -/
def binaryTail (left : Expr) (op : Operator) (precedence : Nat) : Parser Expr := do
  match ← oneOf? ["ANY", "ALL", "SOME"] with
  | some word =>
    let right ← manyOf g precedence
    if !comparesMany op then fail
    let text := if right.isSubquery then right.text else "(" ++ right.text ++ ")"
    pure (.foreign (left.text ++ " " ++ op.text ++ " " ++ word ++ text))
  | none => .binary op left <$> g.expr precedence

/-- What follows IS. -/
def isTail (e : Expr) : Parser Expr := do
  let negated ← keyword? "NOT"
  if ← keyword? "NULL" then pure (if negated then .isNotNull e else .isNull e)
  else
    let start := e.text ++ " IS " ++ negation negated
    match ← oneOf? ["TRUE", "FALSE", "UNKNOWN"] with
    | some word => pure (.foreign (start ++ word))
    | none =>
      keywords ["DISTINCT", "FROM"]
      let f ← g.expr 0
      pure (.foreign (start ++ "DISTINCT FROM " ++ f.text))

/-- What follows IN. -/
def inTail (e : Expr) (negated : Bool) : Parser Expr := do
  let start := e.text ++ " " ++ negation negated ++ "IN "
  if ← keyword? "UNNEST" then
    let array ← parenthesized (g.expr 0)
    pure (.foreign (start ++ "UNNEST(" ++ array.text ++ ")"))
  else parenthesized do
    if beginsSelect (← peek) then
      let q ← g.query
      pure (.foreign (start ++ "(" ++ q.text ++ ")"))
    else
      let items ← commaList (g.expr 0)
      pure (.inList e items negated)

/-- What follows LIKE or a word like it: `any` if it may be followed by ANY. -/
def likeTail (e : Expr) (negated : Bool) (word : String) (any : Bool) : Parser Expr := do
  let anyWord ← if any then keyword? "ANY" else pure false
  let pattern ← g.expr 19
  let escape ← clause ["ESCAPE"] (rawQuoted <$> stringText)
  pure (.foreign (e.text ++ " " ++ negation negated ++ word ++ " " ++ textIf anyWord "ANY " ++
    pattern.text ++ escape))

/-- What follows a word for regular expressions. Both words may stand together. -/
def patternTail (e : Expr) (negated : Bool) (word : String) : Parser Expr := do
  let _ ← if word = "REGEXP" then keyword? "RLIKE" else pure false
  let pattern ← g.expr 19
  pure (.foreign (e.text ++ " " ++ negation negated ++ word ++ " " ++ pattern.text))

/-- What follows an operand that a test of membership or likeness is applied to. -/
def testTail (e : Expr) : Parser Expr := do
  let negated ← keyword? "NOT"
  if ← keyword? "REGEXP" then patternTail g e negated "REGEXP"
  else if ← keyword? "RLIKE" then patternTail g e negated "RLIKE"
  else if ← keyword? "IN" then inTail g e negated
  else if ← keyword? "BETWEEN" then
    let low ← g.expr 20
    keyword "AND"
    let high ← g.expr 20
    pure (.between e negated low high)
  else if ← keyword? "LIKE" then likeTail g e negated "LIKE" true
  else if ← keyword? "ILIKE" then likeTail g e negated "ILIKE" true
  else
    keywords ["SIMILAR", "TO"]
    likeTail g e negated "SIMILAR TO" false

/-- A bound of a slice behind a colon, empty where the slice ends; and whether it ends. -/
def sliceBound : Parser (String × Bool) := do
  if ← symbol? "]" then pure ("", true)
  else
    let e ← g.expr 0
    pure (e.text, false)

/-- What follows an opening bracket: an index, or a slice of up to three parts. -/
def subscriptTail (e : Expr) : Parser Expr := do
  let done (s : String) : Parser Expr := pure (.foreign (e.text ++ "[" ++ s ++ "]"))
  let fromStart ← symbol? ":"
  let lower ← if fromStart then pure "" else exprText g
  if ← symbol? "]" then done (if fromStart then ":" else lower)
  else
    if !fromStart then symbol ":"
    let (upper, ended) ← sliceBound g
    let slice := lower ++ ":" ++ upper
    if ended then done slice
    else if ← symbol? "]" then done slice
    else
      symbol ":"
      let (stride, ended) ← sliceBound g
      if ended then done slice
      else
        symbol "]"
        done (slice ++ ":" ++ stride)

/-- The expression with the operator at the front applied to it. -/
def applyOperator (left : Expr) (precedence : Nat) : Parser Expr := do
  match (← peek).bind operator? with
  | some op =>
    let _ ← next
    binaryTail g left op precedence
  | none =>
    if ← keyword? "IS" then isTail g left
    else if ← keyword? "AT" then
      keywords ["TIME", "ZONE"]
      let zone ← g.expr precedence
      pure (.foreign (left.text ++ " AT TIME ZONE " ++ zone.text))
    else if ← symbol? "::" then
      let type ← typeName
      pure (.cast left .colons type "")
    else if ← symbol? "[" then subscriptTail g left
    else testTail g left

/-! ## Expressions -/

/-- The operators that follow an expression and bind more tightly than `floor`. -/
def operatorsWithin (floor : Nat) (left : Expr) : Nat → Parser Expr
  | 0 => pure left
  | fuel + 1 => do
    let p := precedence (← get)
    if p ≤ floor then pure left
    else
      let e ← applyOperator g left p
      operatorsWithin floor e fuel

/-- An expression whose operators bind more tightly than `floor`. -/
def exprAbove (floor : Nat) : Parser Expr := do
  let e ← g.operand
  fun ts => operatorsWithin g floor e ts.length ts

end

end FramePlan.Sql.Parser
