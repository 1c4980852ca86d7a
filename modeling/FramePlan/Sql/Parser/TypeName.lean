import FramePlan.Sql.Parser.Basic

/-!
# Names of types

A type is a word of the language with what belongs to it, such as a width, or any other name with
modifiers in parentheses, and pairs of brackets behind it make arrays. A type is kept by its text in
normal form, and has a target if values can be cast to it.

Correspondence (program ↔ Lean):
  `map_sql_type` ↔ the target of a `TypeName`
-/
namespace FramePlan.Sql.Parser

/-- A type as read. -/
structure TypeReading where
  type : TypeName
  /-- Its name is no word of the language. -/
  isCustom : Bool
  /-- Its last token closes a type around it as well. -/
  closesOuter : Bool

/-- A type of the language. -/
def builtin (text : String) (target : Option DataType) : TypeReading := ⟨⟨text, target⟩, false, false⟩

/-! ## Widths and modifiers -/

/-- A width in parentheses as text, with them; empty if there is none. -/
def width : Parser String := do
  if ← symbol? "(" then
    let n ← count
    symbol ")"
    pure ("(" ++ toString n ++ ")")
  else pure ""

/-- A precision, perhaps with a scale. -/
def precision : Parser String := do
  if ← symbol? "(" then
    let n ← count
    let scale ← do
      if ← symbol? "," then
        let s ← count
        pure ("," ++ toString s)
      else pure ""
    symbol ")"
    pure ("(" ++ toString n ++ scale ++ ")")
  else pure ""

/-- A length of texts, perhaps with its unit. -/
def textLength : Parser String := do
  if ← symbol? "(" then
    let n ← do
      if ← keyword? "MAX" then pure "MAX"
      else
        let n ← count
        match ← oneOf? ["CHARACTERS", "OCTETS"] with
        | some unit => pure (toString n ++ " " ++ unit)
        | none => pure (toString n)
    symbol ")"
    pure ("(" ++ n ++ ")")
  else pure ""

/-- What may follow a time type. -/
def timeZone : Parser String := do
  match ← oneOf? ["WITH", "WITHOUT"] with
  | some word =>
    keywords ["TIME", "ZONE"]
    pure (" " ++ word ++ " TIME ZONE")
  | none => pure ""

/-- The modifiers of a type up to the closing parenthesis. Commas may stand anywhere among them. -/
def modifiersWithin : Nat → Parser (List String)
  | 0 => fail
  | fuel + 1 => do
    match ← next with
    | .word w =>
      let rest ← modifiersWithin fuel
      pure (w.written :: rest)
    | .number n _ =>
      let rest ← modifiersWithin fuel
      pure (n :: rest)
    | .string s =>
      let rest ← modifiersWithin fuel
      pure (s :: rest)
    | .symbol s =>
      if s = "," then modifiersWithin fuel
      else if s = ")" then pure []
      else fail
    | _ => fail

/-- Modifiers in parentheses as text, with them; empty if there are none. -/
def modifiers : Parser String := do
  if ← symbol? "(" then
    match ← fun ts => modifiersWithin (ts.length + 1) ts with
    | [] => pure ""
    | ms => pure ("(" ++ ", ".intercalate ms ++ ")")
  else pure ""

/-- A member of a set. -/
def setMember : Parser String := do
  match ← next with
  | .string s => pure (inQuotes '\x27' s)
  | _ => fail

/-- A member of an enumeration: a string, perhaps with its number. -/
def enumMember : Parser String := do
  let s ← stringText
  let name := inQuotes '\x27' s
  if ← symbol? "=" then
    let sign ← do
      if ← symbol? "+" then pure "+"
      else if ← symbol? "-" then pure "-"
      else pure ""
    match ← next with
    | .number text long => pure (name ++ " = " ++ sign ++ (Literal.number text long).text)
    | _ => fail
  else pure name

/-! ## Types by their words -/

/-- Types of one word alone, with their texts and targets. -/
def plainTypes : List (String × String × Option DataType) :=
  [("BOOLEAN", "BOOLEAN", some .boolean), ("BOOL", "BOOL", some .boolean),
    ("REAL", "REAL", some .float64), ("FLOAT64", "FLOAT64", some .float64),
    ("INT64", "INT64", some .int64), ("TEXT", "TEXT", some .utf8),
    ("FLOAT4", "FLOAT4", none), ("FLOAT8", "FLOAT8", none), ("FLOAT32", "Float32", none),
    ("INT16", "Int16", none), ("INT32", "Int32", none), ("INT128", "Int128", none),
    ("INT256", "Int256", none), ("UINT8", "UInt8", none), ("UINT16", "UInt16", none),
    ("UINT32", "UInt32", none), ("UINT64", "UInt64", none), ("UINT128", "UInt128", none),
    ("UINT256", "UInt256", none), ("UUID", "UUID", none), ("DATE", "DATE", none),
    ("DATE32", "Date32", none), ("INTERVAL", "INTERVAL", none), ("JSON", "JSON", none),
    ("JSONB", "JSONB", none), ("REGCLASS", "REGCLASS", none), ("TINYTEXT", "TINYTEXT", none),
    ("MEDIUMTEXT", "MEDIUMTEXT", none), ("LONGTEXT", "LONGTEXT", none),
    ("TINYBLOB", "TINYBLOB", none), ("MEDIUMBLOB", "MEDIUMBLOB", none),
    ("LONGBLOB", "LONGBLOB", none), ("BYTEA", "BYTEA", none), ("TRIGGER", "TRIGGER", none)]

/-- Integer types that may have a width, with their targets without and with one. -/
def integerTypes : List (String × Option DataType × Option DataType) :=
  [("TINYINT", none, none), ("SMALLINT", none, none), ("MEDIUMINT", none, none),
    ("INT2", none, none), ("INT", some .int64, none), ("INTEGER", some .int64, none),
    ("BIGINT", some .int64, none), ("INT4", some .int64, some .int64),
    ("INT8", some .int64, some .int64)]

/-- Other types that may have a width, with their targets without and with one. -/
def sizedTypes : List (String × Option DataType × Option DataType) :=
  [("FLOAT", some .float64, none), ("STRING", some .utf8, some .utf8), ("CLOB", none, none),
    ("BINARY", none, none), ("VARBINARY", none, none), ("BLOB", none, none), ("BYTES", none, none),
    ("DATETIME", none, none), ("TIMESTAMPTZ", none, none), ("TIMETZ", none, none)]

/-- Types that may have a precision and a scale. -/
def decimalTypes : List String := ["NUMERIC", "DECIMAL", "DEC", "BIGNUMERIC", "BIGDECIMAL"]

/-- An integer type behind its word, with and without a sign. -/
def integerType (word : String) (plain sized : Option DataType) : Parser TypeReading := do
  let w ← width
  if ← keyword? "UNSIGNED" then pure (builtin (word ++ w ++ " UNSIGNED") none)
  else pure (builtin (word ++ w) (if w.isEmpty then plain else sized))

/-- A type of characters behind its word. -/
def characterType (word : String) : Parser TypeReading := do
  if ← keyword? "VARYING" then
    let n ← textLength
    pure (builtin (word ++ " VARYING" ++ n) none)
  else if ← keywords? ["LARGE", "OBJECT"] then
    let n ← width
    pure (builtin (word ++ " LARGE OBJECT" ++ n) none)
  else
    let n ← textLength
    pure (builtin (word ++ n) none)

/-- The parsers of types that begin with the keyword and hold no other type, behind it; none if it
    begins no such type. -/
def simpleType? (word : String) : Option (Parser TypeReading) :=
  match plainTypes.lookup word, integerTypes.lookup word, sizedTypes.lookup word with
  | some (text, target), _, _ => some (pure (builtin text target))
  | none, some (plain, sized), _ => some (integerType word plain sized)
  | none, none, some (plain, sized) => some do
    let w ← width
    pure (builtin (word ++ w) (if w.isEmpty then plain else sized))
  | none, none, none =>
    if decimalTypes.contains word then some do
      let p ← precision
      pure (builtin (word ++ p) none)
    else if word = "DOUBLE" then some do
      let p ← words ["PRECISION"]
      pure (builtin ("DOUBLE" ++ p) (some .float64))
    else if word = "VARCHAR" then some do
      let n ← textLength
      pure (builtin ("VARCHAR" ++ n) (some .utf8))
    else if word = "NVARCHAR" then some do
      let n ← textLength
      pure (builtin ("NVARCHAR" ++ n) none)
    else if word = "CHARACTER" ∨ word = "CHAR" then some (characterType word)
    else if word = "BIT" then some do
      let varying ← words ["VARYING"]
      let w ← width
      pure (builtin ("BIT" ++ varying ++ w) none)
    else if word = "TIMESTAMP" ∨ word = "TIME" then some do
      let w ← width
      let zone ← timeZone
      pure (builtin (word ++ w ++ zone) none)
    else if word = "DATETIME64" then some do
      symbol "("
      let n ← count
      let zone ← do
        if ← symbol? "," then
          let z ← stringText
          pure (", " ++ rawQuoted z)
        else pure ""
      symbol ")"
      pure (builtin ("DateTime64(" ++ toString n ++ zone ++ ")") none)
    else if word = "FIXEDSTRING" then some do
      let n ← parenthesized count
      pure (builtin ("FixedString(" ++ toString n ++ ")") none)
    else if word = "ENUM" ∨ word = "ENUM8" ∨ word = "ENUM16" then some do
      let members ← parenthesized (commaText enumMember)
      pure (builtin (word ++ "(" ++ members ++ ")") none)
    else if word = "SET" then some do
      let members ← parenthesized (strictList setMember)
      pure (builtin ("SET(" ++ ", ".intercalate members ++ ")") none)
    else none

/-- A type of another name. -/
def customType : Parser TypeReading := do
  let name ← nameText
  let ms ← modifiers
  pure ⟨⟨name ++ ms, none⟩, true, false⟩

/-! ## Types that hold types -/

/-- A type whose last token closes nothing else. -/
def closedType (p : Parser TypeReading) : Parser TypeName := do
  let r ← p
  if r.closesOuter then fail else pure r.type

/-- The fields of a structure, in parentheses. -/
def typeFields (inner : Parser TypeReading) : Parser String := parenthesized <| commaText do
  let name ← ident
  let type ← closedType inner
  pure (name.text ++ " " ++ type.text)

/-- An array type behind its word. A `>>` closes two of them. -/
def arrayType (inner : Parser TypeReading) : Parser TypeReading := do
  symbol "<"
  let r ← inner
  let closesOuter ← do
    if r.closesOuter then pure false
    else if ← symbol? ">" then pure false
    else
      symbol ">>"
      pure true
  pure ⟨⟨"ARRAY<" ++ r.type.text ++ ">", none⟩, false, closesOuter⟩

/-- A type without brackets behind it, where `inner` reads the types that it holds. -/
def baseType (inner : Parser TypeReading) : Parser TypeReading := do
  match ← peek with
  | some (.word w) =>
    match simpleType? w.upper with
    | some p =>
      let _ ← next
      p
    | none =>
      if ← keyword? "ARRAY" then arrayType inner
      else if ← keyword? "STRUCT" then
        let fields ← typeFields inner
        pure (builtin ("STRUCT(" ++ fields ++ ")") none)
      else if ← keyword? "UNION" then
        let fields ← typeFields inner
        pure (builtin ("UNION(" ++ fields ++ ")") none)
      else if ← keywords? ["ANY", "TYPE"] then pure (builtin "ANY TYPE" none)
      else customType
  | _ => fail

/-- The brackets behind a type. -/
def bracketsWithin (r : TypeReading) : Nat → Parser TypeReading
  | 0 => pure r
  | fuel + 1 => do
    if ← symbol? "[" then
      let size ← optional count
      symbol "]"
      let text := r.type.text ++ "[" ++ ((size.map toString).getD "") ++ "]"
      bracketsWithin ⟨⟨text, none⟩, false, r.closesOuter⟩ fuel
    else pure r

/-- A type, `fuel` bounding how many types are within each other. -/
def typeWithin : Nat → Parser TypeReading
  | 0 => fail
  | fuel + 1 => do
    let r ← baseType (typeWithin fuel)
    fun ts => bracketsWithin r ts.length ts

/-- A type, with what is known of its name. -/
def typeReading : Parser TypeReading := fun ts => do
  let (r, rest) ← typeWithin (ts.length + 1) ts
  if r.closesOuter then .error .tokens else .ok (r, rest)

/-- A type. -/
def typeName : Parser TypeName := TypeReading.type <$> typeReading

end FramePlan.Sql.Parser
