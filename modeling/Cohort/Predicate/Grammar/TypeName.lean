import Cohort.Predicate.Grammar.Constant

/-!
# Names of types

The types that a cast may name and that may stand before a string, in their normal spelling. Any other path is
taken for the name of a type that someone has defined; such a name may stand in a cast but not before a string.
-/

namespace Cohort

open Sql (Token Symbol)

inductive TypeName
  | standard (text : String)
  | interval
  | defined (text : String)
  deriving DecidableEq, Repr

namespace TypeName

def text : TypeName → String
  | .standard text => text
  | .interval => "INTERVAL"
  | .defined text => text

end TypeName

namespace Rule

/-- A size in parentheses, if one follows. -/
def optionalSize : Rule (Option Nat) := do
  if ← isNextSymbol .leftParen then return some (← parenthesized size) else return none

def sizeText (n : Option Nat) : String :=
  match n with
  | none => ""
  | some n => "(" ++ toString n ++ ")"

/-- One size or two in parentheses, if any follow. -/
def optionalSizes : Rule String := do
  if ← isNextSymbol .leftParen then
    parenthesized do
      let n ← size
      if ← takeSymbol .comma then return "(" ++ toString n ++ "," ++ toString (← size) ++ ")"
      else return "(" ++ toString n ++ ")"
  else return ""

/-- A length of text in parentheses, if one follows. -/
def optionalLength : Rule String := do
  if ← isNextSymbol .leftParen then
    parenthesized do
      if ← takeKeyword "MAX" then return "(MAX)"
      let n ← size
      let unit ← takeOneOf ["CHARACTERS", "OCTETS"]
      return "(" ++ toString n ++ (match unit with | none => "" | some u => " " ++ u) ++ ")"
  else return ""

/-- A size and then whether there is a time zone. -/
def timeDetails (word : String) : Rule String := do
  let n ← optionalSize
  if ← takeKeyword "WITH" then
    expectKeywords ["TIME", "ZONE"]
    return word ++ sizeText n ++ " WITH TIME ZONE"
  else if ← takeKeyword "WITHOUT" then
    expectKeywords ["TIME", "ZONE"]
    return word ++ sizeText n ++ " WITHOUT TIME ZONE"
  else return word ++ sizeText n

/-- The rest of a type of text that has a varying and a large form. -/
def textDetails (word : String) : Rule String := do
  if ← takeKeyword "VARYING" then return word ++ " VARYING" ++ (← optionalLength)
  else if ← takeKeywords ["LARGE", "OBJECT"] then return word ++ " LARGE OBJECT" ++ sizeText (← optionalSize)
  else return word ++ (← optionalLength)

/-- A number of a list of strings in parentheses. -/
def stringList : Rule String := do
  let items ← parenthesized <| commaList do
    match ← next with
    | .string content => return inQuotes '\'' content
    | _ => refuse
  return "(" ++ ", ".intercalate items ++ ")"

/-- What stands in parentheses after the name of a defined type; `limit` bounds its length. -/
def modifiers : Nat → Rule (List String)
  | 0 => refuse
  | limit + 1 => do
    match ← next with
    | .word text quote => return (Token.word text quote).label :: (← modifiers limit)
    | .number digits _ => return digits :: (← modifiers limit)
    | .string content => return content :: (← modifiers limit)
    | .symbol .comma => modifiers limit
    | .symbol .rightParen => return []
    | _ => refuse

def bareTypes : List String :=
  ["BOOLEAN", "BOOL", "REAL", "FLOAT4", "FLOAT64", "FLOAT8", "INT64", "UUID", "DATE", "JSON", "JSONB", "TEXT",
    "BYTEA", "REGCLASS"]

def sizedTypes : List String := ["FLOAT", "CLOB", "BINARY", "VARBINARY", "BLOB", "BYTES", "DATETIME", "STRING"]

def wholeTypes : List String :=
  ["TINYINT", "INT2", "SMALLINT", "MEDIUMINT", "INT", "INT4", "INTEGER", "BIGINT", "INT8"]

def exactTypes : List String := ["NUMERIC", "DECIMAL", "DEC", "BIGNUMERIC", "BIGDECIMAL"]

/-- The dimensions after the name of a type; `limit` bounds their number. -/
def dimensions : Nat → Rule String
  | 0 => return ""
  | limit + 1 => do
    if ← takeSymbol .leftBracket then
      let n ← attempt size
      expectSymbol .rightBracket
      return "[" ++ (match n with | none => "" | some n => toString n) ++ "]" ++ (← dimensions limit)
    else return ""

/-- A type that contains no other, without dimensions after it. -/
def singleType : Rule TypeName := do
  let t ← next
  let some word := t.capitals? | defined t
  if word ∈ bareTypes then return .standard word
  else if word ∈ sizedTypes then return .standard (word ++ sizeText (← optionalSize))
  else if word ∈ wholeTypes then
    let text := word ++ sizeText (← optionalSize)
    return .standard (if ← takeKeyword "UNSIGNED" then text ++ " UNSIGNED" else text)
  else if word ∈ exactTypes then return .standard (word ++ (← optionalSizes))
  else if word = "DOUBLE" then
    return .standard (if ← takeKeyword "PRECISION" then "DOUBLE PRECISION" else "DOUBLE")
  else if word = "VARCHAR" ∨ word = "NVARCHAR" then return .standard (word ++ (← optionalLength))
  else if word = "CHAR" ∨ word = "CHARACTER" then return .standard (← textDetails word)
  else if word = "TIMESTAMP" ∨ word = "TIME" then return .standard (← timeDetails word)
  else if word = "TIMESTAMPTZ" ∨ word = "TIMETZ" then return .standard (word ++ sizeText (← optionalSize))
  else if word = "INTERVAL" then return .interval
  else if word = "ENUM" ∨ word = "SET" then return .standard (word ++ (← stringList))
  else defined t
where
  /-- A path that begins with the token, and its modifiers. -/
  defined (t : Token) : Rule TypeName := do
    let .word text quote := t | refuse
    let names := WrittenName.path (⟨text, quote⟩ :: (← moreNames (← get).length))
    if ← takeSymbol .leftParen then
      let items ← modifiers (← get).length
      return .defined (if items.isEmpty then names else names ++ "(" ++ ", ".intercalate items ++ ")")
    else return .defined names

/-- The bracket after the types inside a type, unless it was taken with the last of them. Two closing brackets in a row
are one symbol, so that the rules of types also say whether they took a bracket that is not their own. -/
def closeAngle (closed : Bool) : Rule Bool := do
  if closed then return false
  if ← takeSymbol .gt then return false
  if ← takeSymbol .shiftRight then return true
  refuse

/-- A field of a record type: its name, if two words are given, and its type. -/
def recordField (element : Rule (TypeName × Bool)) : Rule (String × Bool) := do
  match ← get with
  | .word text quote :: .word _ _ :: _ =>
    let _ ← next
    let (t, closed) ← element
    return ((WrittenName.mk text quote).written ++ " " ++ t.text, closed)
  | _ =>
    let (t, closed) ← element
    return (t.text, closed)

/-- The fields of a record type; `limit` bounds their number. -/
def recordFields (element : Rule (TypeName × Bool)) : Nat → Rule (List String × Bool)
  | 0 => refuse
  | limit + 1 => do
    let (field, closed) ← recordField element
    if ← takeSymbol .comma then
      if closed then refuse
      let (fields, closed) ← recordFields element limit
      return (field :: fields, closed)
    else return ([field], closed)

/-- What follows the word for a record type: its fields in brackets, or nothing. -/
def recordDetails (element : Rule (TypeName × Bool)) : Rule (String × Bool) := do
  if ← takeSymbol .lt then
    let (fields, closed) ← recordFields element (← get).length
    return ("<" ++ ", ".intercalate fields ++ ">", ← closeAngle closed)
  else return ("", false)

/-- A type, with other types nested in it at most `limit` deep. -/
def typeNameWithin : Nat → Rule (TypeName × Bool)
  | 0 => refuse
  | limit + 1 => do
    let (t, closed) ←
      if ← takeKeyword "ARRAY" then
        expectSymbol .lt
        let (element, closed) ← typeNameWithin limit
        pure (TypeName.standard ("ARRAY<" ++ element.text ++ ">"), ← closeAngle closed)
      else do
        if ← takeKeyword "STRUCT" then
          let (fields, closed) ← recordDetails (typeNameWithin limit)
          pure (TypeName.standard ("STRUCT" ++ fields), closed)
        else pure (← singleType, false)
    let suffix ← dimensions (← get).length
    return (if suffix.isEmpty then t else .standard (t.text ++ suffix), closed)

/-- What the rule reads, unless it took a bracket too many. -/
def balanced {α : Type} (r : Rule (α × Bool)) : Rule α := do
  let (a, closed) ← r
  if closed then refuse else return a

def typeName : Rule TypeName := do balanced (typeNameWithin ((← get).length + 1))

/-- What follows the word for a record type, as its text. -/
def recordType : Rule String := do balanced (recordDetails (typeNameWithin ((← get).length + 1)))

end Rule

end Cohort
