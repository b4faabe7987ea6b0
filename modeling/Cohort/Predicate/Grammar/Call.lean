import Cohort.Predicate.Grammar.Operation

/-!
# Calls

Calls of functions, and the forms that look like calls but have words of their own between the arguments. No
predicate contains any of them, so that the rules here keep only their normal text.
-/

namespace Cohort

open Sql (Token Symbol)

namespace Rule

variable (i : Inner)

/-- A phrase to order by, with its direction and the place of nulls. -/
def orderItem : Rule String := do
  let p ← i.expression
  let direction ← takeOneOf ["ASC", "DESC"]
  let nulls ←
    if ← takeKeywords ["NULLS", "FIRST"] then pure " NULLS FIRST"
    else do if ← takeKeywords ["NULLS", "LAST"] then pure " NULLS LAST" else pure ""
  return p.text ++ (match direction with | none => "" | some d => " " ++ d) ++ nulls

/-- Items to order by, after the words for it. -/
def orderList : Rule String := return ", ".intercalate (← commaList (orderItem i))

/-- One end of the frame of a window. -/
def frameBound : Rule String := do
  if ← takeKeywords ["CURRENT", "ROW"] then return "CURRENT ROW"
  let distance ←
    if ← takeKeyword "UNBOUNDED" then pure "UNBOUNDED"
    else do if ← isNextKeyword "INTERVAL" then pure (← i.operand).text else pure (← i.expression).text
  match ← takeOneOf ["PRECEDING", "FOLLOWING"] with
  | some k => return distance ++ " " ++ k
  | none => refuse

/-- The parts of a window between its parentheses. -/
def window : Rule String := do
  let base ← attempt do
    match ← next with
    | .word text quote =>
      if (Token.word text quote).isFreeWord then return (WrittenName.mk text quote).written else refuse
    | _ => refuse
  let groups ←
    if ← takeKeywords ["PARTITION", "BY"] then
      pure ["PARTITION BY " ++ Phrase.commaText (← commaList i.expression)]
    else pure []
  let order ← if ← takeKeywords ["ORDER", "BY"] then pure ["ORDER BY " ++ (← orderList i)] else pure []
  let frame ← match ← takeOneOf ["ROWS", "RANGE", "GROUPS"] with
    | none => pure []
    | some unit =>
      if ← takeKeyword "BETWEEN" then
        let low ← frameBound i
        expectKeyword "AND"
        pure [unit ++ " BETWEEN " ++ low ++ " AND " ++ (← frameBound i)]
      else pure [unit ++ " " ++ (← frameBound i)]
  return " ".intercalate (base.toList ++ groups ++ order ++ frame)

/-- How nulls count, if that is said. -/
def nullTreatment : Rule (Option String) := do
  match ← takeOneOf ["RESPECT", "IGNORE"] with
  | none => return none
  | some k =>
    expectKeyword "NULLS"
    return some (k ++ " NULLS")

/-- The names before a period and an asterisk; `limit` bounds their number. -/
def wildcardRest : Nat → Rule (List WrittenName)
  | 0 => refuse
  | limit + 1 => do
    expectSymbol .period
    if ← takeSymbol .mul then return [] else return (← name) :: (← wildcardRest limit)

/-- An asterisk, with or without a path before it, or a phrase. -/
def wildcardOrPhrase : Rule String := do
  if ← takeSymbol .mul then return "*"
  match ← attempt (do return (← name) :: (← wildcardRest (← get).length)) with
  | some names => return WrittenName.path names ++ ".*"
  | none => return (← i.expression).text

def argument : Rule String := do
  let label ← attempt do
    let n ← name
    if ← takeSymbol .rightArrow then return n.written ++ " => "
    expectSymbol .assign
    return n.written ++ " := "
  match label with
  | some front => return front ++ (← wildcardOrPhrase i)
  | none => wildcardOrPhrase i

/-- What a list of values does when it grows too long, if that is said. -/
def overflowClause : Rule (List String) := do
  if ← takeKeywords ["ON", "OVERFLOW"] then
    if ← takeKeyword "ERROR" then return ["ON OVERFLOW ERROR"]
    expectKeyword "TRUNCATE"
    let filler ←
      if (← isNextKeyword "WITH") || (← isNextKeyword "WITHOUT") then pure ""
      else match ← peek with
        | some (.string _) => pure (" " ++ (← i.expression).text)
        | some (.special _ _) => pure (" " ++ (← i.expression).text)
        | _ => refuse
    match ← takeOneOf ["WITH", "WITHOUT"] with
    | some k =>
      expectKeyword "COUNT"
      return ["ON OVERFLOW TRUNCATE" ++ filler ++ " " ++ k ++ " COUNT"]
    | none => refuse
  else return []

/-- The arguments of a call after the opening parenthesis, with the closing one, and whether they say how nulls
count. -/
def arguments : Rule (String × Bool) := do
  if ← takeSymbol .rightParen then return ("", false)
  let all ← takeKeyword "ALL"
  let distinct ← takeKeyword "DISTINCT"
  if all ∧ distinct then refuse
  let front := if all then "ALL " else if distinct then "DISTINCT " else ""
  let args ← commaList (argument i)
  let nulls ← nullTreatment
  let order ← if ← takeKeywords ["ORDER", "BY"] then pure ["ORDER BY " ++ (← orderList i)] else pure []
  let limit ← if ← takeKeyword "LIMIT" then pure ["LIMIT " ++ (← i.expression).text] else pure []
  let having ←
    if ← takeKeyword "HAVING" then
      match ← takeOneOf ["MIN", "MAX"] with
      | some k => pure ["HAVING " ++ k ++ " " ++ (← i.expression).text]
      | none => refuse
    else pure []
  let separator ← if ← takeKeyword "SEPARATOR" then pure ["SEPARATOR " ++ (← constant).text] else pure []
  let overflow ← overflowClause i
  expectSymbol .rightParen
  let clauses := nulls.toList ++ order ++ limit ++ having ++ separator ++ overflow
  return (front ++ " ".intercalate (", ".intercalate args :: clauses), nulls.isSome)

/-- A call of a function, after its name. -/
def call (function : String) : Rule Phrase := do
  expectSymbol .leftParen
  let (args, hasNulls) ← arguments i
  let within ←
    if ← takeKeywords ["WITHIN", "GROUP"] then
      let order ← parenthesized do
        expectKeywords ["ORDER", "BY"]
        orderList i
      pure (" WITHIN GROUP (ORDER BY " ++ order ++ ")")
    else pure ""
  let nulls ← if hasNulls then pure none else nullTreatment
  let frame ←
    if ← takeKeyword "OVER" then
      if ← isNextSymbol .leftParen then pure (" OVER (" ++ (← parenthesized (window i)) ++ ")")
      else pure (" OVER " ++ (← name).written)
    else pure ""
  let nullsText := match nulls with
    | none => ""
    | some s => " " ++ s
  return .other (function ++ "(" ++ args ++ ")" ++ within ++ nullsText ++ frame)

/-- A function of the current time, which may be written without arguments. -/
def timeFunction (function : String) : Rule Phrase := do
  if ← takeSymbol .leftParen then return .other (function ++ "(" ++ (← arguments i).1 ++ ")")
  else return .other function

/-- The words for fields of a date that may also follow a span. -/
def spanUnits : List String :=
  ["YEAR", "MONTH", "WEEK", "DAY", "HOUR", "MINUTE", "SECOND", "CENTURY", "DECADE", "DOW", "DOY", "EPOCH", "ISODOW",
    "ISOYEAR", "JULIAN", "MICROSECOND", "MICROSECONDS", "MILLENIUM", "MILLENNIUM", "MILLISECOND", "MILLISECONDS",
    "NANOSECOND", "NANOSECONDS", "QUARTER", "TIMEZONE", "TIMEZONE_HOUR", "TIMEZONE_MINUTE"]

def dateFields : List String :=
  spanUnits ++ ["DAYOFWEEK", "DAYOFYEAR", "DATE", "DATETIME", "ISOWEEK", "TIME", "TIMEZONE_ABBR", "TIMEZONE_REGION"]

/-- A field of a date, known or not. -/
def dateField : Rule String := do
  match ← takeOneOf dateFields with
  | some "WEEK" =>
    if ← isNextSymbol .leftParen then return "WEEK(" ++ (← parenthesized name).written ++ ")" else return "WEEK"
  | some k => return k
  | none =>
    match ← next with
    | .word text quote => return (WrittenName.mk text quote).written
    | .string content => return inQuotes '\'' content
    | _ => refuse

/-- A span of time after its first word. -/
def spanRest : Rule Phrase := do
  let first ← i.operand
  let value ← climbBy strengthInSpan i 0 (← get).length first
  let front := "INTERVAL " ++ value.text
  if !(← get).head?.any fun t => spanUnits.any t.isKeyword then
    return .other (front ++ (← precision) ++ (← lastField))
  let field ← dateField
  if field = "SECOND" then
    if ← isNextSymbol .leftParen then
      parenthesized do
        let n ← size
        if ← takeSymbol .comma then
          return .other (front ++ " SECOND (" ++ toString n ++ ", " ++ toString (← size) ++ ")")
        else return .other (front ++ " SECOND (" ++ toString n ++ ")")
    else return .other (front ++ " SECOND")
  else return .other (front ++ " " ++ field ++ (← precision) ++ (← lastField))
where
  precision : Rule String := return match ← optionalSize with
    | none => ""
    | some n => " (" ++ toString n ++ ")"
  lastField : Rule String := do
    if ← takeKeyword "TO" then
      let last ← dateField
      if last = "SECOND" then return " TO " ++ last ++ (← precision) else return " TO " ++ last
    else return ""

/-! ## Forms with words between the arguments -/

/-- The branches of a case; `limit` bounds their number. -/
def caseBranches : Nat → Rule String
  | 0 => refuse
  | limit + 1 => do
    let condition ← i.expression
    expectKeyword "THEN"
    let result ← i.expression
    let text := " WHEN " ++ condition.text ++ " THEN " ++ result.text
    if ← takeKeyword "WHEN" then return text ++ (← caseBranches limit) else return text

def caseRest : Rule Phrase := do
  let subject ←
    if ← takeKeyword "WHEN" then pure ""
    else
      let p ← i.expression
      expectKeyword "WHEN"
      pure (" " ++ p.text)
  let branches ← caseBranches i (← get).length
  let otherwise ← if ← takeKeyword "ELSE" then pure (" ELSE " ++ (← i.expression).text) else pure ""
  expectKeyword "END"
  return .other ("CASE" ++ subject ++ branches ++ otherwise ++ " END")

def castRest (word : String) : Rule Phrase := parenthesized do
  let p ← i.expression
  expectKeyword "AS"
  let t ← typeName
  let format ←
    if ← takeKeyword "FORMAT" then
      let f ← constant
      let zone ←
        if ← takeKeywords ["AT", "TIME", "ZONE"] then pure (" AT TIME ZONE " ++ (← constant).text) else pure ""
      pure (" FORMAT " ++ f.text ++ zone)
    else pure ""
  return .other (word ++ "(" ++ p.text ++ " AS " ++ t.text ++ format ++ ")")

def convertRest : Rule Phrase := parenthesized do
  let p ← i.expression
  if ← takeKeyword "USING" then return .other ("CONVERT(" ++ p.text ++ " USING " ++ (← pathText) ++ ")")
  expectSymbol .comma
  let t ← typeName
  let charset ← if ← takeKeywords ["CHARACTER", "SET"] then pure (" CHARACTER SET " ++ (← pathText)) else pure ""
  return .other ("CONVERT(" ++ p.text ++ ", " ++ t.text ++ charset ++ ")")

def existsRest (negated : Bool) : Rule Phrase := do
  return .other (Phrase.negation negated ++ "EXISTS (" ++ (← parenthesized i.query) ++ ")")

def extractRest : Rule Phrase := parenthesized do
  let field ← dateField
  expectKeyword "FROM"
  return .other ("EXTRACT(" ++ field ++ " FROM " ++ (← i.expression).text ++ ")")

/-- Rounding to a whole number or to a field of a date. -/
def roundRest (word : String) : Rule Phrase := parenthesized do
  let p ← i.expression
  let field ← if ← takeKeyword "TO" then pure (" TO " ++ (← dateField)) else pure ""
  return .other (word ++ "(" ++ p.text ++ field ++ ")")

def positionRest (function : String) : Rule Phrase := do
  let found ← attempt <| parenthesized do
    let p ← i.operation comparisonStrength
    expectKeyword "IN"
    return .other ("POSITION(" ++ p.text ++ " IN " ++ (← i.expression).text ++ ")")
  match found with
  | some p => return p
  | none => call i function

def substringRest : Rule Phrase := parenthesized do
  let p ← i.expression
  let commas ← takeSymbol .comma
  let start ←
    if commas then pure (", " ++ (← i.expression).text)
    else do if ← takeKeyword "FROM" then pure (" FROM " ++ (← i.expression).text) else pure ""
  let counted ← if ← takeKeyword "FOR" then pure true else takeSymbol .comma
  let count ←
    if counted then
      pure ((if commas then ", " else " FOR ") ++ (← i.expression).text)
    else pure ""
  return .other ("SUBSTRING(" ++ p.text ++ start ++ count ++ ")")

def overlayRest : Rule Phrase := parenthesized do
  let p ← i.expression
  expectKeyword "PLACING"
  let what ← i.expression
  expectKeyword "FROM"
  let start ← i.expression
  let count ← if ← takeKeyword "FOR" then pure (" FOR " ++ (← i.expression).text) else pure ""
  return .other ("OVERLAY(" ++ p.text ++ " PLACING " ++ what.text ++ " FROM " ++ start.text ++ count ++ ")")

def trimRest : Rule Phrase := parenthesized do
  let side ← takeOneOf ["BOTH", "LEADING", "TRAILING"]
  let front := "TRIM(" ++ (match side with | none => "" | some k => k ++ " ")
  let p ← i.expression
  if ← takeKeyword "FROM" then return .other (front ++ p.text ++ " FROM " ++ (← i.expression).text ++ ")")
  else if ← takeSymbol .comma then
    return .other ("TRIM(" ++ p.text ++ ", " ++ Phrase.commaText (← commaList i.expression) ++ ")")
  else return .other (front ++ p.text ++ ")")

/-- The elements of an array after the opening bracket. -/
def arrayRest (word : String) : Rule Phrase := do
  if ← takeSymbol .rightBracket then return .other (word ++ "[]")
  let items ← commaList i.expression
  expectSymbol .rightBracket
  return .other (word ++ "[" ++ Phrase.commaText items ++ "]")

/-- A search in the full text of columns. -/
def matchRest : Rule Phrase := do
  let columns ← parenthesized (commaList name)
  expectKeyword "AGAINST"
  parenthesized do
    let value := (← constant).text
    let mode ←
      if ← takeKeywords ["IN", "NATURAL", "LANGUAGE", "MODE"] then
        if ← takeKeywords ["WITH", "QUERY", "EXPANSION"] then
          pure " IN NATURAL LANGUAGE MODE WITH QUERY EXPANSION"
        else pure " IN NATURAL LANGUAGE MODE"
      else do
        if ← takeKeywords ["IN", "BOOLEAN", "MODE"] then pure " IN BOOLEAN MODE"
        else do if ← takeKeywords ["WITH", "QUERY", "EXPANSION"] then pure " WITH QUERY EXPANSION" else pure ""
    let columnText := ", ".intercalate (columns.map WrittenName.written)
    return .other ("MATCH (" ++ columnText ++ ") AGAINST (" ++ value ++ mode ++ ")")

/-- A record of values. They may have names unless the fields of the record are given. -/
def recordRest : Rule Phrase := do
  let fields ← recordType
  let items ← parenthesized <| commaList do
    let p ← i.expression
    if fields.isEmpty then
      if ← takeKeyword "AS" then return p.text ++ " AS " ++ (← name).written
    return p.text
  return .other ("STRUCT" ++ fields ++ "(" ++ ", ".intercalate items ++ ")")

/-- A record of named values after the opening brace. -/
def dictionaryRest : Rule Phrase := do
  let items ← commaList do
    let key ← name
    expectSymbol .colon
    return key.written ++ ": " ++ (← i.expression).text
  expectSymbol .rightBrace
  return .other ("\x7b" ++ ", ".intercalate items ++ "\x7d")

end Rule

end Cohort
