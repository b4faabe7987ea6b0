import Cohort.Predicate.Grammar.Call

/-!
# Queries inside phrases

A query may stand where a phrase contains one. As no predicate does, only its normal text is kept.
-/

namespace Cohort

open Sql (Token Symbol)

namespace Rule

/-- Words that begin the next part of a query, and so are no other name of a column. -/
def reservedAfterColumn : List String :=
  ["WITH", "EXPLAIN", "ANALYZE", "SELECT", "WHERE", "GROUP", "SORT", "HAVING", "ORDER", "TOP", "LATERAL", "VIEW",
    "LIMIT", "OFFSET", "FETCH", "UNION", "EXCEPT", "INTERSECT", "CLUSTER", "DISTRIBUTE", "RETURNING", "INTO", "FROM",
    "END"]

/-- Words that begin the next part of a query, and so are no other name of a table. -/
def reservedAfterTable : List String :=
  ["WITH", "EXPLAIN", "ANALYZE", "SELECT", "WHERE", "GROUP", "SORT", "HAVING", "ORDER", "PIVOT", "UNPIVOT", "TOP",
    "LATERAL", "VIEW", "LIMIT", "OFFSET", "FETCH", "UNION", "EXCEPT", "INTERSECT", "ON", "JOIN", "INNER", "CROSS",
    "FULL", "LEFT", "RIGHT", "NATURAL", "USING", "CLUSTER", "DISTRIBUTE", "GLOBAL", "ANTI", "SEMI", "RETURNING",
    "ASOF", "MATCH_CONDITION", "OUTER", "SET", "QUALIFY", "WINDOW", "END", "FOR", "PARTITION", "PREWHERE", "SETTINGS",
    "FORMAT", "START", "CONNECT", "MATCH_RECOGNIZE"]

/-- Another name, if one follows. -/
def takeAlias (reserved : List String) : Rule (Option WrittenName) := do
  if ← takeKeyword "AS" then return some (← name)
  match ← peek with
  | some (.string _) => return some (← name)
  | some (.word text quote) =>
    if reserved.any (Token.word text quote).isKeyword then return none else return some (← name)
  | _ => return none

def columnAlias : Rule String := return match ← takeAlias reservedAfterColumn with
  | none => ""
  | some n => " AS " ++ n.written

/-- Another name of a table, perhaps with names of its columns. -/
def tableAlias : Rule String := do
  match ← takeAlias reservedAfterTable with
  | none => return ""
  | some n =>
    if ← isNextSymbol .leftParen then
      let columns ← parenthesized (commaList name)
      return " AS " ++ n.written ++ " (" ++ ", ".intercalate (columns.map WrittenName.written) ++ ")"
    else return " AS " ++ n.written

variable (i : Inner)

/-- A condition on which tables are joined, if one is given. -/
def joinCondition : Rule String := do
  if ← takeKeyword "ON" then return " ON " ++ (← i.expression).text
  else if ← takeKeyword "USING" then
    return " USING(" ++ ", ".intercalate ((← parenthesized (commaList name)).map WrittenName.written) ++ ")"
  else return ""

/-- The kind of join that follows, if one does, and whether it takes a condition. -/
def joinKind? : Rule (Option (String × Bool)) := do
  let natural ← takeKeyword "NATURAL"
  let front := if natural then " NATURAL" else ""
  if ← takeKeywords ["CROSS", "JOIN"] then return some (front ++ " CROSS JOIN ", false)
  if ← takeKeyword "JOIN" then return some (front ++ " JOIN ", !natural)
  if ← takeKeywords ["INNER", "JOIN"] then return some (front ++ " JOIN ", !natural)
  match ← takeOneOf ["LEFT", "RIGHT", "FULL"] with
  | some k =>
    let _ ← takeKeyword "OUTER"
    expectKeyword "JOIN"
    return some (front ++ " " ++ k ++ " JOIN ", !natural)
  | none => if natural then refuse else return none

/-- Tables joined together; `limit` bounds their number and depth. -/
def joinedTables : Nat → Rule String
  | 0 => refuse
  | limit + 1 => do return (← table limit) ++ (← joins limit limit)
where
  table (limit : Nat) : Rule String := do
    if ← isNextSymbol .leftParen then
      match ← attempt (parenthesized i.query) with
      | some q => return "(" ++ q ++ ")" ++ (← tableAlias)
      | none => return "(" ++ (← parenthesized (joinedTables limit)) ++ ")" ++ (← tableAlias)
    else
      let front ← pathText
      let args ←
        if ← takeSymbol .leftParen then pure ("(" ++ (← arguments i).1 ++ ")") else pure ""
      return front ++ args ++ (← tableAlias)
  joins (limit : Nat) : Nat → Rule String
    | 0 => return ""
    | count + 1 => do
      match ← joinKind? with
      | none => return ""
      | some (kind, conditional) =>
        let right ← table limit
        let condition ← if conditional then joinCondition i else pure ""
        return kind ++ right ++ condition ++ (← joins limit count)

/-- A column of a query. -/
def selectItem : Rule String := do
  if (← isNextKeyword "FROM") then refuse
  return (← wildcardOrPhrase i) ++ (← columnAlias)

/-- A word and the text that the rule reads after it, if the word follows. -/
def clause (words : List String) (r : Rule String) : Rule String := do
  if ← takeKeywords words then return " " ++ " ".intercalate words ++ " " ++ (← r) else return ""

/-- A query that begins with `SELECT`, after that word. -/
def selectRest : Rule String := do
  let distinct ← if ← takeKeyword "DISTINCT" then pure " DISTINCT" else do
    let _ ← takeKeyword "ALL"
    pure ""
  let items ← commaList (selectItem i)
  let tables ← clause ["FROM"] do
    return ", ".intercalate (← commaList do joinedTables i (← get).length)
  let condition ← clause ["WHERE"] (return (← i.expression).text)
  let groups ← clause ["GROUP", "BY"] do
    if ← takeKeyword "ALL" then return "ALL" else return Phrase.commaText (← commaList i.expression)
  let having ← clause ["HAVING"] (return (← i.expression).text)
  return "SELECT" ++ distinct ++ " " ++ ", ".intercalate items ++ tables ++ condition ++ groups ++ having

/-- A query without order and limits. -/
def queryTerm : Rule String := do
  if ← takeKeyword "SELECT" then selectRest i
  else if ← takeKeyword "VALUES" then
    let rows ← commaList do return "(" ++ Phrase.commaText (← parenthesized (commaList i.expression)) ++ ")"
    return "VALUES " ++ ", ".intercalate rows
  else if ← takeKeyword "TABLE" then return "TABLE " ++ (← pathText)
  else return "(" ++ (← parenthesized i.query) ++ ")"

/-- How strongly the word that joins two queries binds. -/
def setStrength (ts : List Token) : Nat :=
  match ts with
  | [] => 0
  | t :: _ => if t.isKeyword "UNION" || t.isKeyword "EXCEPT" then 10 else if t.isKeyword "INTERSECT" then 20 else 0

mutual

/-- Queries joined by words stronger than `floor`; `limit` bounds their number. -/
def queryTerms : Nat → Nat → Rule String
  | 0, _ => refuse
  | limit + 1, floor => do moreQueryTerms limit floor (← queryTerm i)

/-- The queries that follow a query. -/
def moreQueryTerms : Nat → Nat → String → Rule String
  | 0, _, left => return left
  | limit + 1, floor, left => do
    let s := setStrength (← get)
    if floor < s then
      match ← takeOneOf ["UNION", "EXCEPT", "INTERSECT"] with
      | none => refuse
      | some op =>
        let all ← takeOneOf ["ALL", "DISTINCT"]
        let right ← queryTerms limit s
        moreQueryTerms limit floor
          (left ++ " " ++ op ++ (match all with | none => "" | some a => " " ++ a) ++ " " ++ right)
    else return left

end

/-- A query that has a name in the query after it. -/
def namedQuery : Rule String := do
  let n ← name
  let columns ←
    if ← isNextSymbol .leftParen then
      pure (" (" ++ ", ".intercalate ((← parenthesized (commaList name)).map WrittenName.written) ++ ")")
    else pure ""
  expectKeyword "AS"
  let kept ←
    if ← takeKeyword "MATERIALIZED" then pure "MATERIALIZED "
    else do if ← takeKeywords ["NOT", "MATERIALIZED"] then pure "NOT MATERIALIZED " else pure ""
  return n.written ++ columns ++ " AS " ++ kept ++ "(" ++ (← parenthesized i.query) ++ ")"

/-- The number of rows to leave out, after the word for it. -/
def offsetRest : Rule String := do
  let p ← i.expression
  match ← takeOneOf ["ROW", "ROWS"] with
  | none => return p.text
  | some k => return p.text ++ " " ++ k

/-- A whole query. -/
def queryText : Rule String := do
  let named ←
    if ← takeKeyword "WITH" then
      let recursive ← if ← takeKeyword "RECURSIVE" then pure "RECURSIVE " else pure ""
      pure ("WITH " ++ recursive ++ ", ".intercalate (← commaList (namedQuery i)) ++ " ")
    else pure ""
  let body ← queryTerms i ((← get).length + 1) 0
  let order ← clause ["ORDER", "BY"] (orderList i)
  let early ← clause ["OFFSET"] (offsetRest i)
  let limit ←
    if ← takeKeyword "LIMIT" then
      if ← takeKeyword "ALL" then pure "" else pure (" LIMIT " ++ (← i.expression).text)
    else pure ""
  let late ← if early = "" then clause ["OFFSET"] (offsetRest i) else pure ""
  return named ++ body ++ order ++ limit ++ early ++ late

end Rule

end Cohort
