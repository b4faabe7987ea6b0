import Cohort.Predicate.Grammar.Subquery

/-!
# The grammar of phrases

An operand is a constant, a name, a phrase in parentheses, or a form that begins with a word or sign of its own; a
phrase is an operand and the operators after it. Whole phrases may be nested `maxNesting` deep: parentheses and
lists count, signs and `NOT` do not.
-/

namespace Cohort

open Sql (Token Symbol StringForm)

namespace Rule

variable (i : Inner)

/-- A type and a string of that type. -/
def typedString : Rule Phrase := do
  match ← typeName with
  | .standard text => return .other (text ++ " " ++ inQuotes '\'' (← stringContent))
  | .interval => spanRest i
  | .defined _ => refuse

/-- What follows a name: more names, the arguments of a call, or a string in the character set of that name. -/
def nameRest (n : WrittenName) : Rule Phrase := do
  match ← peek with
  | some (.symbol .period) =>
    let names := n :: (← moreNames (← get).length)
    if ← isNextSymbol .leftParen then call i (WrittenName.path names) else return .path names
  | some (.symbol .leftParen) => call i n.written
  | some (.string content) =>
    if n.text.startsWith "_" then
      let _ ← next
      return .other (n.text ++ " " ++ inQuotes '\'' content)
    else return .name n
  | some (.special .hex content) =>
    if n.text.startsWith "_" then
      let _ ← next
      return .other (n.text ++ " " ++ specialText .hex content)
    else return .name n
  | _ => return .name n

/-- What follows `NOT`. -/
def notRest : Rule Phrase := do
  if ← takeKeyword "EXISTS" then existsRest i true else return .not (← i.operation notStrength)

/-- An operand that begins with a word. -/
def wordRest (text : String) : Rule Phrase := do
  let n : WrittenName := ⟨text, none⟩
  match Sql.inCapitals text with
  | "TRUE" => return .boolean true
  | "FALSE" => return .boolean false
  | "NULL" => return .null
  | "NOT" => notRest i
  | "CURRENT_CATALOG" | "CURRENT_USER" | "SESSION_USER" | "USER" => return .other text
  | "CURRENT_TIMESTAMP" | "CURRENT_TIME" | "CURRENT_DATE" | "LOCALTIME" | "LOCALTIMESTAMP" => timeFunction i text
  | "CASE" => caseRest i
  | "CONVERT" => convertRest i
  | "CAST" => castRest i "CAST"
  | "TRY_CAST" => castRest i "TRY_CAST"
  | "SAFE_CAST" => castRest i "SAFE_CAST"
  | "EXISTS" => existsRest i false
  | "EXTRACT" => extractRest i
  | "CEIL" => roundRest i "CEIL"
  | "FLOOR" => roundRest i "FLOOR"
  | "POSITION" => if ← isNextSymbol .leftParen then positionRest i text else nameRest i n
  | "SUBSTRING" => substringRest i
  | "OVERLAY" => overlayRest i
  | "TRIM" => trimRest i
  | "INTERVAL" => spanRest i
  | "ARRAY" =>
    if ← takeSymbol .leftBracket then arrayRest i "ARRAY"
    else if ← isNextSymbol .leftParen then return .other (text ++ "(" ++ (← parenthesized i.query) ++ ")")
    else nameRest i n
  | "MATCH" => matchRest
  | "STRUCT" => recordRest i
  | _ => nameRest i n

/-- What follows an opening parenthesis: a query, a phrase, or a list of phrases; and perhaps a field of it. -/
def bracketRest : Rule Phrase := do
  let p ←
    if (← isNextKeyword "SELECT") || (← isNextKeyword "WITH") then pure (.other ("(" ++ (← i.query) ++ ")"))
    else
      match ← commaList i.expression with
      | [p] => pure (.nested p)
      | ps => pure (.other ("(" ++ Phrase.commaText ps ++ ")"))
  expectSymbol .rightParen
  if ← takeSymbol .period then
    match ← next with
    | .word text quote => return .other (p.text ++ "." ++ (WrittenName.mk text quote).written)
    | _ => refuse
  else return p

/-- An operand that is no string of a type, without a collation. -/
def bareOperand : Rule Phrase := do
  match ← next with
  | .word text none => wordRest i text
  | .word text (some q) => nameRest i ⟨text, some q⟩
  | .symbol .minus => return .minus (← i.operation productStrength)
  | .symbol .plus => return .other ("+" ++ (← i.operation productStrength).text)
  | .symbol .leftParen => bracketRest i
  | .symbol .leftBracket => arrayRest i ""
  | .symbol .leftBrace => dictionaryRest i
  | t => constantFrom t

def operand : Rule Phrase := do
  match ← attempt (typedString i) with
  | some p => return p
  | none =>
    let p ← bareOperand i
    if ← takeKeyword "COLLATE" then return .other (p.text ++ " COLLATE " ++ (← pathText)) else return p

/-- How deep whole phrases may be nested. -/
def maxNesting : Nat := 50

/-- The rules within `fuel` more steps, where `levels` more phrases may be nested. Each step inwards comes after a
token of its own, so the number of tokens is fuel enough. -/
def inner : Nat → Nat → Inner
  | 0, _ => ⟨refuse, fun _ => refuse, refuse, refuse⟩
  | fuel + 1, levels =>
    { operand := fun ts => operand (inner fuel levels) ts
      operation := fun floor ts => operation (inner fuel levels) (operand (inner fuel levels)) floor ts
      expression := fun ts => match levels with
        | 0 => .error .nesting
        | below + 1 => operation (inner fuel below) (operand (inner fuel below)) 0 ts
      query := fun ts => match levels with
        | 0 => .error .nesting
        | below + 1 => queryText (inner fuel below) ts }

/-- A whole phrase. -/
def phrase : Rule Phrase := fun ts => (inner (ts.length + 2) maxNesting).expression ts

end Rule

end Cohort
