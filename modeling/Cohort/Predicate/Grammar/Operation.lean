import Cohort.Predicate.Grammar.TypeName

/-!
# Operators after an operand

A phrase is an operand and the operators that follow it. Each operator binds with a strength, and an operand takes
the operators after it as long as they are stronger than the operator before it. Tests such as `IS NULL`, `IN` and
`LIKE` are operators too, and bind more loosely than arithmetic.
-/

namespace Cohort

open Sql (Token Symbol)

/-- The rules of the grammar as they hold one step further inside a phrase. -/
structure Inner where
  /-- A whole phrase, of which only so many may be nested. -/
  expression : Rule Phrase
  /-- An operand and the operators after it that are stronger than the given strength. -/
  operation : Nat → Rule Phrase
  operand : Rule Phrase
  /-- A query, by its text. -/
  query : Rule String

namespace Phrase

/-- The texts with commas between them. -/
def commaText (ps : List Phrase) : String := ", ".intercalate (ps.map text)

end Phrase

namespace Rule

/-- How tightly the loosest operator binds; one of greater strength binds more tightly. -/
def orStrength : Nat := 5
def andStrength : Nat := 10
def notStrength : Nat := 15
def isStrength : Nat := 17
def likeStrength : Nat := 19
def comparisonStrength : Nat := 20
def sumStrength : Nat := 30
def productStrength : Nat := 40

def symbolStrength : Symbol → Nat
  | .eq | .doubleEq | .neq | .lt | .ltEq | .gt | .gtEq | .spaceship | .tilde | .tildeStar | .bangTilde
  | .bangTildeStar | .doubleTilde | .doubleTildeStar | .bangDoubleTilde | .bangDoubleTildeStar => comparisonStrength
  | .pipe => 21
  | .caret | .sharp | .shiftLeft | .shiftRight => 22
  | .ampersand => 23
  | .plus | .minus => sumStrength
  | .mul | .div | .intDiv | .mod | .concat => productStrength
  | .doubleColon | .bang | .leftBracket | .overlap | .caretAt => 50
  | .arrow | .longArrow | .hashArrow | .hashLongArrow | .atArrow | .arrowAt | .hashMinus | .atQuestion | .atAt => 16
  | _ => 0

def patternWords : List String := ["LIKE", "ILIKE", "RLIKE", "REGEXP", "SIMILAR"]

/-- The strength of a word, given what follows it. -/
def wordStrength (word : Token) (rest : List Token) : Nat :=
  if word.isKeyword "OR" then orStrength
  else if word.isKeyword "AND" then andStrength
  else if word.isKeyword "XOR" then 24
  else if word.isKeyword "IS" then isStrength
  else if word.isKeyword "IN" ∨ word.isKeyword "BETWEEN" ∨ word.isKeyword "OPERATOR" then comparisonStrength
  else if patternWords.any word.isKeyword then likeStrength
  else if word.isKeyword "DIV" then productStrength
  else if word.isKeyword "AT" then
    match rest with
    | t :: z :: _ => if t.isKeyword "TIME" ∧ z.isKeyword "ZONE" then 41 else 0
    | _ => 0
  else if word.isKeyword "NOT" then
    match rest with
    | t :: _ =>
      if t.isKeyword "IN" ∨ t.isKeyword "BETWEEN" then comparisonStrength
      else if patternWords.any t.isKeyword then likeStrength
      else 0
    | [] => 0
  else 0

/-- How strongly the operator at the front of the tokens binds; 0 if none is there. -/
def strength : List Token → Nat
  | [] => 0
  | .symbol s :: _ => symbolStrength s
  | t :: rest => wordStrength t rest

def symbolConnective? (s : Symbol) : Option Connective :=
  match s with
  | .eq | .doubleEq => some (.known .eq)
  | .neq => some (.known .notEq)
  | .lt => some (.known .lt)
  | .ltEq => some (.known .ltEq)
  | .gt => some (.known .gt)
  | .gtEq => some (.known .gtEq)
  | .plus => some (.known .plus)
  | .minus => some (.known .minus)
  | .mul => some (.known .multiply)
  | .div => some (.known .divide)
  | .mod => some (.known .modulo)
  | .spaceship | .concat | .pipe | .caret | .ampersand | .intDiv | .shiftLeft | .shiftRight | .overlap | .caretAt
  | .tilde | .tildeStar | .bangTilde | .bangTildeStar | .doubleTilde | .doubleTildeStar | .bangDoubleTilde
  | .bangDoubleTildeStar | .arrow | .longArrow | .hashArrow | .hashLongArrow | .atArrow | .arrowAt | .hashMinus
  | .atQuestion | .atAt => some (.foreign s.text)
  | _ => none

/-- The infix operator that a token is by itself. -/
def connective? (t : Token) : Option Connective :=
  match t with
  | .symbol s => symbolConnective? s
  | t =>
    if t.isKeyword "AND" then some (.known .and)
    else if t.isKeyword "OR" then some (.known .or)
    else if t.isKeyword "XOR" then some (.foreign "XOR")
    else none

def isComparison : Connective → Bool
  | .known .eq | .known .notEq | .known .lt | .known .ltEq | .known .gt | .known .gtEq => true
  | _ => false

/-- The parts of the name of an operator; `limit` bounds their number. -/
def operatorParts : Nat → Rule (List String)
  | 0 => refuse
  | limit + 1 => do
    let part := (← next).label
    if ← takeSymbol .period then return part :: (← operatorParts limit) else return [part]

/-- The right side of an infix operator. -/
def infixRest (i : Inner) (left : Phrase) (op : Connective) (s : Nat) : Rule Phrase := do
  match ← takeOneOf ["ANY", "ALL"] with
  | some k =>
    let right ← parenthesized (i.operation s)
    if isComparison op then
      return .other (left.text ++ " " ++ op.text ++ " " ++ k ++ "(" ++ right.text ++ ")")
    else refuse
  | none => return .binary left op (← i.operation s)

/-- What follows `IS`. -/
def isRest (i : Inner) (left : Phrase) : Rule Phrase := do
  if ← takeKeyword "NULL" then return .isNull left
  if ← takeKeywords ["NOT", "NULL"] then return .isNotNull left
  let negated ← takeKeyword "NOT"
  let front := left.text ++ " IS " ++ Phrase.negation negated
  if ← takeKeywords ["DISTINCT", "FROM"] then
    return .other (front ++ "DISTINCT FROM " ++ (← i.expression).text)
  match ← takeOneOf ["TRUE", "FALSE", "UNKNOWN"] with
  | some k => return .other (front ++ k)
  | none => refuse

def inRest (i : Inner) (left : Phrase) (negated : Bool) : Rule Phrase := do
  let front := left.text ++ " " ++ Phrase.negation negated ++ "IN "
  if ← takeKeyword "UNNEST" then
    return .other (front ++ "UNNEST(" ++ (← parenthesized i.expression).text ++ ")")
  parenthesized do
    if (← isNextKeyword "SELECT") || (← isNextKeyword "WITH") then
      return .other (front ++ "(" ++ (← i.query) ++ ")")
    else return .inList left (← commaList i.expression) negated

def betweenRest (i : Inner) (left : Phrase) (negated : Bool) : Rule Phrase := do
  let low ← i.operation comparisonStrength
  expectKeyword "AND"
  return .between left low (← i.operation comparisonStrength) negated

/-- A character that escapes others in a pattern, if one is given. -/
def optionalEscape : Rule (Option String) := do
  if ← takeKeyword "ESCAPE" then return some (← stringContent) else return none

def likeRest (i : Inner) (left : Phrase) (negated : Bool) : Rule Phrase := do
  let pattern ← i.operation likeStrength
  return .like left pattern (← optionalEscape) negated

/-- A test of a pattern other than `LIKE`. -/
def patternRest (i : Inner) (front : String) : Rule Phrase := do
  let pattern ← i.operation likeStrength
  let escape ← optionalEscape
  let escapeText := match escape with
    | none => ""
    | some s => " ESCAPE '" ++ s ++ "'"
  return .other (front ++ " " ++ pattern.text ++ escapeText)

/-- A test that begins with the token, or with the one after it if that is `NOT`. -/
def testRest (i : Inner) (left : Phrase) (t : Token) : Rule Phrase := do
  let negated := t.isKeyword "NOT"
  let word ← if negated then next else pure t
  let front := left.text ++ " " ++ Phrase.negation negated
  if word.isKeyword "IN" then inRest i left negated
  else if word.isKeyword "BETWEEN" then betweenRest i left negated
  else if word.isKeyword "LIKE" then likeRest i left negated
  else if word.isKeyword "ILIKE" then patternRest i (front ++ "ILIKE")
  else if word.isKeyword "SIMILAR" then
    expectKeyword "TO"
    patternRest i (front ++ "SIMILAR TO")
  else if word.isKeyword "REGEXP" then
    let _ ← takeKeyword "RLIKE"
    return .other (front ++ "REGEXP " ++ (← i.operation likeStrength).text)
  else if word.isKeyword "RLIKE" then
    return .other (front ++ "RLIKE " ++ (← i.operation likeStrength).text)
  else refuse

/-- What stands in the brackets after an array: an index, or up to three bounds with colons between them. -/
def subscriptRest (i : Inner) : Rule String := do
  let low ← if ← takeSymbol .colon then pure none else some <$> i.expression
  let front := match low with | none => "" | some p => p.text
  if ← takeSymbol .rightBracket then return if low.isSome then front else ":"
  if low.isSome then expectSymbol .colon
  if ← takeSymbol .rightBracket then return front ++ ":"
  let high ← i.expression
  let front := front ++ ":" ++ high.text
  if ← takeSymbol .rightBracket then return front
  expectSymbol .colon
  if ← takeSymbol .rightBracket then return front
  let stride ← i.expression
  expectSymbol .rightBracket
  return front ++ ":" ++ stride.text

/-- Takes one operator, of the given strength, and what belongs to it. -/
def extend (i : Inner) (left : Phrase) (s : Nat) : Rule Phrase := do
  let t ← next
  match connective? t with
  | some op => infixRest i left op s
  | none =>
    match t with
    | .symbol .doubleColon => return .other (left.text ++ "::" ++ (← typeName).text)
    | .symbol .bang => return .other (left.text ++ "!")
    | .symbol .leftBracket => return .other (left.text ++ "[" ++ (← subscriptRest i) ++ "]")
    | .symbol _ => refuse
    | t =>
      if t.isKeyword "IS" then isRest i left
      else if t.isKeyword "AT" then
        expectKeywords ["TIME", "ZONE"]
        return .other (left.text ++ " AT TIME ZONE " ++ (← i.operation s).text)
      else if t.isKeyword "OPERATOR" then
        let parts ← parenthesized do operatorParts (← get).length
        infixRest i left (.foreign ("OPERATOR(" ++ ".".intercalate parts ++ ")")) s
      else testRest i left t

/-- Takes operators as long as they are stronger than `floor`, by the given measure of strength; `limit` bounds
their number. -/
def climbBy (measure : List Token → Nat) (i : Inner) (floor : Nat) : Nat → Phrase → Rule Phrase
  | 0, left => return left
  | limit + 1, left => do
    let s := measure (← get)
    if floor < s then climbBy measure i floor limit (← extend i left s) else return left

/-- An operand and the operators after it that are stronger than `floor`. -/
def operation (i : Inner) (operand : Rule Phrase) (floor : Nat) : Rule Phrase := do
  let left ← operand
  climbBy strength i floor (← get).length left

/-- Like `strength`, but words that join predicates are no operators. -/
def strengthInSpan (ts : List Token) : Nat :=
  if ts.head?.any fun t => t.isKeyword "AND" || t.isKeyword "OR" || t.isKeyword "XOR" then 0 else strength ts

end Rule

end Cohort
