import Cohort.Number.Decimal
import Cohort.Predicate.Grammar.Expression
import Cohort.Sql.Lexer

/-!
# Reading predicates

The text of a predicate is split into tokens and read as a phrase, of which nothing may be left over; the phrase is
then taken for a predicate if it is one. Whole numbers are kept exactly if they fit into 64 bits with a sign, and
read as decimals otherwise. A minus sign before a number is part of it.
-/

namespace Cohort

/-- The whole number that digits stand for, if it fits into 64 bits with a sign. -/
def wholeNumber? (digits : String) : Option Int :=
  let cs := digits.toList
  if cs ≠ [] ∧ cs.all Char.isDigit ∧ digitsValue cs < twoPow 63 then some (digitsValue cs : Int) else none

namespace Literal

/-- The number that a numeral stands for, which has to be finite. -/
def ofNumeral (digits : String) : Except RequestError Literal :=
  match wholeNumber? digits with
  | some n => .ok (.integer n)
  | none =>
    match Double.ofText? digits with
    | some x => if x.isFinite then .ok (.decimal x) else .error (.badRequest ("invalid number " ++ digits))
    | none => .error (.badRequest ("invalid number " ++ digits))

end Literal

namespace Predicate

/-- The predicate times minus one: a number with the other sign, or a difference from zero. -/
def negated : Predicate → Predicate
  | .literal (.integer n) => .literal (.integer (-n))
  | .literal (.decimal x) => .literal (.decimal (-x))
  | p => .binary (.literal (.integer 0)) .minus p

def unsupported (what : String) : RequestError := .badRequest ("unsupported filter expression: " ++ what)

def ofConnective : Connective → Except RequestError Operator
  | .known op => .ok op
  | .foreign text => .error (unsupported text)

mutual

/-- The predicate that a phrase stands for, if it is one. -/
def ofPhrase : Phrase → Except RequestError Predicate
  | .name n => .ok (.column [n.text])
  | .path names => .ok (.column (names.map WrittenName.text))
  | .null => .ok (.literal .null)
  | .boolean b => .ok (.literal (.boolean b))
  | .string s => .ok (.literal (.string s))
  | .number digits _ => (Literal.ofNumeral digits).map .literal
  | .nested p => ofPhrase p
  | .binary l op r => do
    let l ← ofPhrase l
    let op ← ofConnective op
    let r ← ofPhrase r
    return .binary l op r
  | .not p => return .not (← ofPhrase p)
  | .minus p => return negated (← ofPhrase p)
  | .isNull p => return .isNull (← ofPhrase p)
  | .isNotNull p => return .isNotNull (← ofPhrase p)
  | .inList p items negated => do
    let p ← ofPhrase p
    let items ← ofPhrases items
    return .inList p items negated
  | .like p pattern _ negated => do
    let p ← ofPhrase p
    let pattern ← ofPhrase pattern
    return .like p pattern negated
  | .between p low high negated => do
    let p ← ofPhrase p
    let low ← ofPhrase low
    let high ← ofPhrase high
    return .between p low high negated
  | .other text => .error (unsupported text)

/-- The predicates that phrases stand for, in order. -/
def ofPhrases : List Phrase → Except RequestError (List Predicate)
  | [] => .ok []
  | p :: ps => do
    let p ← ofPhrase p
    let ps ← ofPhrases ps
    return p :: ps

end

/-- The phrase that a whole text stands for. -/
def readPhrase (text : String) : Except RequestError Phrase := do
  let tokens ← (Sql.tokenize text.toList).mapError .grammar
  match Rule.phrase tokens with
  | .error fault => .error (.grammar fault)
  | .ok (p, []) => .ok p
  | .ok (_, t :: _) => .error (.badRequest ("unexpected " ++ t.label ++ " after filter expression"))

/-- The predicate that a text stands for. -/
def read (text : String) : Except RequestError Predicate := do ofPhrase (← readPhrase text)

end Predicate

end Cohort
