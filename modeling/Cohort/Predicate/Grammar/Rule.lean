import Cohort.Error
import Cohort.Predicate.Phrase
import Cohort.Sql.Keyword

/-!
# Rules

A rule reads something from the front of a list of tokens and leaves the rest, or finds a fault. The rules here are
the ones that every grammar over tokens needs.
-/

namespace Cohort

open Sql (Token Symbol)

/-- Reads a value from the front of the tokens. -/
abbrev Rule := StateT (List Token) (Except GrammarFault)

namespace Rule

variable {α : Type}

/-- Nothing fits here. -/
def refuse : Rule α := fun _ => .error .phrase

/-- What the rule reads, or nothing and no progress if it finds any fault. -/
def attempt (r : Rule α) : Rule (Option α) := fun ts =>
  match r ts with
  | .ok (a, rest) => .ok (some a, rest)
  | .error _ => .ok (none, ts)

def peek : Rule (Option Token) := fun ts => .ok (ts.head?, ts)

def next : Rule Token
  | [] => .error .phrase
  | t :: ts => .ok (t, ts)

/-- Whether the next token passes the test, which takes the token if so. -/
def takeIf (p : Token → Bool) : Rule Bool
  | [] => .ok (false, [])
  | t :: ts => if p t then .ok (true, ts) else .ok (false, t :: ts)

def expect (p : Token → Bool) : Rule Unit := do
  if ← takeIf p then pure () else refuse

def isSymbol (s : Symbol) (t : Token) : Bool := t == .symbol s

def takeSymbol (s : Symbol) : Rule Bool := takeIf (isSymbol s)

def expectSymbol (s : Symbol) : Rule Unit := expect (isSymbol s)

def takeKeyword (k : String) : Rule Bool := takeIf (Token.isKeyword k)

def expectKeyword (k : String) : Rule Unit := expect (Token.isKeyword k)

def isNextSymbol (s : Symbol) : Rule Bool := return (← peek).any (isSymbol s)

def isNextKeyword (k : String) : Rule Bool := return (← peek).any (Token.isKeyword k)

/-- Whether all of the keywords follow, which takes them if so. -/
def takeKeywords (ks : List String) : Rule Bool := fun ts =>
  if ts.length ≥ ks.length ∧ (ks.zip ts).all fun (k, t) => t.isKeyword k then .ok (true, ts.drop ks.length)
  else .ok (false, ts)

def expectKeywords (ks : List String) : Rule Unit := do
  if ← takeKeywords ks then pure () else refuse

/-- The keyword of the list that follows, if one does. -/
def takeOneOf (ks : List String) : Rule (Option String)
  | [] => .ok (none, [])
  | t :: ts => match ks.find? fun k => t.isKeyword k with
    | some k => .ok (some k, ts)
    | none => .ok (none, t :: ts)

/-- One or more values with commas between them; `limit` bounds their number. -/
def commaListWithin (r : Rule α) : Nat → Rule (List α)
  | 0 => refuse
  | limit + 1 => do
    let a ← r
    if ← takeSymbol .comma then return a :: (← commaListWithin r limit) else return [a]

/-- One or more values with commas between them. -/
def commaList (r : Rule α) : Rule (List α) := fun ts => commaListWithin r (ts.length + 1) ts

/-- What the rule reads between parentheses. -/
def parenthesized (r : Rule α) : Rule α := do
  expectSymbol .leftParen
  let a ← r
  expectSymbol .rightParen
  return a

/-- A word of any kind, or a string in its place. -/
def name : Rule WrittenName := do
  match ← next with
  | .word text quote => return ⟨text, quote⟩
  | .string content => return ⟨content, some '\''⟩
  | _ => refuse

/-- The names that follow a name, each after a period; `limit` bounds their number. -/
def moreNames : Nat → Rule (List WrittenName)
  | 0 => return []
  | limit + 1 => do
    if ← takeSymbol .period then return (← name) :: (← moreNames limit) else return []

/-- Names with periods between them. -/
def path : Rule (List WrittenName) := do
  let n ← name
  return n :: (← moreNames (← get).length)

/-- The text of a path. -/
def pathText : Rule String := return WrittenName.path (← path)

/-- A number without sign, point and exponent that fits into 64 bits. -/
def size : Rule Nat := do
  match ← next with
  | .number digits _ =>
    if digits.all Char.isDigit ∧ digits.length ≠ 0 then
      let n := digitsValue digits.toList
      if n < word64 then return n else refuse
    else refuse
  | _ => refuse

/-- The content of a string, or a word that is no keyword. -/
def stringContent : Rule String := do
  match ← next with
  | .string content => return content
  | .special .escaped content => return content
  | .special .unicode content => return content
  | .word text quote => if (Token.word text quote).isFreeWord then return text else refuse
  | _ => refuse

end Rule

end Cohort
