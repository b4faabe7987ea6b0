import Cohort.Predicate.Basic

/-!
# Phrases

What the grammar of predicates reads, before it is known whether it is a predicate: the same shapes with brackets,
quotes, numerals and signs as they were written, and everything else that SQL expressions may contain as its text.
`Phrase.text` is the normal text of a phrase, by which messages quote it.
-/

namespace Cohort

/-- A name as it was written. -/
structure WrittenName where
  text : String
  quote : Option Char
  deriving DecidableEq, Inhabited, Repr

/-- Doubles the quotes in quoted text. A quote after a backslash is taken for an escaped one, and a pair of quotes
for a doubled one; both stay as they are. -/
def doubledQuotes (q : Char) (afterBackslash : Bool) : List Char → List Char
  | [] => []
  | [c] => if c = q then (if afterBackslash then [q] else [q, q]) else [c]
  | c :: d :: cs =>
    if c = q then
      if afterBackslash then q :: doubledQuotes q true (d :: cs)
      else if d = q then q :: q :: doubledQuotes q false cs
      else q :: q :: doubledQuotes q false (d :: cs)
    else c :: doubledQuotes q (c = '\\') (d :: cs)

def inQuotes (q : Char) (s : String) : String :=
  String.ofList (q :: doubledQuotes q false s.toList ++ [q])

namespace WrittenName

def written (n : WrittenName) : String :=
  match n.quote with
  | none => n.text
  | some q => inQuotes q n.text

def path (names : List WrittenName) : String := ".".intercalate (names.map written)

end WrittenName

/-- An infix operator, of predicates or of some other use. -/
inductive Connective
  | known (op : Operator)
  | foreign (text : String)
  deriving DecidableEq, Inhabited, Repr

namespace Connective

def text : Connective → String
  | .known op => op.symbol
  | .foreign text => text

end Connective

inductive Phrase
  | name (n : WrittenName)
  | path (names : List WrittenName)
  | null
  | boolean (b : Bool)
  | string (s : String)
  | number (digits : String) (long : Bool)
  | nested (p : Phrase)
  | binary (left : Phrase) (op : Connective) (right : Phrase)
  | not (p : Phrase)
  | minus (p : Phrase)
  | isNull (p : Phrase)
  | isNotNull (p : Phrase)
  | inList (p : Phrase) (items : List Phrase) (negated : Bool)
  | like (p pattern : Phrase) (escape : Option String) (negated : Bool)
  | between (p low high : Phrase) (negated : Bool)
  /-- Anything else, by its text. -/
  | other (text : String)
  deriving Inhabited, Repr, BEq

namespace Phrase

def negation (negated : Bool) : String := if negated then "NOT " else ""

def text : Phrase → String
  | .name n => n.written
  | .path names => WrittenName.path names
  | .null => "NULL"
  | .boolean b => if b then "true" else "false"
  | .string s => inQuotes '\'' s
  | .number digits long => digits ++ if long then "L" else ""
  | .nested p => "(" ++ p.text ++ ")"
  | .binary l op r => l.text ++ " " ++ op.text ++ " " ++ r.text
  | .not p => "NOT " ++ p.text
  | .minus p => "-" ++ p.text
  | .isNull p => p.text ++ " IS NULL"
  | .isNotNull p => p.text ++ " IS NOT NULL"
  | .inList p items negated => p.text ++ " " ++ negation negated ++ "IN (" ++ listText items ++ ")"
  | .like p pattern escape negated =>
    p.text ++ " " ++ negation negated ++ "LIKE " ++ pattern.text ++
      match escape with
      | none => ""
      | some s => " ESCAPE '" ++ s ++ "'"
  | .between p low high negated =>
    p.text ++ " " ++ negation negated ++ "BETWEEN " ++ low.text ++ " AND " ++ high.text
  | .other text => text
where
  listText : List Phrase → String
    | [] => ""
    | [p] => p.text
    | p :: rest => p.text ++ ", " ++ listText rest

end Phrase

end Cohort
