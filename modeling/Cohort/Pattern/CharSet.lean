import Cohort.Text.Case

/-!
# Sets of characters

The sets that a pattern can ask a character to be in, built from ranges and the usual classes.
-/

namespace Cohort.Pattern

inductive CharSet
  | nothing
  | range (low high : Char)
  | digit
  | blank
  | word
  | union (s t : CharSet)
  | both (s t : CharSet)
  | complement (s : CharSet)
  /-- Characters that differ from a member in case only. -/
  | caseless (s : CharSet)
  deriving DecidableEq, Inhabited, Repr

namespace CharSet

def contains : CharSet → Char → Bool
  | .nothing, _ => false
  | .range low high, c => low ≤ c && c ≤ high
  | .digit, c => Text.isDecimalDigit c
  | .blank, c => Text.isBlank c
  | .word, c => Text.isWordPart c
  | .union s t, c => s.contains c || t.contains c
  | .both s t, c => s.contains c && t.contains c
  | .complement s, c => !s.contains c
  | .caseless s, c => (Text.caseVariants c).any s.contains

def single (c : Char) : CharSet := .range c c

def all : CharSet := .complement .nothing

/-- All characters but the line break. -/
def allButLineBreak : CharSet := .complement (single '\n')

def unions (ss : List CharSet) : CharSet := ss.foldl .union .nothing

/-- The characters of the first set that are not in the second. -/
def difference (s t : CharSet) : CharSet := .both s (.complement t)

/-- The characters that are in one of the sets only. -/
def exclusive (s t : CharSet) : CharSet := .union (difference s t) (difference t s)

/-- The ASCII classes by their names. -/
def named? : String → Option CharSet
  | "alnum" => some (unions [.range '0' '9', .range 'A' 'Z', .range 'a' 'z'])
  | "alpha" => some (.union (.range 'A' 'Z') (.range 'a' 'z'))
  | "ascii" => some (.range '\x00' '\x7f')
  | "blank" => some (.union (single ' ') (single '\t'))
  | "cntrl" => some (.union (.range '\x00' '\x1f') (single '\x7f'))
  | "digit" => some (.range '0' '9')
  | "graph" => some (.range '!' '~')
  | "lower" => some (.range 'a' 'z')
  | "print" => some (.range ' ' '~')
  | "punct" => some (unions [.range '!' '/', .range ':' '@', .range '[' '\x60', .range '\x7b' '~'])
  | "space" => some (.union (.range '\t' '\r') (single ' '))
  | "upper" => some (.range 'A' 'Z')
  | "word" => some (unions [.range '0' '9', .range 'A' 'Z', .range 'a' 'z', single '_'])
  | "xdigit" => some (unions [.range '0' '9', .range 'A' 'F', .range 'a' 'f'])
  | _ => none

end CharSet

end Cohort.Pattern
