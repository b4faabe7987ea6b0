import Cohort.Pattern.CharSet

/-!
# Patterns

A pattern matches a piece of text from a place on, and may match several: `ends` lists where they end, the preferred
one first. Which piece a group last matched is kept with the end. Of two ways to the same end the preferred one is
kept, because what follows a place does not depend on the way to it.
-/

namespace Cohort

namespace Pattern

/-- A condition on a place in a text. -/
inductive Condition
  | textStart | textEnd | lineStart | lineEnd | wordEdge | noWordEdge | wordStart | wordEnd
  | halfWordStart | halfWordEnd
  deriving DecidableEq, Repr

end Pattern

inductive Pattern
  | empty
  | one (s : Pattern.CharSet)
  | when (c : Pattern.Condition)
  | group (index : Nat) (p : Pattern)
  | seq (p q : Pattern)
  | alt (p q : Pattern)
  /-- As many rounds as the bounds allow, or as few if it is not greedy. -/
  | many (p : Pattern) (least : Nat) (most : Option Nat) (greedy : Bool)
  deriving DecidableEq, Inhabited, Repr

namespace Pattern

/-- A place in a text: the character before it, the text from it on, and what the groups hold. -/
structure Place where
  before : Option Char
  rest : List Char
  groups : List (Nat × List Char)
  deriving DecidableEq, Repr

namespace Place

/-- The place after the next character, if that is in the set. -/
def step? (p : Place) (s : CharSet) : Option Place :=
  match p.rest with
  | [] => none
  | c :: cs => if s.contains c then some { p with before := some c, rest := cs } else none

/-- The text from one place to a later one. -/
def upTo (p q : Place) : List Char := p.rest.take (p.rest.length - q.rest.length)

/-- Whether a condition holds at the place. -/
def holds (p : Place) (c : Condition) : Bool :=
  let left := p.before.any Text.isWordPart
  let right := p.rest.head?.any Text.isWordPart
  match c with
  | .textStart => p.before.isNone
  | .textEnd => p.rest.isEmpty
  | .lineStart => p.before.isNone || p.before == some '\n'
  | .lineEnd => p.rest.isEmpty || p.rest.head? == some '\n'
  | .wordEdge => left != right
  | .noWordEdge => left == right
  | .wordStart => !left && right
  | .wordEnd => left && !right
  | .halfWordStart => !left
  | .halfWordEnd => !right

/-- The place with the text from a start in a group. -/
def withGroup (p : Place) (index : Nat) (start : Place) : Place :=
  { p with groups := (index, start.upTo p) :: p.groups.filter (·.1 != index) }

end Place

/-- Whether some place of the list is at the same point of the text. -/
def reached (ps : List Place) (p : Place) : Bool := ps.any (·.rest.length == p.rest.length)

/-- The first of the places at each point of the text. -/
def distinct (ps : List Place) : List Place :=
  (ps.foldl (fun found p => if reached found p then found else p :: found) []).reverse

/-- The ends that a search for further rounds has found, the last one first, and where it has tried one: how many
rounds it had left, and how much text. -/
structure Trail where
  found : List Place
  tried : List (Option Nat × Nat)
  deriving Inhabited

def Trail.add (t : Trail) (p : Place) : Trail := if reached t.found p then t else { t with found := p :: t.found }

/-- The ends after any number of rounds up to a limit. A round that is tried for the second time at the same point
adds nothing, so empty rounds come to an end. -/
def furtherRounds (round : Place → List Place) (greedy : Bool) : Nat → Option Nat → Place → Trail → Trail
  | 0, _, p, t => t.add p
  | fuel + 1, limit, p, t =>
    if limit == some 0 || t.tried.contains (limit, p.rest.length) then t.add p
    else
      let t := if greedy then t else t.add p
      let t := { t with tried := (limit, p.rest.length) :: t.tried }
      let t := (round p).foldl (fun t q => furtherRounds round greedy fuel (limit.map (· - 1)) q t) t
      if greedy then t.add p else t

/-- The ends after a number of rounds. -/
def exactRounds (round : Place → List Place) : Nat → List Place → List Place
  | 0, ps => ps
  | n + 1, ps => exactRounds round n (distinct (ps.flatMap round))

/-- The ends after a number of rounds between two bounds. -/
def rounds (round : Place → List Place) (least : Nat) (most : Option Nat) (greedy : Bool) (p : Place) : List Place :=
  let limit := most.map (· - least)
  let fuel := limit.getD p.rest.length + 1
  let trail := (exactRounds round least [p]).foldl (fun t q => furtherRounds round greedy fuel limit q t) default
  trail.found.reverse

/-- Where a match that begins at a place may end, the preferred end first. -/
def ends : Pattern → Place → List Place
  | .empty, p => [p]
  | .one s, p => (p.step? s).toList
  | .when c, p => if p.holds c then [p] else []
  | .group i q, p => (ends q p).map (·.withGroup i p)
  | .seq q r, p => distinct ((ends q p).flatMap (ends r))
  | .alt q r, p => distinct (ends q p ++ ends r p)
  | .many q least most greedy, p => rounds (ends q) least most greedy p

/-- What the groups of a match hold; the text of some groups may not be part of it. -/
abbrev Match := List (Nat × List Char)

def Match.group? (m : Match) (index : Nat) : Option String := (m.lookup index).map String.ofList

/-- The first match in a text after the given character. -/
def findAfter (p : Pattern) (before : Option Char) (cs : List Char) : Option Match :=
  match ends p ⟨before, cs, []⟩, cs with
  | q :: _, _ => some q.groups
  | [], [] => none
  | [], c :: cs => findAfter p (some c) cs

/-- The first match in a text: the one that begins first and, of those, the preferred one. -/
def find? (p : Pattern) (text : String) : Option Match := findAfter p none text.toList

/-- How many groups the pattern has. -/
def groupCount : Pattern → Nat
  | .group _ p => groupCount p + 1
  | .seq p q => groupCount p + groupCount q
  | .alt p q => groupCount p + groupCount q
  | .many p _ _ _ => groupCount p
  | _ => 0

end Pattern

end Cohort
