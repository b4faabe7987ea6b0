import Cohort.Pattern.Escape

/-!
# Sets in brackets

A bracket holds characters, ranges, classes and further brackets, all of which it joins. Sets are also combined by
operators, from left to right: `&&` for what is in both, `--` for the difference, `~~` for what is in one only.
-/

namespace Cohort.Pattern

/-- How a pattern is read and what its parts mean. -/
structure Flags where
  caseless : Bool
  /-- The conditions for a start and an end hold at every line. -/
  lines : Bool
  /-- A dot matches line breaks too. -/
  dotAll : Bool
  /-- Repetitions are greedy only if they say that they are not. -/
  swapped : Bool
  /-- Blanks and comments have no meaning. -/
  spaced : Bool
  deriving DecidableEq, Inhabited, Repr

/-- Skips blanks and comments. -/
def skipSpaced : List Char → List Char
  | [] => []
  | c :: cs =>
    if Text.isBlank c then skipSpaced cs
    else if c == '#' then inComment cs
    else c :: cs
where
  inComment : List Char → List Char
    | [] => []
    | c :: cs => if c == '\n' then skipSpaced cs else inComment cs

def Flags.skip (f : Flags) (cs : List Char) : List Char := if f.spaced then skipSpaced cs else cs

/-- Characters and all that differ from them in case only, if case has no meaning. -/
def Flags.adapt (f : Flags) (s : CharSet) : CharSet := if f.caseless then .caseless s else s

/-- A class of ASCII by name, such as `:alpha:]` or `:^alpha:]`. -/
def readNamed? : List Char → Option (CharSet × List Char)
  | ':' :: cs =>
    let (negated, cs) := match cs with
      | '^' :: cs => (true, cs)
      | cs => (false, cs)
    match cs.dropWhile (· != ':') with
    | ':' :: ']' :: rest => do
      let s ← CharSet.named? (String.ofList (cs.takeWhile (· != ':')))
      some (if negated then .complement s else s, rest)
    | _ => none
  | _ => none

/-- One character or class in a bracket. -/
def readMember : List Char → Option ((Char ⊕ CharSet) × List Char)
  | [] => none
  | '\\' :: cs => do
    match ← readEscape cs with
    | (.char c, rest) => some (.inl c, rest)
    | (.set s, rest) => some (.inr s, rest)
    | (.condition _, _) => none
  | c :: cs => some (.inl c, cs)

/-- One member or a range. A hyphen before the end of the bracket or another hyphen makes no range. -/
def readRange (f : Flags) (cs : List Char) : Option (CharSet × List Char) := do
  let (first, rest) ← readMember cs
  let alone := match first with
    | .inl c => CharSet.single c
    | .inr s => s
  let rest := f.skip rest
  match rest with
  | '-' :: more =>
    match f.skip more with
    | ']' :: _ => some (alone, rest)
    | '-' :: _ => some (alone, rest)
    | more =>
      match first, ← readMember more with
      | .inl low, (.inl high, rest) => if low ≤ high then some (.range low high, rest) else none
      | _, _ => none
  | _ => some (alone, rest)

/-- An operator between sets. -/
def readOperator? : List Char → Option ((CharSet → CharSet → CharSet) × List Char)
  | '&' :: '&' :: cs => some (.both, cs)
  | '-' :: '-' :: cs => some (.difference, cs)
  | '~' :: '~' :: cs => some (.exclusive, cs)
  | _ => none

/-- The start of a bracket: whether it is negated, and the characters that stand for themselves only there. -/
def readOpening (f : Flags) (cs : List Char) : Bool × List CharSet × List Char :=
  let (negated, cs) := match cs with
    | '^' :: cs => (true, f.skip cs)
    | cs => (false, cs)
  let hyphens := cs.takeWhile (· == '-')
  match hyphens, cs.dropWhile (· == '-') with
  | [], ']' :: rest => (negated, [.single ']'], rest)
  | [], rest => (negated, [], rest)
  | _, rest => (negated, [.single '-'], rest)

/-- The rest of a bracket after the members `items`; `combine` holds what is to the left of the last operator. -/
def readBracketFrom (f : Flags) : Nat → (CharSet → CharSet) → List CharSet → List Char → Option (CharSet × List Char)
  | 0, _, _, _ => none
  | fuel + 1, combine, items, cs =>
    let total := combine (f.adapt (.unions items))
    match f.skip cs with
    | [] => none
    | ']' :: rest => some (total, rest)
    | '[' :: rest =>
      match readNamed? rest with
      | some (s, rest) => readBracketFrom f fuel combine (items ++ [s]) rest
      | none => do
        let (negated, first, rest) := readOpening f (f.skip rest)
        let (s, rest) ← readBracketFrom f fuel id first rest
        readBracketFrom f fuel combine (items ++ [if negated then .complement s else s]) rest
    | cs =>
      match readOperator? cs with
      | some (op, rest) => readBracketFrom f fuel (op total) [] rest
      | none => do
        let (s, rest) ← readRange f cs
        readBracketFrom f fuel combine (items ++ [s]) rest

/-- The set after an opening bracket. -/
def readBracket (f : Flags) (cs : List Char) : Option (CharSet × List Char) := do
  let (negated, first, rest) := readOpening f (f.skip cs)
  let (s, rest) ← readBracketFrom f cs.length id first rest
  some (if negated then .complement s else s, rest)

end Cohort.Pattern
