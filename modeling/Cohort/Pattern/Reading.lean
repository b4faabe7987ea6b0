import Cohort.Number.Decimal
import Cohort.Pattern.Bracket

/-!
# Reading patterns

Alternatives are separated by bars and consist of pieces, each with its repetitions. Groups are numbered from one in
the order in which they open. Flags hold from where they stand to the end of their group.
-/

namespace Cohort.Pattern

/-- Sets or clears the flag with a letter. -/
def Flags.change? (f : Flags) (value : Bool) : Char → Option Flags
  | 'i' => some { f with caseless := value }
  | 'm' => some { f with lines := value }
  | 's' => some { f with dotAll := value }
  | 'U' => some { f with swapped := value }
  | 'x' => some { f with spaced := value }
  | 'u' => if value then some f else none
  | _ => none

/-- Flags, which are set before a minus and cleared after it, up to a colon or a closing bracket. No letter comes
twice, and one follows the minus. -/
def readFlags (value : Bool) (seen : List Char) (f : Flags) : List Char → Option (Flags × List Char)
  | [] => none
  | c :: cs =>
    if c == ':' || c == ')' then
      if seen.head? == some '-' || (seen.isEmpty && c == ')') then none else some (f, c :: cs)
    else if seen.contains c then none
    else if c == '-' then readFlags false (c :: seen) f cs
    else do readFlags value (c :: seen) (← f.change? value c) cs

/-- What has been read of a group: the alternatives before the last bar, and the last one without its last piece. -/
structure Branches where
  alternatives : Option Pattern
  before : Option Pattern
  last : Option Pattern
  deriving Inhabited

namespace Branches

/-- The alternative after the last bar. -/
def current (b : Branches) : Pattern :=
  match b.before, b.last with
  | none, none => .empty
  | none, some p => p
  | some p, none => p
  | some p, some q => .seq p q

/-- Adds a piece, which can then be repeated. -/
def push (b : Branches) (p : Pattern) : Branches :=
  { b with before := if b.before.isNone && b.last.isNone then none else some b.current, last := some p }

/-- Makes the last piece part of what cannot be repeated any more. -/
def close (b : Branches) : Branches :=
  { b with before := if b.before.isNone && b.last.isNone then none else some b.current, last := none }

def whole (b : Branches) : Pattern :=
  match b.alternatives with
  | none => b.current
  | some p => .alt p b.current

/-- Begins the next alternative. -/
def bar (b : Branches) : Branches := { alternatives := some b.whole, before := none, last := none }

end Branches

/-- A decimal number, with blanks around it. -/
def readCount (cs : List Char) : Option (Nat × List Char) :=
  let cs := Text.trimLeft cs
  let ds := cs.takeWhile Char.isDigit
  if ds.isEmpty then none
  else
    let n := digitsValue ds
    if n < word32 then some (n, Text.trimLeft (cs.dropWhile Char.isDigit)) else none

/-- The bounds after an opening brace. -/
def readBounds (cs : List Char) : Option (Nat × Option Nat × List Char) := do
  match ← readCount cs with
  | (n, '\x7d' :: rest) => some (n, some n, rest)
  | (n, ',' :: rest) =>
    match Text.trimLeft rest with
    | '\x7d' :: rest => some (n, none, rest)
    | rest =>
      match ← readCount rest with
      | (m, '\x7d' :: rest) => if n ≤ m then some (n, some m, rest) else none
      | _ => none
  | _ => none

/-- The bounds that a repetition at the start asks for: nothing if there is none. -/
def readRepetition : List Char → Option (Option (Nat × Option Nat × List Char))
  | '*' :: cs => some (some (0, none, cs))
  | '+' :: cs => some (some (1, none, cs))
  | '?' :: cs => some (some (0, some 1, cs))
  | '\x7b' :: cs => (readBounds cs).map some
  | _ => some none

/-- The flags, the groups that have been opened, the names that they have, and the text to read. -/
structure Source where
  flags : Flags
  opened : Nat
  names : List (List Char)
  rest : List Char

def Source.goOn (s : Source) (rest : List Char) : Source := { s with rest }

/-- The name of a group, up to its closing bracket. -/
def readGroupName (cs : List Char) : Option (List Char × List Char) :=
  let isPart (c : Char) : Bool := c == '_' || c == '.' || c == '[' || c == ']' || Text.isLetter c || Text.isNumeral c
  let name := cs.takeWhile isPart
  match name.head?, cs.dropWhile isPart with
  | some c, '>' :: rest => if c == '_' || Text.isLetter c then some (name, rest) else none
  | _, _ => none

/-- What stands after an opening bracket. -/
inductive Opening
  /-- A group, with its number if it has one; the flags hold inside it. -/
  | inside (index : Option Nat) (s : Source)
  /-- Flags for what follows. -/
  | flags (s : Source)

def readNamedGroup (s : Source) (cs : List Char) : Option Opening := do
  let (name, rest) ← readGroupName cs
  if s.names.contains name then none
  some (.inside (some (s.opened + 1)) { s with opened := s.opened + 1, names := name :: s.names, rest })

/-- The kind of the group after an opening bracket. A look at what is around has no kind. -/
def readGroupStart (s : Source) (cs : List Char) : Option Opening :=
  match cs with
  | '?' :: 'P' :: '<' :: cs => readNamedGroup s cs
  | '?' :: '<' :: cs => readNamedGroup s cs
  | '?' :: cs => do
    match ← readFlags true [] s.flags cs with
    | (flags, ':' :: rest) => some (.inside none { s with flags, rest })
    | (flags, _ :: rest) => some (.flags { s with flags, rest })
    | _ => none
  | cs => some (.inside (some (s.opened + 1)) { s with opened := s.opened + 1, rest := cs })

/-- The piece that a single sign or an escape stands for. -/
def readPiece (f : Flags) : List Char → Option (Pattern × List Char)
  | [] => none
  | '\\' :: cs => do
    match ← readEscape cs with
    | (.char c, rest) => some (.one (f.adapt (.single c)), rest)
    | (.set s, rest) => some (.one s, rest)
    | (.condition c, rest) => some (.when c, rest)
  | '[' :: cs => do
    let (s, rest) ← readBracket f cs
    some (.one s, rest)
  | '.' :: cs => some (.one (if f.dotAll then .all else .allButLineBreak), cs)
  | '^' :: cs => some (.when (if f.lines then .lineStart else .textStart), cs)
  | '$' :: cs => some (.when (if f.lines then .lineEnd else .textEnd), cs)
  | c :: cs => some (.one (f.adapt (.single c)), cs)

/-- Repeats the last piece; a question mark after the repetition makes it lazy. -/
def repeatLast (b : Branches) (f : Flags) (least : Nat) (most : Option Nat) (rest : List Char) :
    Option (Branches × List Char) := do
  let p ← b.last
  let (lazy, rest) := match rest with
    | '?' :: rest => (true, rest)
    | rest => (false, rest)
  some ({ b with last := some (.many p least most (lazy == f.swapped)) }, rest)

/-- Reads to the end of a group or of the text. -/
def readBranches : Nat → Branches → Source → Option (Pattern × Source)
  | 0, _, _ => none
  | fuel + 1, b, s =>
    let cs := s.flags.skip s.rest
    match cs with
    | [] => some (b.whole, s.goOn [])
    | ')' :: _ => some (b.whole, s.goOn cs)
    | '|' :: rest => readBranches fuel b.bar (s.goOn rest)
    | '(' :: rest => do
      match ← readGroupStart s (s.flags.skip rest) with
      | .flags inner => readBranches fuel b.close inner
      | .inside index inner =>
        let (p, after) ← readBranches fuel default inner
        match after.rest with
        | ')' :: rest =>
          let piece := match index with
            | some i => Pattern.group i p
            | none => p
          readBranches fuel (b.push piece) { after with flags := s.flags, rest }
        | _ => none
    | cs => do
      match ← readRepetition cs with
      | some (least, most, rest) =>
        let (b, rest) ← repeatLast b s.flags least most rest
        readBranches fuel b (s.goOn rest)
      | none =>
        let (p, rest) ← readPiece s.flags cs
        readBranches fuel (b.push p) (s.goOn rest)

/-- The pattern that a text stands for. -/
def ofText? (text : String) : Option Pattern := do
  let cs := text.toList
  let (p, s) ← readBranches (cs.length + 1) default { flags := default, opened := 0, names := [], rest := cs }
  if s.rest.isEmpty then some p else none

end Cohort.Pattern
