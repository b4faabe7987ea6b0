import Cohort.Yaml.Basic

/-!
# YAML scalars

Text in single quotes, in double quotes with escapes, plain, or as a block of indented lines. A line break inside
the first three is folded into a space, with the blanks around it.
-/

namespace Cohort.Yaml

/-- Skips the blanks and line breaks of a fold, and counts the breaks. -/
def skipFold (breaks : Nat) : List Char → Nat × List Char
  | [] => (breaks, [])
  | c :: cs =>
    if c == '\n' then skipFold (breaks + 1) cs
    else if isSpace c then skipFold breaks cs
    else (breaks, c :: cs)

/-- The text without the blanks at its end. -/
def trimEnd (cs : List Char) : List Char := (cs.reverse.dropWhile isSpace).reverse

/-- What follows an opening single quote; `text` is reversed. A quote inside is written twice. -/
def readSingle : Nat → List Char → List Char → Option (List Char × List Char)
  | 0, _, _ => none
  | _ + 1, _, [] => none
  | fuel + 1, text, c :: cs =>
    if c == '\'' then
      match cs with
      | '\'' :: cs => readSingle fuel ('\'' :: text) cs
      | cs => some (text.reverse, cs)
    else if c == '\n' then
      let (breaks, rest) := skipFold 1 cs
      readSingle fuel ((foldedBreaks breaks).reverse ++ text.dropWhile isSpace) rest
    else readSingle fuel (c :: text) cs

/-- The character of an escape of one letter. -/
def simpleEscape? : Char → Option Char
  | '0' => some '\x00'
  | 'a' => some '\x07'
  | 'b' => some '\x08'
  | 't' => some '\t'
  | '\t' => some '\t'
  | 'n' => some '\n'
  | 'v' => some '\x0b'
  | 'f' => some '\x0c'
  | 'r' => some '\r'
  | 'e' => some '\x1b'
  | ' ' => some ' '
  | '"' => some '"'
  | '/' => some '/'
  | '\\' => some '\\'
  | 'N' => some '\u0085'
  | '_' => some '\u00a0'
  | 'L' => some '\u2028'
  | 'P' => some '\u2029'
  | _ => none

/-- How many digits the code of an escape has. -/
def codeLength? : Char → Option Nat
  | 'x' => some 2
  | 'u' => some 4
  | 'U' => some 8
  | _ => none

/-- What follows an opening double quote. The text so far and the blanks after it are reversed; a fold takes the
blanks away, but not escaped ones. -/
def readDouble : Nat → List Char → List Char → List Char → Option (List Char × List Char)
  | 0, _, _, _ => none
  | _ + 1, _, _, [] => none
  | fuel + 1, text, blanks, c :: cs =>
    if c == '"' then some ((blanks ++ text).reverse, cs)
    else if c == '\n' then
      let (breaks, rest) := skipFold 1 cs
      readDouble fuel ((foldedBreaks breaks).reverse ++ text) [] rest
    else if isSpace c then readDouble fuel text (c :: blanks) cs
    else if c == '\\' then
      match cs with
      | [] => none
      | '\n' :: cs =>
        let (breaks, rest) := skipFold 0 cs
        readDouble fuel (List.replicate breaks '\n' ++ blanks ++ text) [] rest
      | d :: cs =>
        match simpleEscape? d, codeLength? d with
        | some e, _ => readDouble fuel (e :: blanks ++ text) [] cs
        | none, some n => do
          let e ← if cs.length < n then none else Text.charOfHex? (cs.take n)
          readDouble fuel (e :: blanks ++ text) [] (cs.drop n)
        | none, none => none
    else readDouble fuel (c :: blanks ++ text) [] cs

/-- A scalar in quotes at the cursor, and the place after it. -/
def readQuoted (c : Cursor) : Option (Yaml × Cursor) := do
  let (text, rest) ← match c.rest with
    | '\'' :: cs => readSingle (cs.length + 1) [] cs
    | '"' :: cs => readDouble (cs.length + 1) [] [] cs
    | _ => none
  some (.scalar false (String.ofList text), c.skip (c.rest.length - rest.length))

/-- Signs with a meaning of their own in brackets. -/
def isBracketSign (c : Char) : Bool := c == ',' || c == '[' || c == ']' || c == '\x7b' || c == '\x7d'

/-- Whether a colon ends a plain scalar, by what follows it. -/
def colonEnds (flow : Bool) (cs : List Char) : Bool := endsToken cs || flow && cs.head?.any isBracketSign

/-- The part of a plain scalar on one line. -/
def plainLine (flow : Bool) (before : Char) : List Char → List Char
  | [] => []
  | c :: cs =>
    if c == '\n' then []
    else if c == ':' && colonEnds flow cs then []
    else if c == '#' && isSpace before then []
    else if flow && isBracketSign c then []
    else c :: plainLine flow c cs

/-- Whether a plain scalar can begin here. -/
def beginsPlain (flow : Bool) : List Char → Bool
  | [] => false
  | c :: cs =>
    if c == '-' || c == '?' || c == ':' then !endsToken cs && !(flow && cs.head?.any isBracketSign)
    else !(isSpace c || c == '\n' || isBracketSign c || "#&*!|>\'\"%@\x60".toList.contains c)

/-- The further lines of a plain scalar, which are indented more than `parent` outside brackets. -/
def plainLines (flow : Bool) (parent : Int) : Nat → List Char → Cursor → List Char × Cursor
  | 0, text, c => (text, c)
  | fuel + 1, text, c =>
    match c.rest.dropWhile isSpace with
    | '\n' :: _ =>
      let (breaks, rest) := skipFold 0 c.rest
      let next := c.skip (c.rest.length - rest.length)
      let line := trimEnd (plainLine flow ' ' rest)
      if line.isEmpty || !(flow || parent < next.column) then (text, c)
      else plainLines flow parent fuel (text ++ foldedBreaks breaks ++ line) (next.skip line.length)
    | _ => (text, c)

/-- The first line of a plain scalar at the cursor, and the place after it. -/
def readPlainLine (flow : Bool) (c : Cursor) : Option (List Char × Cursor) :=
  if beginsPlain flow c.rest then
    let line := trimEnd (plainLine flow 'x' c.rest)
    some (line, c.skip line.length)
  else none

/-- All lines of a plain scalar, from its first line on. -/
def continuePlain (flow : Bool) (parent : Int) (line : List Char) (c : Cursor) : Yaml × Cursor :=
  let (text, after) := plainLines flow parent c.rest.length line c
  (.scalar true (String.ofList text), after)

/-- What is done with the line breaks at the end of a block. -/
inductive Chomping
  | strip | clip | keep
  deriving DecidableEq, Repr

/-- The head of a block after its first sign: the indentation, if it is given, and the chomping. -/
def readBlockHead (indent : Option Nat) (chomping : Option Chomping) :
    List Char → Option (Option Nat × Chomping × List Char)
  | [] => some (indent, chomping.getD .clip, [])
  | c :: cs =>
    if c == '+' && chomping.isNone then readBlockHead indent (some .keep) cs
    else if c == '-' && chomping.isNone then readBlockHead indent (some .strip) cs
    else if '1' ≤ c && c ≤ '9' && indent.isNone then readBlockHead (some (c.toNat - '0'.toNat)) chomping cs
    else if c == '\n' then some (indent, chomping.getD .clip, cs)
    else if isSpace c then
      match cs.dropWhile isSpace with
      | [] => some (indent, chomping.getD .clip, [])
      | '\n' :: rest => some (indent, chomping.getD .clip, rest)
      | '#' :: rest => some (indent, chomping.getD .clip, (rest.dropWhile (· != '\n')).drop 1)
      | _ => none
    else none

/-- The lines of a text, each without its break. -/
def linesOf (cs : List Char) : List (List Char) := cs.splitOn '\n'

/-- How far a line is indented. -/
def indentOf (line : List Char) : Nat := (line.takeWhile (· == ' ')).length

def isEmptyLine (line : List Char) : Bool := line.all (· == ' ')

/-- The lines of a block: those that are empty, or indented by at least so much. -/
def blockLines (indent : Nat) (lines : List (List Char)) : List (List Char) :=
  lines.takeWhile fun l => isEmptyLine l || indent ≤ indentOf l

/-- Joins the lines of a folded block. A break between two lines that begin with no blank becomes a space, or is
left out if empty lines follow it. -/
def foldLines : List (List Char) → List Char
  | [] => []
  | [l] => l
  | l :: m :: rest =>
    let isText (l : List Char) : Bool := !l.isEmpty && !l.head?.any isSpace
    if isText l then
      let empty := (m :: rest).takeWhile List.isEmpty
      match (m :: rest).dropWhile List.isEmpty with
      | [] => l ++ '\n' :: foldLines (m :: rest)
      | next :: _ =>
        if isText next then
          if empty.isEmpty then l ++ ' ' :: foldLines (m :: rest) else l ++ foldLines (m :: rest)
        else l ++ '\n' :: foldLines (m :: rest)
    else l ++ '\n' :: foldLines (m :: rest)

/-- The text of a block from its lines. -/
def blockText (folded : Bool) (chomping : Chomping) (lines : List (List Char)) : List Char :=
  let content := (lines.reverse.dropWhile List.isEmpty).reverse
  let breaks := lines.length - content.length
  let body := if folded then foldLines content else ['\n'].intercalate content
  match chomping with
  | .strip => body
  | .clip => if content.isEmpty then [] else body ++ ['\n']
  | .keep => body ++ List.replicate (if content.isEmpty then breaks else breaks + 1) '\n'

/-- A block at the cursor whose lines are indented more than `parent`. -/
def readBlock (parent : Int) (c : Cursor) : Option (Yaml × Cursor) := do
  let (folded, cs) ← match c.rest with
    | '|' :: cs => some (false, cs)
    | '>' :: cs => some (true, cs)
    | _ => none
  let (given, chomping, rest) ← readBlockHead none none cs
  let lines := linesOf (if rest.getLast? == some '\n' then rest.dropLast else rest)
  let least := (parent + 1).toNat
  let found := (lines.find? (!isEmptyLine ·)).map indentOf
  let indent := match given with
    | some n => (max parent 0).toNat + n
    | none => max least (found.getD least)
  let inside := if rest.isEmpty then [] else blockLines indent lines
  let used := (inside.flatMap (· ++ ['\n'])).length
  let text := blockText folded chomping (inside.map (·.drop indent))
  let header := c.rest.length - rest.length
  let after := c.skip (header + min used rest.length)
  some (.scalar false (String.ofList text), { after with fresh := true })

end Cohort.Yaml
