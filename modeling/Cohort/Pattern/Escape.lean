import Cohort.Pattern.Basic

/-!
# Escapes in patterns

After a backslash: a control character or a class by its letter, a character by its code, a condition, or any sign
of ASCII for itself. Letters and digits without a meaning are refused, and so are classes by the name of a
property.
-/

namespace Cohort.Pattern

/-- What an escape stands for. -/
inductive Escaped
  | char (c : Char)
  | set (s : CharSet)
  | condition (c : Condition)
  deriving Repr

/-- A code of so many digits, or of any number of them in braces. -/
def readCode (count : Nat) : List Char → Option (Escaped × List Char)
  | '\x7b' :: cs => do
    let c ← Text.charOfHex? (cs.takeWhile (· != '\x7d'))
    match cs.dropWhile (· != '\x7d') with
    | _ :: rest => some (.char c, rest)
    | [] => none
  | cs => do
    let c ← if cs.length < count then none else Text.charOfHex? (cs.take count)
    some (.char c, cs.drop count)

/-- The kinds of word boundary by their names. -/
def boundary? : String → Option Condition
  | "start" => some .wordStart
  | "end" => some .wordEnd
  | "start-half" => some .halfWordStart
  | "end-half" => some .halfWordEnd
  | _ => none

/-- A word boundary, whose kind may follow in braces. -/
def readBoundary (cs : List Char) : Option (Escaped × List Char) :=
  let isNamePart (c : Char) : Bool := c.isAlpha || c == '-'
  match cs with
  | '\x7b' :: c :: more =>
    if isNamePart c then
      match (c :: more).dropWhile isNamePart with
      | '\x7d' :: rest => do
        let condition ← boundary? (String.ofList ((c :: more).takeWhile isNamePart))
        some (.condition condition, rest)
      | _ => none
    else some (.condition .wordEdge, cs)
  | _ => some (.condition .wordEdge, cs)

/-- The class with a letter; in a capital it stands for all other characters. -/
def class? : Char → Option CharSet
  | 'd' => some .digit
  | 's' => some .blank
  | 'w' => some .word
  | 'D' => some (.complement .digit)
  | 'S' => some (.complement .blank)
  | 'W' => some (.complement .word)
  | _ => none

def control? : Char → Option Char
  | 'a' => some '\x07'
  | 'f' => some '\x0c'
  | 't' => some '\t'
  | 'n' => some '\n'
  | 'r' => some '\r'
  | 'v' => some '\x0b'
  | _ => none

def condition? : Char → Option Condition
  | 'A' => some .textStart
  | 'z' => some .textEnd
  | 'B' => some .noWordEdge
  | '<' => some .wordStart
  | '>' => some .wordEnd
  | _ => none

/-- What follows a backslash. -/
def readEscape : List Char → Option (Escaped × List Char)
  | [] => none
  | 'x' :: cs => readCode 2 cs
  | 'u' :: cs => readCode 4 cs
  | 'U' :: cs => readCode 8 cs
  | 'b' :: cs => readBoundary cs
  | c :: cs =>
    match class? c, control? c, condition? c with
    | some s, _, _ => some (.set s, cs)
    | _, some d, _ => some (.char d, cs)
    | _, _, some k => some (.condition k, cs)
    | _, _, _ => if Text.isAscii c && !c.isAlphanum then some (.char c, cs) else none

end Cohort.Pattern
