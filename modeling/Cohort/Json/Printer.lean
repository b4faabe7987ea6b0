import Cohort.Json.Basic

/-!
# Printing JSON

The indented form: two blanks for each level, one member or item on a line, empty brackets closed at once.
-/

namespace Cohort.Json

def escapedChar (c : Char) : List Char :=
  if c = '"' then ['\\', '"']
  else if c = '\\' then ['\\', '\\']
  else if c = '\x08' then ['\\', 'b']
  else if c = '\x0c' then ['\\', 'f']
  else if c = '\n' then ['\\', 'n']
  else if c = '\r' then ['\\', 'r']
  else if c = '\t' then ['\\', 't']
  else if c.toNat < 32 then
    ['\\', 'u', '0', '0', Nat.digitChar (c.toNat / 16), Nat.digitChar (c.toNat % 16)]
  else [c]

def stringText (s : String) : String := String.ofList ('"' :: s.toList.flatMap escapedChar ++ ['"'])

/-- The text of a value that holds no other. -/
def leafText : Json → String
  | .null => "null"
  | .bool b => if b then "true" else "false"
  | .int i => toString i
  | .float x => if x.isFinite then x.text else "null"
  | .string s => stringText s
  | .array _ => "[]"
  | .object _ => "\x7b\x7d"

/-- The start of a line at a level. -/
def lineStart (level : Nat) : String := "\n" ++ String.ofList (List.replicate (2 * level) ' ')

/-- The indented text of a value that stands at a level. -/
def prettyAt (level : Nat) : Json → String
  | .array (j :: js) => "[" ++ prettyItems (level + 1) (j :: js) ++ lineStart level ++ "]"
  | .object (m :: ms) => "\x7b" ++ prettyMembers (level + 1) (m :: ms) ++ lineStart level ++ "\x7d"
  | j => leafText j
where
  prettyItems (level : Nat) : List Json → String
    | [] => ""
    | [j] => lineStart level ++ prettyAt level j
    | j :: rest => lineStart level ++ prettyAt level j ++ "," ++ prettyItems level rest
  prettyMembers (level : Nat) : List (String × Json) → String
    | [] => ""
    | [(n, j)] => lineStart level ++ stringText n ++ ": " ++ prettyAt level j
    | (n, j) :: rest =>
      lineStart level ++ stringText n ++ ": " ++ prettyAt level j ++ "," ++ prettyMembers level rest

/-- The indented text. -/
def pretty (j : Json) : String := prettyAt 0 j

/-- The text on one line, without blanks. -/
def compact : Json → String
  | .array js => "[" ++ compactItems js ++ "]"
  | .object ms => "\x7b" ++ compactMembers ms ++ "\x7d"
  | j => leafText j
where
  compactItems : List Json → String
    | [] => ""
    | [j] => compact j
    | j :: rest => compact j ++ "," ++ compactItems rest
  compactMembers : List (String × Json) → String
    | [] => ""
    | [(n, j)] => stringText n ++ ":" ++ compact j
    | (n, j) :: rest => stringText n ++ ":" ++ compact j ++ "," ++ compactMembers rest

end Cohort.Json
