import Cohort.Predicate.Grammar.Rule

/-!
# Constants

Numbers, strings of every form, placeholders, truth values and the null. Some forms of a query take a constant only,
and every constant is an operand.
-/

namespace Cohort

open Sql (Token Symbol StringForm)

namespace Rule

/-- The characters of an escaped string with their escapes. -/
def escapedText (s : String) : String :=
  String.ofList <| s.toList.flatMap fun c =>
    if c = '\'' then ['\\', '\'']
    else if c = '\\' then ['\\', '\\']
    else if c = '\n' then ['\\', 'n']
    else if c = '\t' then ['\\', 't']
    else if c = '\r' then ['\\', 'r']
    else [c]

/-- A number in capital hexadecimal digits, at least `width` of them. -/
def hexDigits (width n : Nat) : List Char :=
  let ds := (Nat.toDigits 16 n).map Char.toUpper
  List.replicate (width - ds.length) '0' ++ ds

/-- The characters of a Unicode string with escapes for all that is not ASCII. -/
def unicodeText (s : String) : String :=
  String.ofList <| s.toList.flatMap fun c =>
    if c = '\'' then ['\'', '\'']
    else if c = '\\' then ['\\', '\\']
    else if c.toNat < 128 then [c]
    else if c.toNat < 65536 then '\\' :: hexDigits 4 c.toNat
    else '\\' :: '+' :: hexDigits 6 c.toNat

/-- The normal text of a string that is not a plain one. -/
def specialText (form : StringForm) (content : String) : String :=
  match form with
  | .escaped => "E'" ++ escapedText content ++ "'"
  | .unicode => "U&'" ++ unicodeText content ++ "'"
  | form => form.fence.1 ++ content ++ form.fence.2

/-- A placeholder after its sign. -/
def placeholderRest (sign : String) : Rule Phrase := do
  match ← next with
  | .word text _ => return .other (sign ++ text)
  | .number digits false => return .other (sign ++ digits)
  | _ => refuse

/-- A constant that begins with the token. -/
def constantFrom (t : Token) : Rule Phrase :=
  match t with
  | .number digits long => return .number digits long
  | .string content => return .string content
  | .special form content => return .other (specialText form content)
  | .placeholder text => return .other text
  | .symbol .colon => placeholderRest ":"
  | .symbol .atSign => placeholderRest "@"
  | .word text (some '"') => return .other (inQuotes '"' text)
  | t =>
    if t.isKeyword "TRUE" then return .boolean true
    else if t.isKeyword "FALSE" then return .boolean false
    else if t.isKeyword "NULL" then return .null
    else refuse

def constant : Rule Phrase := do constantFrom (← next)

end Rule

end Cohort
