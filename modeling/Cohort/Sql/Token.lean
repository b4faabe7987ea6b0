import Cohort.Text.Letter

/-!
# Tokens of SQL text

The words, numbers, strings and symbols that query text consists of. A token has a spelling, which the lexer reads
back, and a label, by which messages name it. A script is a list of tokens with the blanks between them; query
text is the spelling of a script.
-/

namespace Cohort.Sql

/-- Punctuation and operators. -/
inductive Symbol
  | leftParen | rightParen | leftBracket | rightBracket | leftBrace | rightBrace
  | comma | period | colon | doubleColon | assign | semicolon | backslash
  | eq | doubleEq | rightArrow | neq | lt | ltEq | gt | gtEq | spaceship
  | plus | minus | mul | div | intDiv | mod | concat | caret | caretAt
  | pipe | ampersand | overlap | shiftLeft | shiftRight | sharp | tilde | tildeStar | doubleTilde | doubleTildeStar
  | bang | doubleBang | bangTilde | bangTildeStar | bangDoubleTilde | bangDoubleTildeStar
  | squareRoot | cubeRoot | atSign | atAt | atArrow | arrowAt | atQuestion
  | arrow | longArrow | hashArrow | hashLongArrow | hashMinus
  deriving DecidableEq, Inhabited, Repr

namespace Symbol

def text : Symbol → String
  | .leftParen => "("
  | .rightParen => ")"
  | .leftBracket => "["
  | .rightBracket => "]"
  | .leftBrace => "\x7b"
  | .rightBrace => "\x7d"
  | .comma => ","
  | .period => "."
  | .colon => ":"
  | .doubleColon => "::"
  | .assign => ":="
  | .semicolon => ";"
  | .backslash => "\\"
  | .eq => "="
  | .doubleEq => "=="
  | .rightArrow => "=>"
  | .neq => "<>"
  | .lt => "<"
  | .ltEq => "<="
  | .gt => ">"
  | .gtEq => ">="
  | .spaceship => "<=>"
  | .plus => "+"
  | .minus => "-"
  | .mul => "*"
  | .div => "/"
  | .intDiv => "//"
  | .mod => "%"
  | .concat => "||"
  | .caret => "^"
  | .caretAt => "^@"
  | .pipe => "|"
  | .ampersand => "&"
  | .overlap => "&&"
  | .shiftLeft => "<<"
  | .shiftRight => ">>"
  | .sharp => "#"
  | .tilde => "~"
  | .tildeStar => "~*"
  | .doubleTilde => "~~"
  | .doubleTildeStar => "~~*"
  | .bang => "!"
  | .doubleBang => "!!"
  | .bangTilde => "!~"
  | .bangTildeStar => "!~*"
  | .bangDoubleTilde => "!~~"
  | .bangDoubleTildeStar => "!~~*"
  | .squareRoot => "|/"
  | .cubeRoot => "||/"
  | .atSign => "@"
  | .atAt => "@@"
  | .atArrow => "@>"
  | .arrowAt => "<@"
  | .atQuestion => "@?"
  | .arrow => "->"
  | .longArrow => "->>"
  | .hashArrow => "#>"
  | .hashLongArrow => "#>>"
  | .hashMinus => "#-"

end Symbol

/-- String literals other than the plain one, by what stands before and around their content. -/
inductive StringForm
  | escaped | unicode | national | hex
  | bytes | bytesDouble | raw | rawDouble | rawTriple | rawTripleDouble
  | dollar (tag : String)
  deriving DecidableEq, Inhabited, Repr

namespace StringForm

/-- What stands before and after the content. -/
def fence : StringForm → String × String
  | .escaped => ("E'", "'")
  | .unicode => ("U&'", "'")
  | .national => ("N'", "'")
  | .hex => ("X'", "'")
  | .bytes => ("B'", "'")
  | .bytesDouble => ("B\"", "\"")
  | .raw => ("R'", "'")
  | .rawDouble => ("R\"", "\"")
  | .rawTriple => ("R'''", "'''")
  | .rawTripleDouble => ("R\"\"\"", "\"\"\"")
  | .dollar tag => ("$" ++ tag ++ "$", "$" ++ tag ++ "$")

end StringForm

inductive Token
  /-- A keyword or name, in quotes or without. -/
  | word (text : String) (quote : Option Char)
  /-- An unsigned numeral, which may be marked as long. -/
  | number (digits : String) (long : Bool)
  /-- A plain string literal, by its content. -/
  | string (content : String)
  | special (form : StringForm) (content : String)
  | placeholder (text : String)
  | symbol (s : Symbol)
  /-- A character that begins no token. -/
  | stray (c : Char)
  deriving DecidableEq, Inhabited, Repr

namespace Token

/-- How messages write a token: quotes inside quotes are left alone. -/
def label : Token → String
  | .word text none => text
  | .word text (some q) => q.toString ++ text ++ q.toString
  | .number digits long => digits ++ if long then "L" else ""
  | .string content => "'" ++ content ++ "'"
  | .special form content => form.fence.1 ++ content ++ form.fence.2
  | .placeholder text => text
  | .symbol s => s.text
  | .stray c => c.toString

/-- Content between quotes, with every quote inside doubled. -/
def between (q : Char) (content : List Char) : List Char :=
  q :: content.flatMap (fun c => if c = q then [q, q] else [c]) ++ [q]

/-- The characters that the lexer reads back as the token. -/
def spelling : Token → List Char
  | .word text none => text.toList
  | .word text (some q) => between q text.toList
  | .number digits long => digits.toList ++ if long then ['L'] else []
  | .string content => between '\'' content.toList
  | .special form content => form.fence.1.toList ++ content.toList ++ form.fence.2.toList
  | .placeholder text => text.toList
  | .symbol s => s.text.toList
  | .stray c => [c]

/-- A word that is written as it stands. -/
def plain (text : String) : Token := .word text none

end Token

/-! ## Scripts -/

/-- A token or, for `none`, a blank. -/
abbrev Script := List (Option Token)

namespace Script

def blank : Script := [none]

def ofToken (t : Token) : Script := [some t]

def ofSymbol (s : Symbol) : Script := [some (.symbol s)]

/-- Words with a blank between two of them. -/
def ofWords (words : List String) : Script :=
  (words.map fun w => some (Token.plain w)).intersperse none

/-- Scripts with a separator between two of them. -/
def join (separator : Script) : List Script → Script
  | [] => []
  | [s] => s
  | s :: rest => s ++ separator ++ join separator rest

def parenthesized (s : Script) : Script := ofSymbol .leftParen ++ s ++ ofSymbol .rightParen

def commaBlank : Script := ofSymbol .comma ++ blank

/-- The tokens without the blanks. -/
def tokens (s : Script) : List Token := s.filterMap id

/-- The characters of the script, a space for each blank. -/
def chars (s : Script) : List Char :=
  s.flatMap fun
    | some t => t.spelling
    | none => [' ']

def text (s : Script) : String := String.ofList s.chars

@[simp] theorem tokens_append (s t : Script) : tokens (s ++ t) = tokens s ++ tokens t := by
  simp [tokens]

@[simp] theorem chars_append (s t : Script) : chars (s ++ t) = chars s ++ chars t := by
  simp [chars]

theorem text_append (s t : Script) : text (s ++ t) = text s ++ text t := by
  rw [text, chars_append, String.ofList_append]
  rfl

end Script

end Cohort.Sql
