import Cohort.Error
import Cohort.Sql.Keyword

/-!
# Reading tokens

The lexer takes the longest symbol, word, number or string at the front of the text, skips blanks and comments, and
fails only inside an unfinished string, quoted name or block comment. Block comments nest. A quote inside quotes is
doubled; backslashes mean something only in national, hexadecimal, escaped and Unicode strings.
-/

namespace Cohort.Sql

/-- Every symbol that is found by its text alone, longer ones first; the last entries are other spellings. -/
def symbolTable : List (List Char × Symbol) :=
  ([.bangDoubleTildeStar,
    .longArrow, .cubeRoot, .spaceship, .bangDoubleTilde, .bangTildeStar, .doubleTildeStar, .hashLongArrow,
    .arrow, .intDiv, .squareRoot, .concat, .rightArrow, .doubleEq, .doubleBang, .bangTilde, .ltEq, .neq,
    .shiftLeft, .arrowAt, .gtEq, .shiftRight, .doubleColon, .assign, .overlap, .caretAt, .doubleTilde, .tildeStar,
    .hashMinus, .hashArrow, .atArrow, .atQuestion].map fun s : Symbol => (s.text.toList, s)) ++
  [(['!', '='], .neq)] ++
  ([.leftParen, .rightParen, .leftBracket, .rightBracket, .leftBrace, .rightBrace, .comma, .colon, .semicolon,
    .backslash, .eq, .lt, .gt, .plus, .minus, .mul, .div, .mod, .caret, .pipe, .ampersand, .tilde,
    .bang].map fun s : Symbol => (s.text.toList, s))

/-- The longest symbol at the front of the text. -/
def readSymbol? (cs : List Char) : Option (Token × List Char) :=
  (symbolTable.find? fun e => e.1.isPrefixOf cs).map fun e => (.symbol e.2, cs.drop e.1.length)

def isWordStart (c : Char) : Bool := Text.isLetter c || c == '_' || c == '#' || c == '@'

def isWordPart (c : Char) : Bool :=
  Text.isLetter c || c.isDigit || c == '@' || c == '$' || c == '#' || c == '_'

/-- A word that begins with the given characters. -/
def readWord (front cs : List Char) : Token × List Char :=
  (.plain (String.ofList (front ++ cs.takeWhile isWordPart)), cs.dropWhile isWordPart)

/-- What a backslash makes of the character after it. -/
def controlOf (c : Char) : Char :=
  if c = '0' then '\x00'
  else if c = 'a' then '\x07'
  else if c = 'b' then '\x08'
  else if c = 'f' then '\x0c'
  else if c = 'n' then '\n'
  else if c = 'r' then '\r'
  else if c = 't' then '\t'
  else if c = 'Z' then '\x1a'
  else c

/-- Content up to the closing quote, and what follows it. -/
def readQuoted (q : Char) (backslash : Bool) : List Char → Option (List Char × List Char)
  | [] => none
  | [c] => if c = q then some ([], []) else none
  | c :: d :: cs =>
    if c = q then
      if d = q then (readQuoted q backslash cs).map fun (s, rest) => (q :: s, rest)
      else some ([], d :: cs)
    else if c = '\\' ∧ backslash then
      (readQuoted q backslash cs).map fun (s, rest) => (controlOf d :: s, rest)
    else (readQuoted q backslash (d :: cs)).map fun (s, rest) => (c :: s, rest)

/-- Content up to three quotes in a row. -/
def readTripleQuoted (q : Char) : List Char → Option (List Char × List Char)
  | a :: b :: c :: cs =>
    if a = q ∧ b = q ∧ c = q then some ([], cs)
    else (readTripleQuoted q (b :: c :: cs)).map fun (s, rest) => (a :: s, rest)
  | _ => none

/-- A number below `base` that a character stands for. -/
def digitIn? (base : Nat) (c : Char) : Option Nat :=
  let value :=
    if c.isDigit then c.toNat - '0'.toNat
    else if 'a' ≤ c ∧ c ≤ 'f' then c.toNat - 'a'.toNat + 10
    else if 'A' ≤ c ∧ c ≤ 'F' then c.toNat - 'A'.toNat + 10
    else base
  if value < base then some value else none

/-- The value of digits, the first one highest. -/
def valueIn (base : Nat) (ds : List Nat) : Nat := ds.foldl (fun n d => n * base + d) 0

/-- At most `limit` digits from the front. -/
def takeDigits (base : Nat) : Nat → List Char → List Nat × List Char
  | 0, cs => ([], cs)
  | _, [] => ([], [])
  | limit + 1, c :: cs => match digitIn? base c with
    | none => ([], c :: cs)
    | some d => ((d :: (takeDigits base limit cs).1), (takeDigits base limit cs).2)

/-- A character by its code, which is neither zero nor a surrogate. -/
def charOfCode? (n : Nat) : Option Char :=
  if n = 0 then none else if h : n.isValidChar then some (Char.ofNatAux n h) else none

/-- A character of seven bits, by the low eight bits of its code. -/
def charOfByte? (n : Nat) : Option Char := if n % 256 < 128 then charOfCode? (n % 256) else none

/-- Exactly `count` hexadecimal digits, as a code. A plus sign may stand for the first one. -/
def readCode? (count : Nat) (cs : List Char) : Option (Nat × List Char) :=
  let front := cs.take count
  let digits := if front.head? = some '+' then front.drop 1 else front
  if front.length < count ∨ digits = [] then none
  else (digits.mapM (digitIn? 16)).map fun ds => (valueIn 16 ds, cs.drop count)

/-- The escape after a backslash in an escaped string. -/
def readEscape? : List Char → Option (Char × List Char)
  | [] => none
  | c :: cs =>
    if c = 'b' then some ('\x08', cs)
    else if c = 'f' then some ('\x0c', cs)
    else if c = 'n' then some ('\n', cs)
    else if c = 'r' then some ('\r', cs)
    else if c = 't' then some ('\t', cs)
    else if c = 'u' then (readCode? 4 cs).bind fun (n, rest) => (charOfCode? n).map (·, rest)
    else if c = 'U' then (readCode? 8 cs).bind fun (n, rest) => (charOfCode? n).map (·, rest)
    else if c = 'x' then match takeDigits 16 2 cs with
      | ([], rest) => some ('x', rest)
      | (ds, rest) => (charOfByte? (valueIn 16 ds)).map (·, rest)
    else match digitIn? 8 c with
      | some d =>
        let (ds, rest) := takeDigits 8 2 cs
        (charOfByte? (valueIn 8 (d :: ds))).map (·, rest)
      | none => if c.toNat = 0 then none else some (c, cs)

/-- The rest of an escaped string after its opening quote; `fuel` bounds its length. -/
def readEscaped : Nat → List Char → Option (List Char × List Char)
  | 0, _ => none
  | _, [] => none
  | fuel + 1, c :: cs =>
    if c = '\'' then match cs with
      | '\'' :: rest => (readEscaped fuel rest).map fun (s, rest) => ('\'' :: s, rest)
      | _ => some ([], cs)
    else if c = '\\' then do
      let (d, rest) ← readEscape? cs
      let (s, rest) ← readEscaped fuel rest
      some (d :: s, rest)
    else (readEscaped fuel cs).map fun (s, rest) => (c :: s, rest)

/-- A code of exactly `count` hexadecimal digits in a Unicode string. -/
def readUnicodeCode? (count : Nat) (cs : List Char) : Option (Char × List Char) := do
  let front := cs.take count
  if front.length < count then none
  else
    let n := valueIn 16 (← front.mapM (digitIn? 16))
    if h : n.isValidChar then some (Char.ofNatAux n h, cs.drop count) else none

/-- The rest of a Unicode string after its opening quote; `fuel` bounds its length. -/
def readUnicode : Nat → List Char → Option (List Char × List Char)
  | 0, _ => none
  | _, [] => none
  | fuel + 1, c :: cs =>
    if c = '\'' then match cs with
      | '\'' :: rest => (readUnicode fuel rest).map fun (s, rest) => ('\'' :: s, rest)
      | _ => some ([], cs)
    else if c = '\\' then do
      let (d, rest) ← match cs with
        | '\\' :: rest => some ('\\', rest)
        | '+' :: rest => readUnicodeCode? 6 rest
        | _ => readUnicodeCode? 4 cs
      let (s, rest) ← readUnicode fuel rest
      some (d :: s, rest)
    else (readUnicode fuel cs).map fun (s, rest) => (c :: s, rest)

/-- Content between two pairs of dollar signs. A lone dollar sign belongs to the content together with what
follows it. -/
def readDollars (afterDollar : Bool) : List Char → Option (List Char × List Char)
  | [] => none
  | c :: cs =>
    if afterDollar then
      if c = '$' then some ([], cs)
      else (readDollars false cs).map fun (s, rest) => ('$' :: c :: s, rest)
    else if c = '$' then readDollars true cs
    else (readDollars false cs).map fun (s, rest) => (c :: s, rest)

/-- The longest common front of a tag and the text. -/
def commonFront : List Char → List Char → List Char
  | [], _ => []
  | _, [] => []
  | a :: as, c :: cs => if a = c then a :: commonFront as cs else [c]

/-- Content up to the tag between dollar signs; `fuel` bounds its length. Text that begins like the closing tag and
then differs is content up to the difference. -/
def readTagged (tag : List Char) : Nat → List Char → Option (List Char × List Char)
  | 0, _ => none
  | fuel + 1, cs =>
    let content := cs.takeWhile (· ≠ '$')
    match cs.dropWhile (· ≠ '$') with
    | [] => none
    | _ :: after =>
      let front := commonFront tag after
      let rest := after.drop front.length
      let continued := (readTagged tag fuel rest).map fun (s, rest) => (content ++ '$' :: front ++ s, rest)
      if front = tag then match rest with
        | '$' :: rest => some (content, rest)
        | _ => continued
      else if rest = [] ∧ front.length < tag.length ∧ front = tag.take front.length then none
      else continued

/-- What follows a block comment at the given depth; `last` is the character before. -/
def skipBlockComment (last : Char) : Nat → List Char → Option (List Char)
  | _, [] => none
  | depth, c :: cs =>
    if last = '/' ∧ c = '*' then skipBlockComment c (depth + 1) cs
    else if last = '*' ∧ c = '/' then
      match depth with
      | 0 => some cs
      | depth + 1 => skipBlockComment c depth cs
    else skipBlockComment c depth cs

/-- The point at the front of the text and the digits after it. -/
def takeFraction (cs : List Char) : List Char × List Char :=
  match cs with
  | '.' :: more => ('.' :: more.takeWhile Char.isDigit, more.dropWhile Char.isDigit)
  | _ => ([], cs)

/-- The exponent at the front of the text, if a digit follows its letter and sign. -/
def takeExponent (cs : List Char) : List Char × List Char :=
  match cs with
  | e :: s :: rest =>
    if e = 'e' ∨ e = 'E' then
      if s = '+' ∨ s = '-' then
        let ds := rest.takeWhile Char.isDigit
        if ds = [] then ([], cs) else (e :: s :: ds, rest.dropWhile Char.isDigit)
      else if s.isDigit then
        (e :: (s :: rest).takeWhile Char.isDigit, (s :: rest).dropWhile Char.isDigit)
      else ([], cs)
    else ([], cs)
  | _ => ([], cs)

def isHexDigit (c : Char) : Bool := (digitIn? 16 c).isSome

/-- A number, or a lone period. -/
def readNumber (cs : List Char) : Token × List Char :=
  let whole := cs.takeWhile Char.isDigit
  let rest := cs.dropWhile Char.isDigit
  if whole = ['0'] ∧ rest.head? = some 'x' then
    (.special .hex (String.ofList ((rest.drop 1).takeWhile isHexDigit)), (rest.drop 1).dropWhile isHexDigit)
  else
    let (point, rest) := takeFraction rest
    let digits := whole ++ point
    if digits = ['.'] then (.symbol .period, rest)
    else
      let (exponent, rest) := takeExponent rest
      match rest with
      | 'L' :: rest => (.number (String.ofList (digits ++ exponent)) true, rest)
      | _ => (.number (String.ofList (digits ++ exponent)) false, rest)

/-! ## Tokens -/

/-- A string of a given form from what its reader returns. -/
def asSpecial (form : StringForm) (r : Option (List Char × List Char)) :
    Except GrammarFault (Option Token × List Char) :=
  match r with
  | some (s, rest) => .ok (some (.special form (String.ofList s)), rest)
  | none => .error .token

def asToken (r : Token × List Char) : Except GrammarFault (Option Token × List Char) := .ok (some r.1, r.2)

/-- A raw string in one or three quotes, after its letter and first quote. -/
def readRaw (q : Char) (single triple : StringForm) (cs : List Char) :
    Except GrammarFault (Option Token × List Char) :=
  match cs with
  | a :: b :: rest =>
    if a = q ∧ b = q then asSpecial triple (readTripleQuoted q rest)
    else asSpecial single (readQuoted q false cs)
  | _ => asSpecial single (readQuoted q false cs)

/-- What begins with a dollar sign, after it. -/
def readDollar (cs : List Char) : Except GrammarFault (Option Token × List Char) :=
  match cs with
  | '$' :: rest => asSpecial (.dollar "") (readDollars false rest)
  | _ =>
    let isTagPart (c : Char) : Bool := Text.isLetter c || Text.isNumeral c || c == '_'
    let tag := cs.takeWhile isTagPart
    match cs.dropWhile isTagPart with
    | '$' :: rest => asSpecial (.dollar (String.ofList tag)) (readTagged tag (rest.length + 1) rest)
    | rest => asToken (.placeholder (String.ofList ('$' :: tag)), rest)

/-- A string after its letter, or else a word with that letter. -/
def readLettered (c : Char) (cs : List Char) : Except GrammarFault (Option Token × List Char) :=
  match c.toUpper, cs with
  | 'B', '\'' :: rest => asSpecial .bytes (readQuoted '\'' false rest)
  | 'B', '"' :: rest => asSpecial .bytesDouble (readQuoted '"' false rest)
  | 'R', '\'' :: rest => readRaw '\'' .raw .rawTriple rest
  | 'R', '"' :: rest => readRaw '"' .rawDouble .rawTripleDouble rest
  | 'N', '\'' :: rest => asSpecial .national (readQuoted '\'' true rest)
  | 'X', '\'' :: rest => asSpecial .hex (readQuoted '\'' true rest)
  | 'E', '\'' :: rest => asSpecial .escaped (readEscaped (rest.length + 1) rest)
  | 'U', '&' :: '\'' :: rest => asSpecial .unicode (readUnicode (rest.length + 1) rest)
  | _, _ => asToken (readWord [c] cs)

/-- What begins with `#` and is no longer symbol, after it. -/
def readHash (cs : List Char) : Token × List Char :=
  match cs with
  | [] => (.symbol .sharp, cs)
  | c :: rest => if c = ' ' then (.symbol .sharp, cs) else readWord ['#', c] rest

/-- What begins with `@` and is no longer symbol, after it. -/
def readAt (cs : List Char) : Token × List Char :=
  match cs with
  | [] => (.symbol .atSign, cs)
  | '@' :: [] => (.symbol .atAt, [])
  | '@' :: c :: rest => if c = ' ' then (.symbol .atAt, c :: rest) else readWord ['@', '@', c] rest
  | c :: rest => if c = ' ' then (.symbol .atSign, cs) else readWord ['@', c] rest

/-- The token, or the blank or comment, at the front of the text `c :: cs`. -/
def readToken (c : Char) (cs : List Char) : Except GrammarFault (Option Token × List Char) :=
  if c = ' ' ∨ c = '\t' ∨ c = '\n' ∨ c = '\r' then .ok (none, cs)
  else if c.toUpper ∈ ['B', 'R', 'N', 'E', 'U', 'X'] then readLettered c cs
  else if c = '\'' then
    match readQuoted c false cs with
    | some (s, rest) => .ok (some (.string (String.ofList s)), rest)
    | none => .error .token
  else if c = '"' ∨ c.toNat = 0x60 then
    match readQuoted c false cs with
    | some (s, rest) => .ok (some (.word (String.ofList s) (some c)), rest)
    | none => .error .token
  else if c.isDigit ∨ c = '.' then asToken (readNumber (c :: cs))
  else if c = '-' ∧ cs.head? = some '-' then .ok (none, cs.dropWhile (· ≠ '\n'))
  else if c = '/' ∧ cs.head? = some '*' then
    match skipBlockComment ' ' 0 (cs.drop 1) with
    | some rest => .ok (none, rest)
    | none => .error .token
  else match readSymbol? (c :: cs) with
    | some r => asToken r
    | none =>
      if c = '#' then asToken (readHash cs)
      else if c = '@' then asToken (readAt cs)
      else if c = '?' then
        asToken (.placeholder (String.ofList ('?' :: cs.takeWhile Text.isNumeral)), cs.dropWhile Text.isNumeral)
      else if isWordStart c then asToken (readWord [c] cs)
      else if c = '$' then readDollar cs
      else if Text.isBlank c then .ok (none, cs)
      else .ok (some (.stray c), cs)

/-- The tokens of the text; each step takes at least one character, so its length is fuel enough. -/
def tokensWithin : Nat → List Char → Except GrammarFault (List Token)
  | _, [] => .ok []
  | 0, _ => .error .token
  | fuel + 1, c :: cs => do
    let (t, rest) ← readToken c cs
    let ts ← tokensWithin fuel rest
    .ok (match t with
      | some t => t :: ts
      | none => ts)

/-- The tokens of a text, without blanks and comments. -/
def tokenize (cs : List Char) : Except GrammarFault (List Token) := tokensWithin cs.length cs

end Cohort.Sql
