import Cohort.Number.Decimal
import Cohort.Text.Letter
import Cohort.Time.Span

/-!
# Reading spans of time

A span is a whole number of seconds, or numbers with units, which are added up. Numbers may have a sign, decimals and
an exponent; signs and words that are no part of a number or its unit are passed over. Whole seconds are added up
apart from fractions of them, and neither sum may be negative once the seconds that the fractions make up have been
carried.
-/

namespace Cohort.Span

/-- The endings of the word for seconds. -/
def secondEndings : List String := ["s", "sec", "secs", "second", "seconds"]

/-- The nanoseconds of a unit. Units are written in letters of either case, except that one `M` is a month. -/
def unit? (name : String) : Option Nat :=
  let word := name.map Char.toLower
  let second := nanosPerSecond
  if name = "M" then some (2629746 * second)
  else if word ∈ ["y", "yr", "yrs", "year", "years"] then some (31556952 * second)
  else if word ∈ ["mo", "mon", "mons", "month", "months"] then some (2629746 * second)
  else if word ∈ ["w", "wk", "wks", "week", "weeks"] then some (604800 * second)
  else if word ∈ ["d", "day", "days"] then some (86400 * second)
  else if word ∈ ["h", "hr", "hrs", "hour", "hours"] then some (3600 * second)
  else if word ∈ ["m", "min", "mins", "minute", "minutes"] then some (60 * second)
  else if word ∈ secondEndings then some second
  else if secondEndings.any fun e => word = "m" ++ e ∨ word = "milli" ++ e then some 1000000
  else if secondEndings.any fun e => word = "u" ++ e ∨ word = "µ" ++ e ∨ word = "μ" ++ e ∨ word = "micro" ++ e then
    some 1000
  else if secondEndings.any fun e => word = "n" ++ e ∨ word = "nano" ++ e then some 1
  else none

/-- A number as its digits, with the power of ten that they count in. -/
structure Numeral where
  negative : Bool
  digits : Nat
  exponent : Int
  deriving DecidableEq, Repr

/-- The exponent at the front of the text, if a digit follows its letter and sign. -/
def takeExponent (cs : List Char) : Int × List Char :=
  match cs with
  | e :: rest =>
    if e = 'e' ∨ e = 'E' then
      let (negative, rest) := takeSign rest
      let digits := rest.takeWhile Char.isDigit
      if digits = [] then (0, cs)
      else (if negative then -(digitsValue digits : Int) else digitsValue digits, rest.dropWhile Char.isDigit)
    else (0, cs)
  | [] => (0, cs)
where
  takeSign : List Char → Bool × List Char
    | '-' :: cs => (true, cs)
    | '+' :: cs => (false, cs)
    | cs => (false, cs)

/-- The number that begins with a digit. -/
def takeNumber (negative : Bool) (cs : List Char) : Numeral × List Char :=
  let whole := cs.takeWhile Char.isDigit
  let rest := cs.dropWhile Char.isDigit
  let (part, rest) := match rest with
    | '.' :: more => (more.takeWhile Char.isDigit, more.dropWhile Char.isDigit)
    | _ => ([], rest)
  let (exponent, rest) := takeExponent rest
  (⟨negative, digitsValue (whole ++ part), exponent - part.length⟩, rest)

/-- The largest power of ten that a number may count in, or a part of one in. -/
def exponentLimit : Nat := 4000

/-- So many units, rounded towards zero. -/
def Numeral.times (n : Numeral) (unit : Nat) : Int :=
  let magnitude :=
    if n.digits = 0 then 0
    else if 0 ≤ n.exponent then n.digits * unit * tenPow (min n.exponent.toNat exponentLimit)
    else n.digits * unit / tenPow (min n.exponent.natAbs (exponentLimit + (toString n.digits).length))
  if n.negative then -(magnitude : Int) else magnitude

/-- Whole seconds and, apart from them, nanoseconds, of either sign. -/
structure Sum where
  seconds : Int
  nanos : Int
  deriving DecidableEq, Repr

namespace Sum

def zero : Sum := ⟨0, 0⟩

/-- Adds so many units: whole numbers of units of a second or more to the seconds, all others to the nanoseconds. -/
def add (s : Sum) (n : Numeral) (unit : Nat) : Sum :=
  if 0 ≤ n.exponent ∧ unit % nanosPerSecond = 0 then
    { s with seconds := s.seconds + n.times (unit / nanosPerSecond) }
  else { s with nanos := s.nanos + n.times unit }

/-- The span of a sum. Whole seconds are carried from the nanoseconds, rounded towards zero; then neither part may be
negative, and the seconds have to fit into 64 bits. -/
def span? (s : Sum) : Option Span :=
  let seconds := s.seconds + s.nanos.tdiv nanosPerSecond
  let nanos := s.nanos.tmod nanosPerSecond
  if seconds < 0 ∨ nanos < 0 then none else ofParts? seconds.toNat nanos.toNat

end Sum

/-- What may stand between a number and its unit. -/
def isSeparator (c : Char) : Bool := !Text.isWordPart c && c ≠ '-'

/-- Adds the numbers with units in the text to a sum; `found` says whether there was one before. There has to be one,
and `fuel` bounds the length of the text. -/
def readParts (found : Bool) (sum : Sum) : Nat → List Char → Option Sum
  | _, [] => if found then some sum else none
  | 0, _ => none
  | fuel + 1, c :: cs =>
    let negative := c = '-' && (cs.head?.any Char.isDigit)
    if c.isDigit || negative then
      let (n, rest) := takeNumber negative (if negative then cs else c :: cs)
      let rest := rest.dropWhile isSeparator
      (unit? (String.ofList (rest.takeWhile Text.isLetter))).bind fun unit =>
        readParts true (sum.add n unit) fuel (rest.dropWhile Text.isLetter)
    else readParts found sum fuel cs

/-- A whole number of seconds. -/
def readSeconds (cs : List Char) : Option Int :=
  match Text.trim cs with
  | '-' :: ds => if ds ≠ [] ∧ ds.all Char.isDigit then some (-(digitsValue ds : Int)) else none
  | ds => if ds ≠ [] ∧ ds.all Char.isDigit then some (digitsValue ds) else none

/-- The span that a text stands for. -/
def ofText? (text : String) : Option Span :=
  let cs := text.toList
  match readSeconds cs with
  | some n => Sum.span? ⟨n, 0⟩
  | none => (readParts false Sum.zero cs.length cs).bind Sum.span?

end Cohort.Span
