import Cohort.Number.Decimal
import Cohort.Text.Letter
import Cohort.Time.Instant

/-!
# Reading instants

A date and a time of day with an offset from universal time. The parts may have fewer digits than usual and blanks
around them, the letter between date and time may be a blank, and the offset may be the letter `Z`, the letters
`UTC`, or a sign and two pairs of digits.
-/

namespace Cohort.Instant

/-- Between one digit and `width` of them. -/
def readDigits (width : Nat) (cs : List Char) : Option (Nat × List Char) :=
  let digits := (cs.takeWhile Char.isDigit).take width
  if digits = [] then none else some (digitsValue digits, cs.drop digits.length)

/-- A number without sign after blanks. -/
def readPart (cs : List Char) : Option (Nat × List Char) := readDigits 2 (Text.trimLeft cs)

/-- Four digits at most without a sign, any number of them with one. -/
def readYear (cs : List Char) : Option (Int × List Char) :=
  match Text.trimLeft cs with
  | '-' :: rest => (readDigits rest.length rest).map fun (n, rest) => (-(n : Int), rest)
  | '+' :: rest => (readDigits rest.length rest).map fun (n, rest) => ((n : Int), rest)
  | cs => (readDigits 4 cs).map fun (n, rest) => ((n : Int), rest)

/-- The given character after blanks. -/
def readSeparator (c : Char) (cs : List Char) : Option (List Char) :=
  match Text.trimLeft cs with
  | d :: rest => if d = c then some rest else none
  | [] => none

def readDate (cs : List Char) : Option (Date × List Char) := do
  let (year, cs) ← readYear cs
  let (month, cs) ← readPart (← readSeparator '-' cs)
  let (day, cs) ← readPart (← readSeparator '-' cs)
  some ({ year, month, day }, cs)

/-- Digits after a point, of which nine count. -/
def readFraction (cs : List Char) : Option (Nat × List Char) :=
  match cs with
  | '.' :: rest =>
    let digits := (rest.takeWhile Char.isDigit).take 9
    if digits = [] then none
    else some (digitsValue digits * tenPow (9 - digits.length), rest.dropWhile Char.isDigit)
  | _ => some (0, cs)

/-- Hours, minutes, seconds and nanoseconds. -/
def readClock (cs : List Char) : Option ((Nat × Nat × Nat × Nat) × List Char) := do
  let (hour, cs) ← readPart cs
  let (minute, cs) ← readPart (← readSeparator ':' cs)
  let (second, cs) ← readPart (← readSeparator ':' cs)
  let (nanos, cs) ← readFraction cs
  if hour < 24 ∧ minute < 60 ∧ second ≤ 60 then some ((hour, minute, second, nanos), cs) else none

/-- Two digits. -/
def readPair (cs : List Char) : Option (Nat × List Char) :=
  match cs with
  | a :: b :: rest => if a.isDigit ∧ b.isDigit then some (digitsValue [a, b], rest) else none
  | _ => none

/-- An offset from universal time, in seconds. -/
def readOffset (cs : List Char) : Option (Int × List Char) :=
  if (cs.take 3).map Char.toUpper = ['U', 'T', 'C'] then some (0, cs.drop 3)
  else
    match cs with
    | 'Z' :: rest => some (0, rest)
    | 'z' :: rest => some (0, rest)
    | c :: rest => do
      let negative := c ≠ '+'
      if c ≠ '+' ∧ c ≠ '-' ∧ c.toNat ≠ 0x2212 then none
      let (hours, rest) ← readPair rest
      let (minutes, rest) ← readPair (rest.dropWhile fun c => c = ':' || Text.isBlank c)
      if 60 ≤ minutes then none
      let seconds : Int := hours * 3600 + minutes * 60
      some (if negative then -seconds else seconds, rest)
    | [] => none

/-- The first year that an instant may lie in. -/
def firstYear : Int := -262143

/-- The last year that an instant may lie in. -/
def lastYear : Int := 262142

def hasYear (d : Date) : Bool := firstYear ≤ d.year && d.year ≤ lastYear

/-- The instant at a local date and time; the second 60 is the leap second after 59. -/
def ofLocal (d : Date) (clock : Nat × Nat × Nat × Nat) (offset : Int) : Option Instant :=
  let (hour, minute, second, nanos) := clock
  let leap := second = 60
  let t : Instant :=
    { seconds := d.toDays * secondsPerDay + hour * 3600 + minute * 60 + (if leap then 59 else second) - offset
      nanos := if leap then nanos + nanosPerSecond else nanos }
  if d.isValid ∧ hasYear d ∧ offset.natAbs < 86400 ∧ hasYear t.date then some t else none

/-- The instant that a text stands for. -/
def ofText? (text : String) : Option Instant := do
  let (d, cs) ← readDate text.toList
  let cs ← match cs with
    | c :: rest => if c = 'T' ∨ c = 't' ∨ c = ' ' then some rest else none
    | [] => none
  let (clock, cs) ← readClock cs
  let (offset, cs) ← readOffset (Text.trimLeft cs)
  if Text.trimLeft cs = [] then ofLocal d clock offset else none

end Cohort.Instant
