import Cohort.Json.Basic
import Cohort.Text.Letter

/-!
# Reading JSON text

A strict reader: one value, blanks around tokens, nothing after it, brackets nested at most a given number of
levels. Whole numbers from `-2⁶³` to `2⁶⁴ - 1` stay whole, all others become doubles; `-0` is a double too. A double
is read fast rather than exactly: the digits that fit 64 bits are rounded to a double, which one multiplication by
a power of ten, or a division, then brings to scale.
-/

namespace Cohort.Json

/-- Reads something at the front of the text and returns what follows it. -/
abbrev Reader (α : Type) := List Char → Option (α × List Char)

def isGap (c : Char) : Bool := c = ' ' || c = '\n' || c = '\t' || c = '\r'

def skipGap (cs : List Char) : List Char := cs.dropWhile isGap

/-- Powers of ten as doubles, up to the largest. -/
def tenTo (n : Nat) : Double := Double.ofDecimal false 1 n

/-- Brings a rounded coefficient to scale. Coefficients below the range are divided by `10³⁰⁸` until one more
division does; there is no value above the range. -/
def scaleCoefficient (fuel : Nat) (x : Double) (exponent : Int) : Option Double :=
  if exponent.natAbs ≤ 308 then
    if 0 ≤ exponent then
      let y := x.mul (tenTo exponent.toNat)
      if y.isFinite then some y else none
    else some (x.div (tenTo exponent.natAbs))
  else if x.isZero then some x
  else if 0 ≤ exponent then none
  else match fuel with
    | 0 => some x
    | fuel + 1 => scaleCoefficient fuel (x.div (tenTo 308)) (exponent + 308)

def toDouble (negative : Bool) (coefficient : Nat) (exponent : Int) : Option Double :=
  (scaleCoefficient 8 (Double.ofInt coefficient) exponent).map fun x => if negative then -x else x

/-- Takes digits while the coefficient stays below `2⁶⁴`; says how many it took and leaves the rest. -/
def takeCoefficient (coefficient taken : Nat) : List Char → Nat × Nat × List Char
  | [] => (coefficient, taken, [])
  | c :: cs =>
    let next := coefficient * 10 + (c.toNat - '0'.toNat)
    if c.isDigit ∧ next < word64 then takeCoefficient next (taken + 1) cs else (coefficient, taken, c :: cs)

/-- An exponent beyond 32 bits is beyond every double. -/
def exponentLimit : Nat := twoPow 31

/-- The exponent part after its letter, and the value of the whole number. -/
def readExponent (negative : Bool) (coefficient : Nat) (start : Int) (cs : List Char) : Option (Json × List Char) :=
  let (down, cs) := Double.takeSign cs
  let ds := cs.takeWhile Char.isDigit
  let rest := cs.dropWhile Char.isDigit
  if ds = [] then none
  else
    let e := digitsValue ds
    let value :=
      if exponentLimit ≤ e then
        if coefficient ≠ 0 ∧ !down then none else some ⟨negative, 0⟩
      else toDouble negative coefficient (if down then start - e else start + e)
    value.map (.float ·, rest)

/-- What follows the digits of a double. -/
def readScale (negative : Bool) (coefficient : Nat) (exponent : Int) (cs : List Char) : Option (Json × List Char) :=
  match cs with
  | 'e' :: rest => readExponent negative coefficient exponent rest
  | 'E' :: rest => readExponent negative coefficient exponent rest
  | _ => (toDouble negative coefficient exponent).map (.float ·, cs)

/-- The digits after a point: at least one of them, those past 64 bits without effect. -/
def readFraction (negative : Bool) (coefficient : Nat) (exponent : Int) (cs : List Char) :
    Option (Json × List Char) :=
  let (coefficient, taken, rest) := takeCoefficient coefficient 0 cs
  let ignored := rest.takeWhile Char.isDigit
  if taken = 0 ∧ ignored = [] then none
  else readScale negative coefficient (exponent - taken) (rest.dropWhile Char.isDigit)

/-- A number without its sign. -/
def readMagnitude (negative : Bool) (cs : List Char) : Option (Json × List Char) :=
  let (coefficient, taken, rest) := takeCoefficient 0 0 cs
  let more := rest.takeWhile Char.isDigit
  let rest := rest.dropWhile Char.isDigit
  if taken = 0 then none
  else if cs.head? = some '0' ∧ 1 < taken + more.length then none
  else match rest with
    | '.' :: after => readFraction negative coefficient more.length after
    | 'e' :: after => readExponent negative coefficient more.length after
    | 'E' :: after => readExponent negative coefficient more.length after
    | _ =>
      if more ≠ [] then (toDouble negative coefficient more.length).map (.float ·, rest)
      else if !negative then some (.int coefficient, rest)
      else if coefficient = 0 ∨ twoPow 63 < coefficient then
        some (.float (-(Double.ofInt coefficient)), rest)
      else some (.int (-coefficient), rest)

def readNumber : Reader Json
  | '-' :: cs => readMagnitude true cs
  | cs => readMagnitude false cs

def hexUnit? (a b c d : Char) : Option Nat := do
  some (((← Text.hexDigit? a) * 16 + (← Text.hexDigit? b)) * 256 + (← Text.hexDigit? c) * 16 + (← Text.hexDigit? d))

/-- The character of a simple escape. -/
def simpleEscape? (c : Char) : Option Char :=
  if c = '"' ∨ c = '\\' ∨ c = '/' then some c
  else if c = 'b' then some '\x08'
  else if c = 'f' then some '\x0c'
  else if c = 'n' then some '\n'
  else if c = 'r' then some '\r'
  else if c = 't' then some '\t'
  else none

/-- The rest of a string after its opening quote. Surrogates come in pairs, and control characters are escaped. -/
def readStringBody : List Char → Option (List Char × List Char)
  | '"' :: cs => some ([], cs)
  | '\\' :: 'u' :: a :: b :: c :: d :: cs => do
    let unit ← hexUnit? a b c d
    if 0xd800 ≤ unit ∧ unit < 0xdc00 then
      match cs with
      | '\\' :: 'u' :: e :: f :: g :: h :: rest =>
        let low ← hexUnit? e f g h
        if 0xdc00 ≤ low ∧ low < 0xe000 then
          let (s, rest) ← readStringBody rest
          some (Char.ofNat (0x10000 + (unit - 0xd800) * 0x400 + (low - 0xdc00)) :: s, rest)
        else none
      | _ => none
    else if 0xdc00 ≤ unit ∧ unit < 0xe000 then none
    else
      let (s, rest) ← readStringBody cs
      some (Char.ofNat unit :: s, rest)
  | '\\' :: c :: cs => do
    let c ← simpleEscape? c
    let (s, rest) ← readStringBody cs
    some (c :: s, rest)
  | c :: cs =>
    if c.toNat < 32 ∨ c = '\\' then none
    else do
      let (s, rest) ← readStringBody cs
      some (c :: s, rest)
  | [] => none

def readString : Reader String
  | '"' :: cs => (readStringBody cs).map fun (s, rest) => (String.ofList s, rest)
  | _ => none

/-- The items of an array up to its closing bracket; `fuel` bounds their number. -/
def readItems (item : Reader Json) : Nat → Reader (List Json)
  | 0, _ => none
  | fuel + 1, cs => do
    let (j, rest) ← item (skipGap cs)
    match skipGap rest with
    | ',' :: more =>
      let (js, rest) ← readItems item fuel more
      some (j :: js, rest)
    | ']' :: more => some ([j], more)
    | _ => none

/-- The members of an object up to its closing brace; `fuel` bounds their number. -/
def readMembers (item : Reader Json) : Nat → Reader (List (String × Json))
  | 0, _ => none
  | fuel + 1, cs => do
    let (name, rest) ← readString (skipGap cs)
    match skipGap rest with
    | ':' :: rest =>
      let (j, rest) ← item (skipGap rest)
      match skipGap rest with
      | ',' :: more =>
        let (ms, rest) ← readMembers item fuel more
        some ((name, j) :: ms, rest)
      | c :: more => if c = '\x7d' then some ([(name, j)], more) else none
      | [] => none
    | _ => none

/-- A value with at most `levels` levels of brackets. -/
def readValue : Nat → Reader Json
  | levels, cs => match cs with
    | 'n' :: 'u' :: 'l' :: 'l' :: rest => some (.null, rest)
    | 't' :: 'r' :: 'u' :: 'e' :: rest => some (.bool true, rest)
    | 'f' :: 'a' :: 'l' :: 's' :: 'e' :: rest => some (.bool false, rest)
    | '"' :: _ => (readString cs).map fun (s, rest) => (.string s, rest)
    | '[' :: rest => match levels with
      | 0 => none
      | levels + 1 => match skipGap rest with
        | ']' :: rest => some (.array [], rest)
        | body => (readItems (readValue levels) body.length body).map fun (js, rest) => (.array js, rest)
    | c :: rest =>
      if c = '\x7b' then match levels with
        | 0 => none
        | levels + 1 => match skipGap rest with
          | [] => none
          | d :: more =>
            if d = '\x7d' then some (.object [], more)
            else (readMembers (readValue levels) more.length (d :: more)).map fun (ms, rest) => (.object ms, rest)
      else readNumber cs
    | [] => none

/-- One value and nothing else. -/
def read? (levels : Nat) (s : String) : Option Json := do
  let (j, rest) ← readValue levels (skipGap s.toList)
  if (skipGap rest).isEmpty then some j else none

/-- The levels of brackets a document may have. -/
def maxDepth : Nat := 127

end Cohort.Json
