import Cohort.Number.Double

/-!
# Decimal text of numbers

Reading a decimal numeral gives the nearest double. Writing a double takes the fewest digits that read back to it
and, of those, the nearest to its exact value. Positional notation serves magnitudes from `10⁻⁴` to `10¹⁶`; the
others have an exponent.
-/

namespace Cohort

/-- The value of a run of decimal digits. -/
def digitsValue (cs : List Char) : Nat := cs.foldl (fun n c => 10 * n + (c.toNat - '0'.toNat)) 0

namespace Double

/-- Twice the value and the two half-way points to its neighbours, over one denominator. -/
structure Interval where
  low : Nat
  value : Nat
  high : Nat
  den : Nat
  closed : Bool

/-- The numbers that round to a finite value other than zero. The gap below a power of two is half the gap above
it. -/
def roundingInterval (x : Double) : Interval :=
  let m := x.coefficient
  let narrow := x.fraction == 0 && 1 < x.exponentField
  let (up, den) := if x.scale < 2 then (1, twoPow (2 - x.scale).toNat) else (twoPow (x.scale - 2).toNat, 1)
  { low := (4 * m - if narrow then 1 else 2) * up
    value := 4 * m * up
    high := (4 * m + 2) * up
    den
    closed := m % 2 == 0 }

def Interval.contains (i : Interval) (num den : Nat) : Bool :=
  if i.closed then i.low * den ≤ num * i.den && num * i.den ≤ i.high * den
  else i.low * den < num * i.den && num * i.den < i.high * den

/-- The least `p` with `value < 10 ^ p`, found by stepping from a lower bound. -/
def decimalExponent (num den : Nat) : Int :=
  let start : Int := ((num.log2 : Int) - den.log2 - 1) * 30103 / 100000 - 1
  let below (p : Int) : Bool :=
    if p < 0 then num * tenPow (-p).toNat < den else num < den * tenPow p.toNat
  ((List.range 5).map fun k : Nat => start + k).find? below |>.getD (start + 5)

/-- The nearest multiple of `10 ^ e` in the interval, a tie going up. -/
def Interval.nearest? (i : Interval) (e : Int) : Option Nat :=
  let (num, den) := if e < 0 then (i.value * tenPow (-e).toNat, i.den) else (i.value, i.den * tenPow e.toNat)
  let below := num / den
  let hits (n : Nat) : Bool := if e < 0 then i.contains n (tenPow (-e).toNat) else i.contains (n * tenPow e.toNat) 1
  let upFirst : Bool := den ≤ 2 * (num % den)
  let (near, far) := if upFirst then (below + 1, below) else (below, below + 1)
  if hits near then some near else if hits far then some far else none

/-- The fewest digits that read back as the value: `digits * 10 ^ exponent`, for a finite value other than zero. -/
def shortest (x : Double) : Nat × Int :=
  let i := x.roundingInterval
  let p := decimalExponent i.value i.den
  let attempt (k : Nat) : Option (Nat × Int) := (i.nearest? (p - (k + 1))).map (·, p - (k + 1))
  ((List.range 17).findSome? attempt).getD (0, 0)

/-- Drops the zeros at the end of a coefficient. -/
def stripZeros (fuel digits : Nat) (exponent : Int) : Nat × Int :=
  match fuel with
  | 0 => (digits, exponent)
  | fuel + 1 => if digits % 10 = 0 then stripZeros fuel (digits / 10) (exponent + 1) else (digits, exponent)

def zeros (n : Nat) : List Char := List.replicate n '0'

/-- Digits with the decimal point `point` places from their left end. -/
def positional (ds : List Char) (point : Int) : List Char :=
  if point ≤ 0 then ['0', '.'] ++ zeros (-point).toNat ++ ds
  else
    let n := point.toNat
    if n < ds.length then ds.take n ++ '.' :: ds.drop n
    else ds ++ zeros (n - ds.length) ++ ['.', '0']

/-- Digits as one digit, a fraction and a power of ten. -/
def scientific (ds : List Char) (power : Int) : List Char :=
  let mantissa := match ds with
    | [] => ['0']
    | [d] => [d]
    | d :: rest => d :: '.' :: rest
  mantissa ++ 'e' :: (toString power).toList

/-- The text of a size other than zero. -/
def magnitudeText (x : Double) : List Char :=
  let (digits, exponent) := x.shortest
  let (digits, exponent) := stripZeros 20 digits exponent
  let ds := Nat.toDigits 10 digits
  let power := exponent + ds.length - 1
  if power < -4 ∨ 16 ≤ power then scientific ds power else positional ds (power + 1)

def signText (x : Double) : List Char := if x.negative then ['-'] else []

/-- The text of a number: `1.0`, `-0.0`, `0.0001`, `1e-5`, `1e16`, `inf`, `NaN`. -/
def text (x : Double) : String :=
  String.ofList <|
    if x.isNaN then "NaN".toList
    else x.signText ++
      if !x.isFinite then "inf".toList
      else if x.isZero then "0.0".toList
      else x.magnitudeText

/-- The text of a finite number without an exponent; whole numbers have no point. -/
def plainText (x : Double) : String :=
  String.ofList <| x.signText ++
    if x.isZero then ['0']
    else
      let (digits, exponent) := x.shortest
      let (digits, exponent) := stripZeros 20 digits exponent
      let ds := Nat.toDigits 10 digits
      if 0 ≤ exponent then ds ++ zeros exponent.toNat else positional ds (exponent + ds.length)

/-- An optional sign, then `none` for a minus. -/
def takeSign : List Char → Bool × List Char
  | '-' :: cs => (true, cs)
  | '+' :: cs => (false, cs)
  | cs => (false, cs)

/-- The exponent part of a numeral: nothing, or `e` with an optional sign and at least one digit. -/
def exponent? : List Char → Option Int
  | [] => some 0
  | e :: cs =>
    if e = 'e' ∨ e = 'E' then
      let (negative, ds) := takeSign cs
      if ds = [] ∨ !ds.all Char.isDigit then none
      else some (if negative then -(digitsValue ds : Int) else digitsValue ds)
    else none

/-- The nearest double to a decimal numeral: digits with an optional point, at least one digit in all, and an
optional exponent. `inf`, `infinity` and `nan` are numerals too. -/
def ofText? (s : String) : Option Double :=
  let (negative, cs) := takeSign s.toList
  let word := cs.map Char.toLower
  if word = "inf".toList ∨ word = "infinity".toList then some (infinity negative)
  else if word = "nan".toList then some { nan with negative }
  else
    let whole := cs.takeWhile Char.isDigit
    let rest := cs.dropWhile Char.isDigit
    let (part, rest) := match rest with
      | '.' :: more => (more.takeWhile Char.isDigit, more.dropWhile Char.isDigit)
      | _ => ([], rest)
    if whole = [] ∧ part = [] then none
    else (exponent? rest).map fun e => ofDecimal negative (digitsValue (whole ++ part)) (e - part.length)

end Double

end Cohort
