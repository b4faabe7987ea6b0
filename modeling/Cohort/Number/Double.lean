import Cohort.Number.Power

/-!
# Double-precision numbers

A binary64 value is a sign and the 63 bits below it, read as one number: eleven bits of exponent over 52 bits of
fraction, so that larger magnitudes are larger values. The rationals enter through `Double.ofRatio`, which rounds
to the nearest value, to the even one of two nearest; that is the only arithmetic.
-/

namespace Cohort

/-- A binary64 value. Magnitudes above that of infinity are not numbers. -/
structure Double where
  negative : Bool
  magnitude : Nat
  deriving DecidableEq, Inhabited, Repr

namespace Double

/-- The magnitude of infinity: all exponent bits set, no fraction bit set. -/
def infiniteMagnitude : Nat := 0x7ff * twoPow 52

def isFinite (x : Double) : Bool := x.magnitude < infiniteMagnitude

def isNaN (x : Double) : Bool := infiniteMagnitude < x.magnitude

def isZero (x : Double) : Bool := x.magnitude == 0

def infinity (negative : Bool) : Double := ⟨negative, infiniteMagnitude⟩

def nan : Double := ⟨false, infiniteMagnitude + twoPow 51⟩

/-- The value with the other sign. -/
def neg (x : Double) : Double := { x with negative := !x.negative }

instance : Neg Double := ⟨neg⟩

/-- The sign is no part of finiteness. -/
@[simp] theorem isFinite_neg (x : Double) : (-x).isFinite = x.isFinite := rfl

@[simp] theorem neg_neg (x : Double) : - -x = x := by
  obtain ⟨negative, magnitude⟩ := x
  change Double.mk (!!negative) magnitude = _
  simp

def exponentField (x : Double) : Nat := x.magnitude / twoPow 52

def fraction (x : Double) : Nat := x.magnitude % twoPow 52

/-- A finite value is `coefficient * 2 ^ scale`, up to its sign. -/
def coefficient (x : Double) : Nat :=
  if x.exponentField = 0 then x.fraction else twoPow 52 + x.fraction

def scale (x : Double) : Int := max 1 (x.exponentField : Int) - 1075

/-- The size of a finite value as numerator and denominator. -/
def ratio (x : Double) : Nat × Nat :=
  if x.scale < 0 then (x.coefficient, twoPow (-x.scale).toNat) else (x.coefficient * twoPow x.scale.toNat, 1)

/-- `⌊num / den⌋` or the next integer, whichever is nearer, the even one in the middle. -/
def roundHalfEven (num den : Nat) : Nat :=
  let quotient := num / den
  let twice := 2 * (num % den)
  if twice < den then quotient else if den < twice then quotient + 1 else quotient + quotient % 2

/-- The ratio `num / den` in units of `2 ^ e`, as another ratio. -/
def scaled (num den : Nat) (e : Int) : Nat × Nat :=
  if e < 0 then (num * twoPow (-e).toNat, den) else (num, den * twoPow e.toNat)

/-- The exponent of the unit in the last place of the value that `num / den` rounds to. -/
def unitExponent (num den : Nat) : Int :=
  let e := max (-1074) ((num.log2 : Int) - den.log2 - 52)
  let (n, d) := scaled num den e
  if n / d < twoPow 52 then max (-1074) (e - 1) else e

/-- The nearest binary64 value to `num / den`, the even one of two. -/
def ofRatio (negative : Bool) (num den : Nat) : Double :=
  if num = 0 then ⟨negative, 0⟩
  else
    let e := unitExponent num den
    let (n, d) := scaled num den e
    ⟨negative, min infiniteMagnitude ((e + 1074).toNat * twoPow 52 + roundHalfEven n d)⟩

/-- The nearest binary64 value to an integer. -/
def ofInt (i : Int) : Double := ofRatio (i < 0) i.natAbs 1

/-- The nearest binary64 value to `digits * 10 ^ exponent`. Exponents beyond the range of the format are cut off
before any power is computed. -/
def ofDecimal (negative : Bool) (digits : Nat) (exponent : Int) : Double :=
  if digits = 0 then ⟨negative, 0⟩
  else if 310 < exponent then infinity negative
  else if exponent < -(400 + digits.log2 : Int) then ⟨negative, 0⟩
  else if exponent < 0 then ofRatio negative digits (tenPow (-exponent).toNat)
  else ofRatio negative (digits * tenPow exponent.toNat) 1

/-- The rounded product of two finite values. -/
def mul (x y : Double) : Double :=
  ofRatio (x.negative != y.negative) (x.ratio.1 * y.ratio.1) (x.ratio.2 * y.ratio.2)

/-- The rounded quotient of two finite values, the second of which is not zero. -/
def div (x y : Double) : Double :=
  ofRatio (x.negative != y.negative) (x.ratio.1 * y.ratio.2) (x.ratio.2 * y.ratio.1)

end Double

end Cohort
