import Cohort.Time.Calendar

/-!
# Instants

A point in time is a number of seconds since the beginning of 1970 and a number of nanoseconds after that second. A
second that is followed by a leap second has room for two seconds of them. Instants are written in the form that
data carries, with as many digits after the point as it takes in groups of three, and in the form that queries
carry, which always has three.
-/

namespace Cohort

structure Instant where
  seconds : Int
  nanos : Nat
  deriving DecidableEq, Inhabited, Repr

namespace Instant

def secondsPerDay : Int := 86400

def nanosPerSecond : Nat := 1000000000

def date (t : Instant) : Date := Date.ofDays (t.seconds / secondsPerDay)

/-- The seconds since midnight. -/
def timeOfDay (t : Instant) : Nat := (t.seconds % secondsPerDay).toNat

/-- A number with zeros in front, up to the given width. -/
def padded (width n : Nat) : String :=
  let digits := toString n
  String.ofList (List.replicate (width - digits.length) '0') ++ digits

/-- Years with more or fewer than four digits have a sign. -/
def yearText (year : Int) : String :=
  if 0 ≤ year ∧ year ≤ 9999 then padded 4 year.toNat
  else (if year < 0 then "-" else "+") ++ padded 4 year.natAbs

def dateText (t : Instant) : String :=
  yearText t.date.year ++ "-" ++ padded 2 t.date.month.toNat ++ "-" ++ padded 2 t.date.day.toNat

/-- Hours, minutes and seconds; the latter are 60 in a leap second. -/
def clockText (t : Instant) : String :=
  let s := t.timeOfDay
  padded 2 (s / 3600) ++ ":" ++ padded 2 (s / 60 % 60) ++ ":" ++ padded 2 (s % 60 + t.nanos / nanosPerSecond)

def fractionText (nanos : Nat) : String :=
  if nanos = 0 then ""
  else if nanos % 1000000 = 0 then "." ++ padded 3 (nanos / 1000000)
  else if nanos % 1000 = 0 then "." ++ padded 6 (nanos / 1000)
  else "." ++ padded 9 nanos

/-- The text of the instant in data. -/
def text (t : Instant) : String :=
  t.dateText ++ "T" ++ t.clockText ++ fractionText (t.nanos % nanosPerSecond) ++ "Z"

/-- The text of the instant in queries, in whole milliseconds. -/
def queryText (t : Instant) : String :=
  t.dateText ++ " " ++ t.clockText ++ "." ++ padded 3 (t.nanos % nanosPerSecond / 1000000)

end Instant

end Cohort
