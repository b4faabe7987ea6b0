/-!
# The calendar

Dates of the Gregorian calendar and their day numbers, counted from the first day of 1970. The years are taken to
begin in March, so that the day that only some of them have is their last one.
-/

namespace Cohort

structure Date where
  year : Int
  month : Int
  day : Int
  deriving DecidableEq, Inhabited, Repr

namespace Date

def isLeapYear (y : Int) : Bool := y % 4 = 0 && (y % 100 ≠ 0 || y % 400 = 0)

def daysInMonth (y m : Int) : Int :=
  if m = 2 then (if isLeapYear y then 29 else 28)
  else if m = 4 ∨ m = 6 ∨ m = 9 ∨ m = 11 then 30
  else 31

/-- Whether the calendar has the date. -/
def isValid (d : Date) : Bool :=
  1 ≤ d.month && d.month ≤ 12 && 1 ≤ d.day && d.day ≤ daysInMonth d.year d.month

/-- The days before a month, counted from March, in a year that begins then. -/
def daysBefore (month : Int) : Int := (153 * month + 2) / 5

/-- The days before a year of a period of 400 years. -/
def daysBeforeYear (year : Int) : Int := 365 * year + year / 4 - year / 100

/-- The days from 1970 to the date. -/
def toDays (d : Date) : Int :=
  let year := if d.month ≤ 2 then d.year - 1 else d.year
  let month := if d.month ≤ 2 then d.month + 9 else d.month - 3
  146097 * (year / 400) + daysBeforeYear (year % 400) + daysBefore month + d.day - 1 - 719468

/-- The year of a period of 400 years that a day of it falls into: its century, the four years in that, and the year
of those, of which the last is the longer one. -/
def yearOf (day : Int) : Int :=
  let century := min (day / 36524) 3
  let rest := day - 36524 * century
  let four := rest / 1461
  100 * century + 4 * four + min ((rest - 1461 * four) / 365) 3

/-- The date so many days after the first of 1970. -/
def ofDays (n : Int) : Date :=
  let day := (n + 719468) % 146097
  let year := yearOf day
  let rest := day - daysBeforeYear year
  let month := (5 * rest + 2) / 153
  { year := 400 * ((n + 719468) / 146097) + year + (if month < 10 then 0 else 1)
    month := if month < 10 then month + 3 else month - 9
    day := rest - daysBefore month + 1 }

theorem daysBeforeYear_add {century four year : Int} (h : 0 ≤ four) (h' : four ≤ 24) (hy : 0 ≤ year)
    (hy' : year ≤ 3) :
    daysBeforeYear (100 * century + 4 * four + year) = 36524 * century + 1461 * four + 365 * year := by
  have quarter : (100 * century + 4 * four + year) / 4 = 25 * century + four := by omega
  have hundred : (100 * century + 4 * four + year) / 100 = century := by omega
  simp only [daysBeforeYear, quarter, hundred]
  omega

/-- The year that is found for a day of a period of 400 years holds the day. -/
theorem daysBeforeYear_yearOf {day : Int} (lower : 0 ≤ day) (upper : day < 146097) :
    0 ≤ yearOf day ∧ yearOf day < 400 ∧ 0 ≤ day - daysBeforeYear (yearOf day) ∧
      day - daysBeforeYear (yearOf day) ≤ 365 := by
  simp only [yearOf]
  rw [daysBeforeYear_add (by omega) (by omega) (by omega) (by omega)]
  omega

theorem toDays_ofDays (n : Int) : (ofDays n).toDays = n := by
  obtain ⟨hy, hy', hr, hr'⟩ := @daysBeforeYear_yearOf ((n + 719468) % 146097) (by omega) (by omega)
  have year : (400 * ((n + 719468) / 146097) + yearOf ((n + 719468) % 146097)) % 400 =
    yearOf ((n + 719468) % 146097) := by omega
  have period : (400 * ((n + 719468) / 146097) + yearOf ((n + 719468) % 146097)) / 400 =
    (n + 719468) / 146097 := by omega
  by_cases h : (5 * ((n + 719468) % 146097 - daysBeforeYear (yearOf ((n + 719468) % 146097))) + 2) / 153 < 10
  · have late : ¬ (ofDays n).month ≤ 2 := by
      simp only [ofDays, if_pos h]
      omega
    simp only [toDays, if_neg late]
    simp only [ofDays, if_pos h, Int.add_zero, Int.add_sub_cancel, year, period]
    omega
  · have early : (ofDays n).month ≤ 2 := by
      simp only [ofDays, if_neg h]
      omega
    simp only [toDays, if_pos early]
    simp only [ofDays, if_neg h, Int.add_sub_cancel, Int.sub_add_cancel, year, period]
    omega

end Date

end Cohort
