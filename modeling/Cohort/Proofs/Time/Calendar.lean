import Cohort.Time.Calendar

/-!
# Dates of days

Every day has a date that the calendar has: no month is longer than it should be, and February is as long as its year
allows.
-/

namespace Cohort.Date

theorem isValid_iff {d : Date} :
    d.isValid = true ↔ 1 ≤ d.month ∧ d.month ≤ 12 ∧ 1 ≤ d.day ∧ d.day ≤ daysInMonth d.year d.month := by
  simp [isValid, and_assoc]

theorem isLeapYear_iff {year : Int} :
    isLeapYear year = true ↔ year % 4 = 0 ∧ (year % 100 ≠ 0 ∨ year % 400 = 0) := by
  simp only [isLeapYear, Bool.and_eq_true, Bool.or_eq_true, decide_eq_true_eq]

theorem daysInMonth_le (year month : Int) : daysInMonth year month ≤ 31 := by
  unfold daysInMonth
  split
  · split <;> omega
  · split <;> omega

/-- A year from March on that has a day more than others ends in February of a leap year. -/
theorem isLeapYear_of_long {day : Int} (hlow : 0 ≤ day) (hhigh : day < 146097)
    (hlong : day - daysBeforeYear (yearOf day) = 365) (period : Int) :
    isLeapYear (400 * period + yearOf day + 1) = true := by
  simp only [yearOf] at hlong ⊢
  rw [daysBeforeYear_add (by omega) (by omega) (by omega) (by omega)] at hlong
  generalize hcentury : min (day / 36524) 3 = century at *
  generalize hfour : (day - 36524 * century) / 1461 = four at *
  generalize hyear : min ((day - 36524 * century - 1461 * four) / 365) 3 = year at *
  have hlast : year = 3 := by omega
  have hbounds : 0 ≤ four ∧ four ≤ 24 := by omega
  -- only the last four years of a period are the last ones of a century that end in a leap year
  have hperiod : four = 24 → century = 3 := by omega
  subst hlast
  clear hcentury hfour hyear hlong
  have hquarter : (400 * period + (100 * century + 4 * four + 3) + 1) % 4 = 0 := by omega
  have hhundred : (400 * period + (100 * century + 4 * four + 3) + 1) % 100 ≠ 0 ∨
      (400 * period + (100 * century + 4 * four + 3) + 1) % 400 = 0 := by
    by_cases h : four = 24
    · right
      rw [h, hperiod h]
      omega
    · left
      omega
  exact isLeapYear_iff.2 ⟨hquarter, hhundred⟩

/-- The date of a day, which is counted from March on, in the year that begins then. -/
theorem isValid_of_rest {year rest : Int} (hlow : 0 ≤ rest) (hhigh : rest ≤ 365)
    (hleap : rest = 365 → isLeapYear (year + 1) = true) :
    isValid
      { year := year + if (5 * rest + 2) / 153 < 10 then 0 else 1
        month := if (5 * rest + 2) / 153 < 10 then (5 * rest + 2) / 153 + 3 else (5 * rest + 2) / 153 - 9
        day := rest - daysBefore ((5 * rest + 2) / 153) + 1 } = true := by
  generalize hmonth : (5 * rest + 2) / 153 = month
  have hcases : month = 11 ∨ month = 0 ∨ month = 1 ∨ month = 2 ∨ month = 3 ∨ month = 4 ∨ month = 5 ∨ month = 6 ∨
      month = 7 ∨ month = 8 ∨ month = 9 ∨ month = 10 := by omega
  rcases hcases with rfl | hcases
  · have hday : rest - daysBefore 11 + 1 ≤ if isLeapYear (year + 1) then 29 else 28 := by
      unfold daysBefore
      split
      · omega
      · rename_i hnot
        have hne : rest ≠ 365 := fun heq => hnot (hleap heq)
        omega
    have hfirst : 1 ≤ rest - daysBefore 11 + 1 := by
      unfold daysBefore
      omega
    simpa [isValid_iff, daysInMonth, hfirst] using hday
  · clear hleap
    rcases hcases with rfl | rfl | rfl | rfl | rfl | rfl | rfl | rfl | rfl | rfl | rfl <;>
      simp [isValid_iff, daysInMonth, daysBefore] <;> omega

/-- Every day has a date. -/
theorem isValid_ofDays (n : Int) : (ofDays n).isValid = true := by
  obtain ⟨-, -, hlow, hhigh⟩ := @daysBeforeYear_yearOf ((n + 719468) % 146097) (by omega) (by omega)
  exact isValid_of_rest hlow hhigh fun hlong => isLeapYear_of_long (by omega) (by omega) hlong _

end Cohort.Date
