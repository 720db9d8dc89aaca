import Mathlib.Algebra.Order.Ring.Int
import Mathlib.Tactic.IntervalCases

/-!
# The Gregorian calendar

Days are numbered from the first of January 1970 on, as a clock counts them. `dayNumber`
says it the plain way, with years of 365 or 366 days and a table of the months.
`civilFromDays` finds the date of a day: it begins its years in March, so that the leap day is
the last one, and counts them in eras of 400 years, in which the calendar repeats. The two fit
(`dayNumber_civilFromDays`). Months are counted from 0.
-/

set_option autoImplicit false

namespace Msm8660

/-- A year with a leap day. -/
def IsLeap (year : ℤ) : Prop := year % 4 = 0 ∧ (year % 100 ≠ 0 ∨ year % 400 = 0)

instance (year : ℤ) : Decidable (IsLeap year) := inferInstanceAs (Decidable (_ ∧ _))

/-- The number of the first day of a year. -/
def firstOfYear (year : ℤ) : ℤ :=
  365 * (year - 1970) + (year - 1) / 4 - (year - 1) / 100 + (year - 1) / 400 - 477

/-- The days in front of a month, in a year without leap day. -/
def monthStart : List ℤ := [0, 31, 59, 90, 120, 151, 181, 212, 243, 273, 304, 334]

/-- The number of a day. -/
def dayNumber (year month day : ℤ) : ℤ :=
  firstOfYear year + monthStart.getD month.toNat 0 +
    (if 2 ≤ month ∧ IsLeap year then 1 else 0) + (day - 1)

example : dayNumber 1970 0 1 = 0 := by decide
example : dayNumber 2000 1 29 = 11016 := by decide

/-- Years have 365 days, or one more. -/
theorem firstOfYear_succ (year : ℤ) :
    firstOfYear (year + 1) = firstOfYear year + if IsLeap year then 366 else 365 := by
  by_cases leap : IsLeap year
  · rw [if_pos leap]
    unfold firstOfYear
    unfold IsLeap at leap
    omega
  · rw [if_neg leap]
    unfold firstOfYear
    unfold IsLeap at leap
    omega

theorem firstOfYear_mono {earlier later : ℤ} (le : earlier ≤ later) :
    firstOfYear earlier ≤ firstOfYear later := by
  refine monotone_int_of_le_succ (fun year => ?_) le
  rw [firstOfYear_succ]
  split <;> omega

/-- The days of a year lie between its first day and that of the next. -/
theorem dayNumber_bounds (year : ℤ) {month day : ℤ} (lowMonth : 0 ≤ month) (highMonth : month ≤ 11)
    (lowDay : 1 ≤ day) (highDay : day ≤ 31) :
    firstOfYear year ≤ dayNumber year month day ∧
      dayNumber year month day < firstOfYear (year + 1) := by
  have start : 0 ≤ monthStart.getD month.toNat 0 ∧ monthStart.getD month.toNat 0 ≤ 334 := by
    interval_cases month <;> decide
  rw [firstOfYear_succ, dayNumber]
  by_cases leap : IsLeap year
  · rw [if_pos leap]
    split <;> omega
  · have none : ¬ (2 ≤ month ∧ IsLeap year) := fun both => leap both.2
    rw [if_neg leap, if_neg none]
    omega

/-- A date. -/
structure CivilDate where
  year : ℤ
  month : ℤ
  day : ℤ
deriving DecidableEq

/-! ## Years from March on -/

/-- The year of a day of an era. -/
def yearOfEra (dayOfEra : ℤ) : ℤ :=
  (dayOfEra - dayOfEra / 1460 + dayOfEra / 36524 - dayOfEra / 146096) / 365

/-- The day of this year. -/
def dayOfYear (dayOfEra : ℤ) : ℤ :=
  dayOfEra - (365 * yearOfEra dayOfEra + yearOfEra dayOfEra / 4 - yearOfEra dayOfEra / 100)

/-- The date of a day. -/
def civilFromDays (days : ℤ) : CivilDate :=
  let era := (days + 719468) / 146097
  let dayOfEra := (days + 719468) % 146097
  let month := (5 * dayOfYear dayOfEra + 2) / 153
  { year := yearOfEra dayOfEra + era * 400 + (if month < 10 then 0 else 1)
    month := if month < 10 then month + 2 else month - 10
    day := dayOfYear dayOfEra - (153 * month + 2) / 5 + 1 }

/-- A day of an era is in one of its 400 years. -/
theorem yearOfEra_bounds {dayOfEra : ℤ} (nonneg : 0 ≤ dayOfEra) (below : dayOfEra < 146097) :
    0 ≤ yearOfEra dayOfEra ∧ yearOfEra dayOfEra < 400 ∧
      0 ≤ dayOfYear dayOfEra ∧ dayOfYear dayOfEra ≤ 365 := by
  unfold dayOfYear
  obtain ⟨year, same⟩ : ∃ year, year = yearOfEra dayOfEra := ⟨_, rfl⟩
  rw [← same]
  rw [yearOfEra] at same
  obtain ⟨century, ofCentury⟩ : ∃ century, century = dayOfEra / 36524 := ⟨_, rfl⟩
  obtain ⟨last, ofLast⟩ : ∃ last, last = dayOfEra / 146096 := ⟨_, rfl⟩
  obtain ⟨leapYears, ofLeap⟩ : ∃ leapYears, leapYears = dayOfEra / 1460 := ⟨_, rfl⟩
  rw [← ofCentury, ← ofLast, ← ofLeap] at same
  have lowCentury : 0 ≤ century := by omega
  have highCentury : century ≤ 4 := by omega
  have lowLast : 0 ≤ last := by omega
  have highLast : last ≤ 1 := by omega
  -- the year is next to four times the number of leap years before it
  obtain ⟨offset, shifted, low, high⟩ :
      ∃ offset, year = 4 * leapYears + offset ∧ -1 ≤ offset ∧ offset ≤ 3 :=
    ⟨year - 4 * leapYears, by omega, by omega, by omega⟩
  subst shifted
  interval_cases century <;> interval_cases last <;> interval_cases offset <;> omega

/-- What is known of a day of the calendar. -/
theorem civilFromDays_cases (days : ℤ) :
    ∃ era year dayInYear month : ℤ, days + 719468 =
        era * 146097 + (365 * year + year / 4 - year / 100) + dayInYear ∧
      0 ≤ year ∧ year < 400 ∧ 0 ≤ dayInYear ∧ dayInYear ≤ 365 ∧
      month = (5 * dayInYear + 2) / 153 ∧
      civilFromDays days =
        { year := year + era * 400 + (if month < 10 then 0 else 1)
          month := if month < 10 then month + 2 else month - 10
          day := dayInYear - (153 * month + 2) / 5 + 1 } := by
  have bounds := yearOfEra_bounds (Int.emod_nonneg (days + 719468) (by decide : (146097 : ℤ) ≠ 0))
    (Int.emod_lt_of_pos (days + 719468) (by decide : (0 : ℤ) < 146097))
  refine ⟨(days + 719468) / 146097, yearOfEra ((days + 719468) % 146097),
    dayOfYear ((days + 719468) % 146097), _, ?_, bounds.1, bounds.2.1, bounds.2.2.1,
    bounds.2.2.2, rfl, rfl⟩
  rw [dayOfYear]
  omega

/-- The table of the months and their lengths from March on agree. -/
theorem monthStart_march {month : ℤ} (low : 0 ≤ month) (high : month ≤ 11) :
    monthStart.getD (if month < 10 then month + 2 else month - 10).toNat 0 =
      (153 * month + 2) / 5 + if month < 10 then 59 else -306 := by
  interval_cases month <;> rfl

/-- **The date of a day is the date with this number.** -/
theorem dayNumber_civilFromDays (days : ℤ) :
    dayNumber (civilFromDays days).year (civilFromDays days).month (civilFromDays days).day =
      days := by
  obtain ⟨era, year, dayInYear, month, split, lowYear, highYear, lowDay, highDay, ofMonth, date⟩ :=
    civilFromDays_cases days
  rw [date]
  have lowMonth : 0 ≤ month := by omega
  have highMonth : month ≤ 11 := by omega
  dsimp only
  rw [dayNumber, monthStart_march lowMonth highMonth, firstOfYear]
  by_cases early : month < 10
  · -- the leap day is behind us, in the same year
    have behind : 2 ≤ month + 2 := by omega
    simp only [if_pos early, behind, true_and]
    by_cases leap : IsLeap (year + era * 400 + 0)
    · rw [if_pos leap]
      unfold IsLeap at leap
      omega
    · rw [if_neg leap]
      unfold IsLeap at leap
      omega
  · have ahead : ¬ 2 ≤ month - 10 := by omega
    simp only [if_neg early, ahead, false_and, if_false]
    omega

/-- Months and days of a date are in range. -/
theorem civilFromDays_range (days : ℤ) :
    0 ≤ (civilFromDays days).month ∧ (civilFromDays days).month ≤ 11 ∧
      1 ≤ (civilFromDays days).day ∧ (civilFromDays days).day ≤ 31 := by
  obtain ⟨era, year, dayInYear, month, -, -, -, lowDay, highDay, ofMonth, date⟩ :=
    civilFromDays_cases days
  rw [date]
  have lowMonth : 0 ≤ month := by omega
  have highMonth : month ≤ 11 := by omega
  dsimp only
  refine ⟨?_, ?_, ?_, ?_⟩
  · split <;> omega
  · split <;> omega
  · omega
  · omega

end Msm8660
