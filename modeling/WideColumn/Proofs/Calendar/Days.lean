import WideColumn.Calendar.Date

/-! # Dates and days

The date of a day is a date that the calendar has, and its day is the day. An era of 400 years is
cut into centuries, spans of four years, years and days, so that a day of the era is a sum; the
quotients that make up a date are read off that sum. -/

namespace WideColumn.Calendar

/-- A day of an era by century, span of four years, year and day of the year, all from zero on. Only
the last year of a span has a day 365, and the last span of a century only in the last century. -/
structure DayOfEra where
  century : Int
  span : Int
  year : Int
  day : Int
  century_range : 0 ≤ century ∧ century ≤ 3
  span_range : 0 ≤ span ∧ span ≤ 24
  year_range : 0 ≤ year ∧ year ≤ 3
  day_range : 0 ≤ day ∧ day ≤ 365
  leap_day : day = 365 → year = 3 ∧ (span = 24 → century = 3)

namespace DayOfEra

/-- The days of the era that are over. -/
def toInt (d : DayOfEra) : Int := 36524 * d.century + 1461 * d.span + 365 * d.year + d.day

/-- The years of the era that are over. -/
def yearOfEra (d : DayOfEra) : Int := 100 * d.century + 4 * d.span + d.year

theorem yearOfEra_range (d : DayOfEra) : 0 ≤ d.yearOfEra ∧ d.yearOfEra ≤ 399 := by
  obtain ⟨century, span, year, day, hc, hs, hy, hd, hl⟩ := d
  simp only [yearOfEra]
  omega

/-- The leap days of the years that are over. -/
theorem leapDays (d : DayOfEra) :
    d.yearOfEra / 4 - d.yearOfEra / 100 = 24 * d.century + d.span := by
  obtain ⟨century, span, year, day, hc, hs, hy, hd, hl⟩ := d
  simp only [yearOfEra]
  omega

/-- Every day of an era has its parts. -/
theorem exists_toInt_eq {n : Int} (h : 0 ≤ n ∧ n < 146097) : ∃ d : DayOfEra, d.toInt = n := by
  -- The last day of an era, a last span or a last year is one more than the quotient allows.
  obtain ⟨c, hc, hn⟩ : ∃ c : Int, (0 ≤ c ∧ c ≤ 3) ∧ 0 ≤ n - 36524 * c ∧
      (n - 36524 * c < 36524 ∨ c = 3 ∧ n - 36524 * c = 36524) :=
    ⟨min (n / 36524) 3, by omega, by omega⟩
  obtain ⟨r, hr⟩ : ∃ r, r = n - 36524 * c := ⟨_, rfl⟩
  obtain ⟨s, hs⟩ : ∃ s, s = r / 1461 := ⟨_, rfl⟩
  obtain ⟨t, ht⟩ : ∃ t, t = r - 1461 * s := ⟨_, rfl⟩
  obtain ⟨y, hy, hd⟩ : ∃ y : Int, (0 ≤ y ∧ y ≤ 3) ∧ 0 ≤ t - 365 * y ∧
      (t - 365 * y < 365 ∨ y = 3 ∧ t - 365 * y = 365) :=
    ⟨min (t / 365) 3, by omega, by omega⟩
  refine ⟨⟨c, s, y, t - 365 * y, hc, ?_, hy, ?_, ?_⟩, ?_⟩
  · omega
  · omega
  · omega
  · simp only [toInt]
    omega

/-- The quotient of days and the length of a year, corrected by the leap days, is the year. -/
theorem yearOfEra_toInt (d : DayOfEra) :
    (d.toInt - d.toInt / 1460 + d.toInt / 36524 - d.toInt / 146096) / 365 = d.yearOfEra := by
  obtain ⟨century, span, year, day, hc, hs, hy, hd, hl⟩ := d
  simp only [toInt, yearOfEra]
  generalize hn : 36524 * century + 1461 * span + 365 * year + day = n
  have hfour : n / 1460 = 25 * century + span ∧ 24 * century + span + 365 * year + day < 1460 ∨
      n / 1460 = 25 * century + span + 1 ∧ 1460 ≤ 24 * century + span + 365 * year + day := by
    omega
  have hend : n < 36524 * century + 36524 ∨ n = 146096 ∧ century = 3 := by omega
  have hcentury : n / 36524 - n / 146096 = century := by
    rcases hend with hend | ⟨rfl, rfl⟩
    · have hstart : 36524 * century ≤ n := by omega
      have hquotient : n / 36524 = century := by omega
      omega
    · rfl
  omega

theorem dayOfYear_toInt (d : DayOfEra) :
    d.toInt - (365 * d.yearOfEra + d.yearOfEra / 4 - d.yearOfEra / 100) = d.day := by
  have hleap := d.leapDays
  simp only [toInt, yearOfEra] at *
  omega

/-! ## Months -/

/-- The months of the year that are over, from March on. -/
def month (d : DayOfEra) : Int := (5 * d.day + 2) / 153

/-- The day of the month. -/
def dayOfMonth (d : DayOfEra) : Int := d.day - (153 * d.month + 2) / 5 + 1

theorem month_range (d : DayOfEra) : 0 ≤ d.month ∧ d.month ≤ 11 := by
  have hday := d.day_range
  simp only [month]
  omega

/-- The date of a day of an era. -/
def date (era : Int) (d : DayOfEra) : Date :=
  if d.month < 10 then ⟨d.yearOfEra + era * 400, d.month + 3, d.dayOfMonth⟩
  else ⟨d.yearOfEra + era * 400 + 1, d.month - 9, d.dayOfMonth⟩

/-- The months from March on have 31 and 30 days by turns, beginning anew in August; February has
what is left. -/
theorem dayOfMonth_range (d : DayOfEra) : 1 ≤ d.dayOfMonth ∧
    d.dayOfMonth ≤ if d.month = 11 then d.day - 336 else
      if d.month = 1 ∨ d.month = 3 ∨ d.month = 6 ∨ d.month = 8 then 30 else 31 := by
  have hday := d.day_range
  simp only [dayOfMonth, month]
  omega

/-- The year that begins with January is a leap year where February has a day 29. -/
theorem isLeap_of_day (d : DayOfEra) (era : Int) (h : d.day = 365) :
    isLeap (d.yearOfEra + era * 400 + 1) = true := by
  obtain ⟨hyear, hspan⟩ := d.leap_day h
  have hrange := d.span_range
  simp only [isLeap, Bool.and_eq_true, Bool.or_eq_true, decide_eq_true_eq]
  simp only [yearOfEra]
  omega

/-- In February there is room for what is left of the year. -/
theorem dayOfMonth_le_february (d : DayOfEra) (era : Int) (h : d.month = 11) :
    d.dayOfMonth ≤ monthLength (d.yearOfEra + era * 400 + 1) (d.month - 9) := by
  have hday := d.day_range
  have hle := d.dayOfMonth_range.2
  rw [if_pos h] at hle
  rw [h, monthLength, if_pos (show (11 - 9 : Int) = 2 by decide)]
  by_cases hlast : d.day = 365
  · rw [d.isLeap_of_day era hlast, if_pos rfl]
    omega
  · split <;> omega

theorem valid_date (era : Int) (d : DayOfEra) : (d.date era).Valid := by
  have hmonth := d.month_range
  obtain ⟨hlow, hhigh⟩ := d.dayOfMonth_range
  rw [date]
  split
  · next hspring =>
    refine ⟨?_, ?_, hlow, ?_⟩
    · show 1 ≤ d.month + 3
      omega
    · show d.month + 3 ≤ 12
      omega
    · simp only [monthLength]
      omega
  · next hwinter =>
    refine ⟨?_, ?_, hlow, ?_⟩
    · show 1 ≤ d.month - 9
      omega
    · show d.month - 9 ≤ 12
      omega
    · by_cases hfebruary : d.month = 11
      · exact d.dayOfMonth_le_february era hfebruary
      · simp only [monthLength]
        omega

theorem toDays_date (era : Int) (d : DayOfEra) :
    (d.date era).toDays = era * 146097 + d.toInt - 719468 := by
  have hmonth := d.month_range
  have hyear := d.yearOfEra_range
  have hday := d.dayOfYear_toInt
  have hquotient : (d.yearOfEra + era * 400) / 400 = era := by omega
  have hremainder : (d.yearOfEra + era * 400) % 400 = d.yearOfEra := by omega
  rw [date]
  split
  · next hspring =>
    have hlate : ¬d.month + 3 ≤ 2 := by omega
    simp only [Date.toDays, if_neg hlate, hquotient, hremainder, dayOfMonth, Int.add_sub_cancel]
    omega
  · next hwinter =>
    have hearly : d.month - 9 ≤ 2 := by omega
    simp only [Date.toDays, if_pos hearly, hquotient, hremainder, dayOfMonth, Int.add_sub_cancel,
      Int.sub_add_cancel]
    omega

end DayOfEra

namespace Date

/-- The quotients of a day are those of the day of its era. -/
theorem exists_ofDays_eq (days : Int) :
    ∃ era d, days = era * 146097 + DayOfEra.toInt d - 719468 ∧ ofDays days = d.date era := by
  obtain ⟨d, hd⟩ := @DayOfEra.exists_toInt_eq ((days + 719468) % 146097) (by omega)
  refine ⟨(days + 719468) / 146097, d, by omega, ?_⟩
  simp only [ofDays, ← hd, DayOfEra.yearOfEra_toInt, DayOfEra.dayOfYear_toInt]
  rfl

/-- The date of a day is one that the calendar has. -/
theorem valid_ofDays (days : Int) : (ofDays days).Valid := by
  obtain ⟨era, d, -, hdate⟩ := exists_ofDays_eq days
  rw [hdate]
  exact d.valid_date era

/-- **Days are counted right:** the day of the date of a day is the day. -/
theorem toDays_ofDays (days : Int) : (ofDays days).toDays = days := by
  obtain ⟨era, d, hdays, hdate⟩ := exists_ofDays_eq days
  rw [hdate, d.toDays_date, hdays]

end Date

end WideColumn.Calendar
