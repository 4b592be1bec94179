import Mathlib.Tactic.IntervalCases
import OfferDispatch.Time.Instant

/-!
# The calendar

Days are numbered by adding up the years, months and days before them, and found again by taking the
number apart. Both count years from March. In an era of four hundred years, a day has its place by
century, by leap cycle of four years, by year and by day, and its number in the era is linear in
these. So what the number of a day says of its year is linear arithmetic.

Every number is that of a proper day, and between the first day and the last that instants can fall
on, the year is one that instants can fall into.
-/

namespace OfferDispatch.Instant

/-! ## Eras -/

/-- The place of a day in an era: the century, the leap cycle in the century, the year in the leap
cycle and the day in the year, each of them counted from zero. -/
structure EraDay where
  century : Int
  cycle : Int
  year : Int
  day : Int

namespace EraDay

/-- Days since the beginning of the era. -/
def number (p : EraDay) : Int := 36524 * p.century + 1461 * p.cycle + 365 * p.year + p.day

def yearOfEra (p : EraDay) : Int := 100 * p.century + 4 * p.cycle + p.year

/-- The last year of a leap cycle has a day more, unless it is also the last one of a century other
than the last. -/
structure IsProper (p : EraDay) : Prop where
  century : 0 ≤ p.century ∧ p.century ≤ 3
  cycle : 0 ≤ p.cycle ∧ p.cycle ≤ 24
  year : 0 ≤ p.year ∧ p.year ≤ 3
  day : 0 ≤ p.day ∧ p.day ≤ 365
  leap : p.day = 365 → p.year = 3 ∧ (p.cycle < 24 ∨ p.century = 3)

/-- Every day of an era has a place in it. -/
theorem exists_of_lt {n : Int} (first : 0 ≤ n) (last : n < 146097) :
    ∃ p : EraDay, p.IsProper ∧ p.number = n := by
  -- The last day of the era and that of a leap cycle are one more than the quotients allow for.
  by_cases endsEra : n = 146096
  · subst endsEra
    exact ⟨⟨3, 24, 3, 365⟩, ⟨by decide, by decide, by decide, by decide, by decide⟩, rfl⟩
  by_cases endsCycle : n % 36524 % 1461 = 1460
  · have early : n % 36524 / 1461 < 24 := by omega
    refine ⟨⟨n / 36524, n % 36524 / 1461, 3, 365⟩,
      ⟨?_, ?_, ?_, ?_, fun _ => ⟨rfl, .inl early⟩⟩, ?_⟩
    all_goals simp only [number]
    all_goals omega
  · refine ⟨⟨n / 36524, n % 36524 / 1461, n % 36524 % 1461 / 365, n % 36524 % 1461 % 365⟩,
      ⟨?_, ?_, ?_, ?_, ?_⟩, ?_⟩
    all_goals simp only [number]
    all_goals omega

variable {p : EraDay}

/-- The year can be told from the number: leap days up to it are taken off first. -/
theorem IsProper.yearOfEra_eq (h : p.IsProper) :
    (p.number - p.number / 1460 + p.number / 36524 - p.number / 146096) / 365 = p.yearOfEra := by
  obtain ⟨century, cycle, year, day, leap⟩ := h
  have number : p.number = 36524 * p.century + 1461 * p.cycle + 365 * p.year + p.day := rfl
  rw [yearOfEra]
  by_cases endsEra : p.number = 146096
  · rw [endsEra]
    omega
  · have inEra : p.number / 146096 = 0 := by omega
    have inCentury : p.number / 36524 = p.century := by omega
    rw [inEra, inCentury]
    omega

/-- What is left of the number when the years are taken off is the day of the year. -/
theorem IsProper.day_eq (h : p.IsProper) :
    p.number - (365 * p.yearOfEra + p.yearOfEra / 4 - p.yearOfEra / 100) = p.day := by
  obtain ⟨century, cycle, year, day, leap⟩ := h
  rw [number, yearOfEra]
  omega

end EraDay

/-! ## Months -/

structure Day.IsProper (d : Day) : Prop where
  month : 1 ≤ d.month ∧ d.month ≤ 12
  day : 1 ≤ d.day ∧ d.day ≤ daysInMonth d.year d.month

/-- The month of a day of the year, counted from March and from zero. -/
def monthFromMarch (dayOfYear : Int) : Int := (5 * dayOfYear + 2) / 153

/-- The month of the calendar that is this one counted from March. -/
def calendarMonth (month : Int) : Int := if month < 10 then month + 3 else month - 9

/-- Months begin so many days after March does, the first of them being number zero. -/
def daysBefore (month : Int) : Int := (153 * month + 2) / 5

/-- Up to January a month lasts until the next one begins. -/
theorem daysInMonth_calendarMonth (year : Int) {month : Int} (first : 0 ≤ month)
    (last : month ≤ 10) :
    (daysInMonth year (calendarMonth month).toNat : Int) =
      daysBefore (month + 1) - daysBefore month := by
  interval_cases month <;> rfl

/-- A day of the year has a month, and it lies between the beginnings of this and the next. -/
theorem EraDay.IsProper.months {p : EraDay} (h : p.IsProper) :
    0 ≤ monthFromMarch p.day ∧ monthFromMarch p.day ≤ 11 ∧
      daysBefore (monthFromMarch p.day) ≤ p.day ∧
      p.day < daysBefore (monthFromMarch p.day + 1) := by
  obtain ⟨-, -, -, day, -⟩ := h
  rw [daysBefore, daysBefore, monthFromMarch]
  omega

theorem EraDay.IsProper.years {p : EraDay} (h : p.IsProper) :
    0 ≤ p.yearOfEra ∧ p.yearOfEra ≤ 399 := by
  obtain ⟨century, cycle, year, -, -⟩ := h
  rw [EraDay.yearOfEra]
  omega

/-- A year that has one day more, counted from March, ends with the February of a leap year. -/
theorem EraDay.IsProper.isLeap {p : EraDay} (h : p.IsProper) (last : p.day = 365) (era : Int) :
    Instant.isLeap (p.yearOfEra + era * 400 + 1) = true := by
  obtain ⟨century, cycle, year, -, leap⟩ := h
  obtain ⟨endsCycle, century'⟩ := leap last
  have inCycle : (p.yearOfEra + era * 400 + 1) % 4 = 0 := by
    rw [EraDay.yearOfEra]
    omega
  have inCentury : (p.yearOfEra + era * 400 + 1) % 100 ≠ 0 ∨
      (p.yearOfEra + era * 400 + 1) % 400 = 0 := by
    rw [EraDay.yearOfEra]
    omega
  simpa [Instant.isLeap, inCycle] using inCentury

/-! ## Days and their numbers -/

/-- Every number is that of a day in some era. -/
theorem exists_eraDay (n : Int) :
    ∃ (p : EraDay) (era : Int), p.IsProper ∧ n = 146097 * era + p.number - 719468 := by
  obtain ⟨p, proper, number⟩ :=
    EraDay.exists_of_lt (n := (n + 719468) % 146097) (by omega) (by omega)
  exact ⟨p, (n + 719468) / 146097, proper, by omega⟩

/-- Where a day of an era is found in the calendar. -/
theorem ofNumber_eq {p : EraDay} (h : p.IsProper) (era : Int) :
    Day.ofNumber (146097 * era + p.number - 719468) =
      ⟨if calendarMonth (monthFromMarch p.day) ≤ 2 then p.yearOfEra + era * 400 + 1
          else p.yearOfEra + era * 400,
        (calendarMonth (monthFromMarch p.day)).toNat,
        (p.day - daysBefore (monthFromMarch p.day) + 1).toNat⟩ := by
  have inEra : 0 ≤ p.number ∧ p.number < 146097 := by
    obtain ⟨century, cycle, year, day, leap⟩ := h
    rw [EraDay.number]
    omega
  have whichEra : (146097 * era + p.number - 719468 + 719468) / 146097 = era := by omega
  have dayOfEra : (146097 * era + p.number - 719468 + 719468) % 146097 = p.number := by omega
  simp only [Day.ofNumber, whichEra, dayOfEra, h.yearOfEra_eq, h.day_eq]
  rfl

/-- The day found under a number has this number. -/
theorem Day.number_ofNumber (n : Int) : (Day.ofNumber n).number = n := by
  obtain ⟨p, era, proper, rfl⟩ := exists_eraDay n
  obtain ⟨first, last, begun, -⟩ := proper.months
  have years := proper.years
  have inYear := proper.day_eq
  rw [ofNumber_eq proper, Day.number, calendarMonth]
  rw [daysBefore] at *
  by_cases early : monthFromMarch p.day < 10
  · have later : ¬ monthFromMarch p.day + 3 ≤ 2 := by omega
    have later' : ¬ (monthFromMarch p.day + 3).toNat ≤ 2 := by omega
    have fromMarch : ((monthFromMarch p.day + 3).toNat + 9 : Int) % 12 = monthFromMarch p.day := by
      omega
    simp only [if_pos early, if_neg later, if_neg later', fromMarch]
    omega
  · have newYear : monthFromMarch p.day - 9 ≤ 2 := by omega
    have newYear' : (monthFromMarch p.day - 9).toNat ≤ 2 := by omega
    have fromMarch : ((monthFromMarch p.day - 9).toNat + 9 : Int) % 12 = monthFromMarch p.day := by
      omega
    simp only [if_neg early, if_pos newYear, if_pos newYear', fromMarch]
    omega

/-- What is found under a number is a day that the calendar has. -/
theorem Day.isProper_ofNumber (n : Int) : (Day.ofNumber n).IsProper := by
  obtain ⟨p, era, proper, rfl⟩ := exists_eraDay n
  obtain ⟨first, last, begun, goes_on⟩ := proper.months
  rw [ofNumber_eq proper]
  refine ⟨?_, ?_⟩
  · simp only [calendarMonth]
    split <;> omega
  by_cases february : monthFromMarch p.day = 11
  · -- How long February lasts depends on the year, and its twenty-ninth on where the year ends.
    have short : 28 ≤ daysInMonth (p.yearOfEra + era * 400 + 1) 2 := by
      simp only [daysInMonth]
      split <;> omega
    have long (leapDay : p.day = 365) :
        daysInMonth (p.yearOfEra + era * 400 + 1) 2 = 29 := by
      simp only [daysInMonth, proper.isLeap leapDay era, if_true]
    obtain ⟨-, day⟩ := proper.day
    rw [february] at begun ⊢
    change 1 ≤ (p.day - 337 + 1).toNat ∧
      (p.day - 337 + 1).toNat ≤ daysInMonth (p.yearOfEra + era * 400 + 1) 2
    change 337 ≤ p.day at begun
    omega
  · have earlier : monthFromMarch p.day ≤ 10 := by omega
    simp only
    split
    · have length := daysInMonth_calendarMonth (p.yearOfEra + era * 400 + 1) first earlier
      omega
    · have length := daysInMonth_calendarMonth (p.yearOfEra + era * 400) first earlier
      omega

/-- Instants fall into years of their range. -/
theorem Day.year_ofNumber_mem {n : Int} (first : dayRange.1 ≤ n) (last : n ≤ dayRange.2) :
    yearRange.1 ≤ (Day.ofNumber n).year ∧ (Day.ofNumber n).year ≤ yearRange.2 := by
  have range : dayRange = (-96465292, 95026236) := rfl
  rw [range] at first last
  obtain ⟨p, era, proper, rfl⟩ := exists_eraDay n
  obtain ⟨january, december, begun, goes_on⟩ := proper.months
  rw [ofNumber_eq proper]
  obtain ⟨century, cycle, year, day, leap⟩ := proper
  have number : p.number = 36524 * p.century + 1461 * p.cycle + 365 * p.year + p.day := rfl
  have eras : -656 ≤ era ∧ era ≤ 655 := by omega
  simp only [EraDay.yearOfEra, yearRange, calendarMonth, daysBefore] at *
  split
  · rw [if_neg (by omega)]
    omega
  · rw [if_pos (by omega)]
    have newYear : 306 ≤ p.day := by omega
    have lastEra : era = 655 ∨ era ≤ 654 := by omega
    have lastCentury : p.century = 0 ∨ p.century = 1 ∨ 2 ≤ p.century := by omega
    omega

end OfferDispatch.Instant
