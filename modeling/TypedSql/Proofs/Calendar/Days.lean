import Mathlib.Order.Monotone.Basic
import TypedSql.Calendar.Time

/-!
# Days of the calendar

**Theorem (`Date.ofUnixDay?_unixDay`).** A date is the date of its count of days.

The calendar repeats every 146097 days, which are 400 years, so that only the years of one such era
have to be told apart. The quotient by 366 names the year or one of the two behind it, and the
days in front of the years increase: trying the three from the last one finds the year. The month is
found in the same way from the days in front of the months.
-/

namespace TypedSql

open Calendar

namespace Calendar

/-! ## Years -/

/-- The calendar repeats after 400 years. -/
theorem daysBeforeYear_add_era (era year : Int) :
    daysBeforeYear (400 * era + year) = 146097 * era + daysBeforeYear year := by
  unfold daysBeforeYear
  omega

/-- A year has as many days as its months together. -/
theorem daysBeforeYear_succ (year : Int) :
    daysBeforeYear (year + 1) = daysBeforeYear year + daysBeforeMonth year 13 := by
  have rule : isLeapYear year = true ↔ year % 4 = 0 ∧ (year % 100 ≠ 0 ∨ year % 400 = 0) := by
    simp [isLeapYear]
  by_cases leap : isLeapYear year = true
  · have length : daysBeforeMonth year 13 = 366 := by simp [daysBeforeMonth, daysInMonth, leap]
    rw [rule] at leap
    unfold daysBeforeYear
    omega
  · have length : daysBeforeMonth year 13 = 365 := by simp [daysBeforeMonth, daysInMonth, leap]
    rw [rule] at leap
    unfold daysBeforeYear
    omega

/-- The year of a day, counted from the start of an era, is the year that the three attempts
find. -/
theorem yearOfEra_of_mem {year day : Int} (lower : 0 ≤ year) (upper : year < 400)
    (from_start : daysBeforeYear year ≤ day) (before_end : day < daysBeforeYear (year + 1)) :
    (if daysBeforeYear (day / 366 + 2) ≤ day then day / 366 + 2
      else if daysBeforeYear (day / 366 + 1) ≤ day then day / 366 + 1
      else day / 366) = year := by
  have near : day / 366 = year ∨ day / 366 = year - 1 ∨ day / 366 = year - 2 := by
    unfold daysBeforeYear at from_start before_end
    omega
  have later : ∀ k : Int, 1 ≤ k → day < daysBeforeYear (year + k) := by
    intro k hk
    unfold daysBeforeYear at before_end ⊢
    omega
  rcases near with same | one | two
  · rw [same, if_neg (Int.not_le.2 (later 2 (by decide))),
      if_neg (Int.not_le.2 (later 1 (by decide)))]
  · have second : year - 1 + 2 = year + 1 := by omega
    have first : year - 1 + 1 = year := by omega
    rw [one, second, first, if_neg (Int.not_le.2 before_end), if_pos from_start]
  · have second : year - 2 + 2 = year := by omega
    rw [two, second, if_pos from_start]

/-! ## Months -/

theorem daysBeforeMonth_mono (year : Int) : Monotone (daysBeforeMonth year) :=
  monotone_nat_of_le_succ fun _ => Nat.le_add_right _ _

end Calendar

namespace Date

/-- The day of the year, counted from zero. -/
def dayOfYear (d : Date) : Nat := daysBeforeMonth d.year d.month + (d.day - 1)

theorem dayOfYear_lt (d : Date) : d.dayOfYear < daysBeforeMonth d.year (d.month + 1) := by
  have lower := d.day_pos
  have upper := d.day_le
  unfold dayOfYear
  rw [daysBeforeMonth]
  omega

theorem unixDay_eq (d : Date) : d.unixDay = daysBeforeYear d.year + d.dayOfYear - epochDay := by
  have lower := d.day_pos
  unfold unixDay dayOfYear
  omega

theorem monthOfDay_dayOfYear (d : Date) : monthOfDay d.year d.dayOfYear = d.month := by
  have begun : ∀ m, daysBeforeMonth d.year (m + 1) ≤ d.dayOfYear ↔ m < d.month := by
    intro m
    constructor
    · intro h
      by_contra later
      have start := daysBeforeMonth_mono d.year (Nat.succ_le_succ (Nat.le_of_not_lt later))
      exact absurd d.dayOfYear_lt (Nat.not_lt.2 (Nat.le_trans start h))
    · intro h
      exact Nat.le_trans (daysBeforeMonth_mono d.year h) (Nat.le_add_right _ _)
  have count : ∀ n : Fin 13, ((List.range 12).filter (· < n.val)).length = n.val := by decide
  have bound : d.month < 13 := Nat.lt_succ_of_le d.month_bounds.2
  simp only [monthOfDay, begun]
  exact count ⟨d.month, bound⟩

/-- **A date is the date of its count of days.** -/
theorem ofUnixDay?_unixDay (d : Date) : ofUnixDay? d.unixDay = some d := by
  obtain ⟨era, year, lower, upper, split⟩ :
      ∃ era year : Int, 0 ≤ year ∧ year < 400 ∧ d.year = 400 * era + year :=
    ⟨d.year / 400, d.year % 400, by omega, by omega, by omega⟩
  have within : (d.dayOfYear : Int) < daysBeforeMonth d.year 13 := by
    have month : daysBeforeMonth d.year (d.month + 1) ≤ daysBeforeMonth d.year 13 :=
      daysBeforeMonth_mono d.year (Nat.succ_le_succ d.month_bounds.2)
    exact_mod_cast Nat.lt_of_lt_of_le d.dayOfYear_lt month
  have start := daysBeforeYear_add_era era year
  have finish := daysBeforeYear_add_era era (year + 1)
  rw [← split] at start
  rw [← Int.add_assoc, ← split, daysBeforeYear_succ] at finish
  have bounds : 0 ≤ daysBeforeYear year ∧ daysBeforeYear (year + 1) ≤ 146097 := by
    unfold daysBeforeYear
    omega
  have day : d.unixDay + epochDay = 146097 * era + (daysBeforeYear year + d.dayOfYear) := by
    rw [unixDay_eq, start]
    omega
  have quotient : (146097 * era + (daysBeforeYear year + d.dayOfYear)) / 146097 = era := by omega
  have remainder : (146097 * era + (daysBeforeYear year + d.dayOfYear)) % 146097
      = daysBeforeYear year + d.dayOfYear := by omega
  have from_start : daysBeforeYear year ≤ daysBeforeYear year + d.dayOfYear := by omega
  have before_end : daysBeforeYear year + d.dayOfYear < daysBeforeYear (year + 1) := by omega
  have found := yearOfEra_of_mem lower upper from_start before_end
  have rest : (daysBeforeYear year + (d.dayOfYear : Int) - daysBeforeYear year).toNat
      = d.dayOfYear := by omega
  have dayOfMonth : d.dayOfYear - daysBeforeMonth d.year d.month + 1 = d.day := by
    have pos := d.day_pos
    unfold dayOfYear
    omega
  simp only [ofUnixDay?, day, quotient, remainder, found, rest, ← split, monthOfDay_dayOfYear,
    dayOfMonth]
  exact of?_self d

end Date

/-! ## Seconds -/

theorem Time.secondOfDay_lt (t : Time) : t.secondOfDay < 86400 := by
  have hour := t.hour_lt
  have minute := t.minute_lt
  have second := t.second_lt
  unfold secondOfDay
  omega

theorem DateTime.ofUnix?_unixSecond (t : DateTime) :
    ofUnix? t.unixSecond t.time.nanosecond = some t := by
  have within := t.time.secondOfDay_lt
  have quotient : t.unixSecond / 86400 = t.date.unixDay := by
    unfold unixSecond
    omega
  have remainder : (t.unixSecond % 86400).toNat = t.time.secondOfDay := by
    unfold unixSecond
    omega
  rw [ofUnix?, quotient, remainder, Date.ofUnixDay?_unixDay, Time.ofSecondOfDay?_secondOfDay]
  rfl

/-- **An instant is the instant of its count of seconds.** -/
theorem Instant.ofUnix?_unixSecond (t : Instant) :
    ofUnix? t.utc.unixSecond t.utc.time.nanosecond = some t := by
  rw [ofUnix?, DateTime.ofUnix?_unixSecond]
  rfl

end TypedSql
