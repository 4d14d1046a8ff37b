import TypedSql.Proofs.Calendar.Days

/-!
# Counts that are dates

**Theorem (`Date.ofUnixDay?_eq_some_iff`).** A count of days gives the date of that count and no
other.

**Theorem (`Instant.exists_ofUnixMilli?_iff`).** A count of milliseconds gives an instant exactly
from the first millisecond of the calendar to the last one.

Every day of an era belongs to one of its years, and every day of a year to one of its months. So
there is a date for each count of days whose year is in range, and the calendar finds it because
it finds every date by its count.
-/

namespace TypedSql

open Calendar

/-! ## Days -/

namespace Calendar

theorem daysBeforeYear_mono {a b : Int} (h : a ≤ b) : daysBeforeYear a ≤ daysBeforeYear b := by
  unfold daysBeforeYear
  omega

/-- The three attempts find a year that holds the day. -/
theorem yearOfEra_holds {day : Int} (lower : 0 ≤ day) (upper : day < 146097) :
    ∃ year : Int,
      (if daysBeforeYear (day / 366 + 2) ≤ day then day / 366 + 2
        else if daysBeforeYear (day / 366 + 1) ≤ day then day / 366 + 1
        else day / 366) = year
      ∧ daysBeforeYear year ≤ day ∧ day < daysBeforeYear (year + 1) := by
  refine ⟨_, rfl, ?_⟩
  split_ifs with second first
  · refine ⟨second, ?_⟩
    unfold daysBeforeYear
    omega
  · rw [Int.not_le] at second
    exact ⟨first, by rwa [Int.add_assoc]⟩
  · rw [Int.not_le] at first
    refine ⟨?_, first⟩
    unfold daysBeforeYear
    omega

/-- Every day is in a year. -/
theorem exists_year (day : Int) :
    ∃ year, daysBeforeYear year ≤ day ∧ day < daysBeforeYear (year + 1) := by
  obtain ⟨year, -, from_start, before_end⟩ := yearOfEra_holds
    (Int.emod_nonneg day (by decide : (146097 : Int) ≠ 0))
    (Int.emod_lt_of_pos day (by decide : (0 : Int) < 146097))
  refine ⟨400 * (day / 146097) + year, ?_⟩
  rw [Int.add_assoc, daysBeforeYear_add_era, daysBeforeYear_add_era]
  omega

/-- A day of a year is a day of one of its months. -/
theorem exists_month {year : Int} {day : Nat} {m : Nat} (h : day < daysBeforeMonth year m) :
    ∃ month < m, daysBeforeMonth year month ≤ day ∧ day < daysBeforeMonth year (month + 1) := by
  induction m with
  | zero => exact absurd h (Nat.not_lt_zero day)
  | succ m ih =>
    by_cases earlier : day < daysBeforeMonth year m
    · obtain ⟨month, lt, holds⟩ := ih earlier
      exact ⟨month, Nat.lt_succ_of_lt lt, holds⟩
    · exact ⟨m, Nat.lt_succ_self m, Nat.le_of_not_lt earlier, h⟩

end Calendar

namespace Date

variable {n : Int} {d : Date}

/-- Each day of a year in range is a date. -/
theorem exists_dayOfYear {year : Int} (lower : -262143 ≤ year) (upper : year ≤ 262142) {day : Nat}
    (h : day < daysBeforeMonth year 13) : ∃ d : Date, d.year = year ∧ d.dayOfYear = day := by
  obtain ⟨month, -, begun, ended⟩ := exists_month h
  rw [daysBeforeMonth] at ended
  refine ⟨⟨year, month, day - daysBeforeMonth year month + 1, lower, upper, ?_, ?_⟩, rfl, ?_⟩
  · omega
  · omega
  · unfold dayOfYear
    dsimp only
    omega

/-- The date of a count lies in the year that holds the day. -/
theorem year_of_ofUnixDay? (h : ofUnixDay? n = some d) :
    daysBeforeYear d.year ≤ n + epochDay ∧ n + epochDay < daysBeforeYear (d.year + 1) := by
  have lower : 0 ≤ (n + epochDay) % 146097 := Int.emod_nonneg _ (by decide)
  have upper : (n + epochDay) % 146097 < 146097 := Int.emod_lt_of_pos _ (by decide)
  obtain ⟨year, found, from_start, before_end⟩ := yearOfEra_holds lower upper
  have same : d.year = 400 * ((n + epochDay) / 146097) + year := by
    simp only [ofUnixDay?, found] at h
    unfold of? at h
    split at h
    · cases h
      rfl
    · cases h
  rw [same, Int.add_assoc, daysBeforeYear_add_era, daysBeforeYear_add_era]
  omega

/-- **A count of days gives the date of that count and no other.** -/
theorem ofUnixDay?_eq_some_iff : ofUnixDay? n = some d ↔ d.unixDay = n := by
  constructor
  · intro h
    obtain ⟨from_start, before_end⟩ := year_of_ofUnixDay? h
    rw [daysBeforeYear_succ] at before_end
    have within : (n + epochDay - daysBeforeYear d.year).toNat < daysBeforeMonth d.year 13 := by
      omega
    obtain ⟨d', year, day⟩ := exists_dayOfYear d.year_ge d.year_le within
    have count : d'.unixDay = n := by
      rw [unixDay_eq, year, day]
      omega
    rw [← count, ofUnixDay?_unixDay] at h
    rw [← Option.some.inj h, count]
  · rintro rfl
    exact ofUnixDay?_unixDay d

/-- The counts with a date are those from the first one to the last one. -/
theorem exists_ofUnixDay?_iff :
    (∃ d, ofUnixDay? n = some d) ↔ first.unixDay ≤ n ∧ n ≤ last.unixDay := by
  have start : first.unixDay = daysBeforeYear (-262143) - epochDay := by decide
  have finish : last.unixDay = daysBeforeYear 262143 - epochDay - 1 := by decide
  rw [start, finish]
  constructor
  · rintro ⟨d, h⟩
    obtain ⟨from_start, before_end⟩ := year_of_ofUnixDay? h
    have lower := daysBeforeYear_mono d.year_ge
    have upper : daysBeforeYear (d.year + 1) ≤ daysBeforeYear 262143 :=
      daysBeforeYear_mono (Int.add_le_add_right d.year_le 1)
    omega
  · rintro ⟨lower, upper⟩
    obtain ⟨year, from_start, before_end⟩ := exists_year (n + epochDay)
    have year_ge : -262143 ≤ year := by
      by_contra early
      have next : daysBeforeYear (year + 1) ≤ daysBeforeYear (-262143) :=
        daysBeforeYear_mono (by omega)
      omega
    have year_le : year ≤ 262142 := by
      by_contra late
      have past : daysBeforeYear 262143 ≤ daysBeforeYear year := daysBeforeYear_mono (by omega)
      omega
    rw [daysBeforeYear_succ] at before_end
    have within : (n + epochDay - daysBeforeYear year).toNat < daysBeforeMonth year 13 := by omega
    obtain ⟨d, same, day⟩ := exists_dayOfYear year_ge year_le within
    refine ⟨d, ofUnixDay?_eq_some_iff.2 ?_⟩
    rw [unixDay_eq, same, day]
    omega

end Date

/-! ## Seconds -/

theorem Time.of_ofSecondOfDay? {second nanosecond : Nat} {t : Time}
    (h : ofSecondOfDay? second nanosecond = some t) :
    t.secondOfDay = second ∧ t.nanosecond = nanosecond := by
  unfold ofSecondOfDay? of? at h
  split at h
  · cases h
    refine ⟨?_, rfl⟩
    unfold secondOfDay
    dsimp only
    omega
  · cases h

namespace DateTime

variable {second : Int} {nanosecond : Nat} {t : DateTime}

theorem ofUnix?_eq_some_iff :
    ofUnix? second nanosecond = some t
      ↔ t.unixSecond = second ∧ t.time.nanosecond = nanosecond := by
  constructor
  · intro h
    obtain ⟨date, hd, h⟩ := Option.bind_eq_some_iff.1 h
    obtain ⟨time, ht, h⟩ := Option.bind_eq_some_iff.1 h
    cases h
    have day := Date.ofUnixDay?_eq_some_iff.1 hd
    obtain ⟨clock, fraction⟩ := Time.of_ofSecondOfDay? ht
    refine ⟨?_, fraction⟩
    unfold unixSecond
    dsimp only
    omega
  · rintro ⟨rfl, rfl⟩
    exact ofUnix?_unixSecond t

/-- The last second of the calendar, and the first, are on its last day and its first. -/
theorem exists_ofUnix?_iff (whole : nanosecond < 1000000000) :
    (∃ t, ofUnix? second nanosecond = some t)
      ↔ Date.first.unixDay ≤ second / 86400 ∧ second / 86400 ≤ Date.last.unixDay := by
  rw [← Date.exists_ofUnixDay?_iff]
  constructor
  · rintro ⟨t, h⟩
    obtain ⟨rfl, -⟩ := ofUnix?_eq_some_iff.1 h
    have clock := t.time.secondOfDay_lt
    refine ⟨t.date, Date.ofUnixDay?_eq_some_iff.2 ?_⟩
    unfold unixSecond
    omega
  · rintro ⟨date, h⟩
    obtain ⟨time, ht⟩ : ∃ time, Time.ofSecondOfDay? (second % 86400).toNat nanosecond
        = some time := by
      unfold Time.ofSecondOfDay? Time.of?
      rw [dif_pos (by omega)]
      exact ⟨_, rfl⟩
    exact ⟨⟨date, time⟩, by simp [ofUnix?, h, ht]⟩

end DateTime

/-! ## Milliseconds -/

namespace Instant

variable {ms : Int} {t : Instant}

/-- The instants are those from the first second of the calendar to the last one. -/
theorem unixSecond_bounds (t : Instant) :
    first.utc.unixSecond ≤ t.utc.unixSecond ∧ t.utc.unixSecond ≤ last.utc.unixSecond := by
  obtain ⟨lower, upper⟩ := Date.exists_ofUnixDay?_iff.1 ⟨_, t.utc.date.ofUnixDay?_unixDay⟩
  have start : first.utc.unixSecond = 86400 * Date.first.unixDay := by decide
  have finish : last.utc.unixSecond = 86400 * Date.last.unixDay + 86399 := by decide
  have clock := t.utc.time.secondOfDay_lt
  have second : t.utc.unixSecond = 86400 * t.utc.date.unixDay + t.utc.time.secondOfDay := rfl
  omega

theorem ofUnixMilli?_eq_some_iff_utc :
    ofUnixMilli? ms = some t
      ↔ DateTime.ofUnix? (ms / 1000) (1000000 * (ms % 1000).toNat) = some t.utc := by
  unfold ofUnixMilli? ofUnix?
  rw [Option.map_eq_some_iff]
  constructor
  · rintro ⟨utc, found, rfl⟩
    exact found
  · exact fun found => ⟨t.utc, found, rfl⟩

/-- **The milliseconds of the calendar are those from the first one to the last one.** -/
theorem exists_ofUnixMilli?_iff :
    (∃ t, ofUnixMilli? ms = some t) ↔ first.unixMilli ≤ ms ∧ ms ≤ last.unixMilli := by
  have start : first.unixMilli = 86400000 * Date.first.unixDay := by decide
  have finish : last.unixMilli = 86400000 * (Date.last.unixDay + 1) - 1 := by decide
  have instants : (∃ t, ofUnixMilli? ms = some t)
      ↔ ∃ utc, DateTime.ofUnix? (ms / 1000) (1000000 * (ms % 1000).toNat) = some utc := by
    simp only [ofUnixMilli?_eq_some_iff_utc]
    exact ⟨fun ⟨t, found⟩ => ⟨t.utc, found⟩, fun ⟨utc, found⟩ => ⟨⟨utc⟩, found⟩⟩
  rw [instants, DateTime.exists_ofUnix?_iff (by omega), start, finish]
  omega

/-- The calendar fits 64 bits. -/
theorem toInt_unixMilli (t : Instant) : (Int64.ofInt t.unixMilli).toInt = t.unixMilli := by
  obtain ⟨lower, upper⟩ := unixSecond_bounds t
  have start : first.utc.unixSecond = -8334601228800 := by decide
  have finish : last.utc.unixSecond = 8210266876799 := by decide
  have nanosecond := t.utc.time.nanosecond_lt
  unfold unixMilli
  exact Int64.toInt_ofInt_of_le (by omega) (by omega)

end Instant

end TypedSql
