import TypedSql.Proofs.Calendar.Order

/-!
# Stored texts in the order of time

**Theorem (`Kind.stored_chronologically`).** Dates and local date-times of the years 0 to 9999 and
times of day compare in storage as they compare in time, and no two values share a text.

**Theorem (`Date.dateBefore_iff_unixDay_lt`).** A date of the calendar that is less field by field
is the earlier day.

The order of texts is that of the fields, the greatest unit first, with the fraction behind all of
them; a leap second is second 60 and comes behind the second it belongs to. Of two values that are
not equal one is earlier, so that their texts are not equal either.
-/

namespace TypedSql

open Calendar

namespace CalendarLibrary

variable {L : CalendarLibrary} (fields : L.Fields)
include fields

/-! ## Earlier, the same or later -/

theorem dateBefore_trichotomy (a b : L.Date) : L.DateBefore a b ∨ a = b ∨ L.DateBefore b a := by
  rw [date_eq_iff fields]
  unfold DateBefore
  omega

theorem timeBefore_trichotomy {a b : L.Time} (la : L.LeapAtEnd a) (lb : L.LeapAtEnd b) :
    L.TimeBefore a b ∨ a = b ∨ L.TimeBefore b a := by
  have same (hour : L.hour a = L.hour b) (minute : L.minute a = L.minute b)
      (second : L.second a = L.second b) (nanosecond : L.nanosecond a = L.nanosecond b) :
      a = b := by
    have made := fields.time?_fields a la
    rw [hour, minute, second, nanosecond, fields.time?_fields b lb] at made
    exact (Option.some.inj made).symm
  have ma := fields.minute_lt a
  have mb := fields.minute_lt b
  have sa := fields.second_lt a
  have sb := fields.second_lt b
  by_cases equal : L.secondOfDay a = L.secondOfDay b ∧ L.nanosecond a = L.nanosecond b
  · obtain ⟨clock, nanosecond⟩ := equal
    unfold secondOfDay at clock
    exact .inr (.inl (same (by omega) (by omega) (by omega) nanosecond))
  · unfold TimeBefore
    omega

theorem dateTimeBefore_trichotomy {a b : L.DateTime} (la : L.LeapAtEnd (L.time a))
    (lb : L.LeapAtEnd (L.time b)) : L.DateTimeBefore a b ∨ a = b ∨ L.DateTimeBefore b a := by
  rcases dateBefore_trichotomy fields (L.date a) (L.date b) with earlier | day | later
  · exact .inl (.inl earlier)
  · rcases timeBefore_trichotomy fields la lb with earlier | clock | later
    · exact .inl (.inr ⟨day, earlier⟩)
    · refine .inr (.inl ?_)
      rw [← fields.dateTime_fields a, day, clock, fields.dateTime_fields]
    · exact .inr (.inr (.inr ⟨day.symm, later⟩))
  · exact .inr (.inr (.inl later))

/-! ## Texts in order -/

theorem dateItems_lt_iff {a b : L.Date} (ha : L.Unsigned a) (hb : L.Unsigned b) :
    L.dateItems a < L.dateItems b ↔ L.DateBefore a b := by
  have row := dateItems_append_lt_iff fields ha hb [] []
  simpa using row

theorem timeItems_lt_iff {a b : L.Time} (la : L.LeapAtEnd a) (lb : L.LeapAtEnd b) :
    L.timeItems a < L.timeItems b ↔ L.TimeBefore a b := by
  have row := timeItems_append_lt_iff fields la lb [] []
  rw [fractionText_append_lt_iff ending_nil (fraction_lt a) (fraction_lt b)] at row
  simp only [List.append_nil, true_or, and_true, not_true, and_false, or_false] at row
  rw [row]
  by_cases same : SameSecond a b
  · simp [same, timeBefore_iff_of_sameSecond fields la lb same]
  · simp [same]

theorem dateTimeItems_lt_iff {a b : L.DateTime} (ha : L.Unsigned (L.date a))
    (hb : L.Unsigned (L.date b)) (la : L.LeapAtEnd (L.time a)) (lb : L.LeapAtEnd (L.time b)) :
    L.dateItems (L.date a) ++ ' ' :: L.timeItems (L.time a)
        < L.dateItems (L.date b) ++ ' ' :: L.timeItems (L.time b)
      ↔ L.DateTimeBefore a b := by
  have row := dateTimeItems_append_lt_iff fields ha hb la lb ' ' [] []
  rw [fractionText_append_lt_iff ending_nil (fraction_lt _) (fraction_lt _)] at row
  simp only [List.append_nil, true_or, and_true, not_true, and_false, or_false] at row
  rw [row]
  by_cases same : SameDateSecond a b
  · simp [same, dateTimeBefore_iff_of_sameDateSecond fields la lb same]
  · simp [same]

end CalendarLibrary

namespace Kind

open CalendarLibrary

/-- Texts in the order of values are equal only if the values are. -/
theorem eq_iff_of_lt_iff {α : Type} {before : α → α → Prop} {a b : α} {text : α → String}
    (trichotomy : before a b ∨ a = b ∨ before b a) (earlier : text a < text b ↔ before a b)
    (later : text b < text a ↔ before b a) : text a = text b ↔ a = b := by
  refine ⟨fun same => ?_, congrArg text⟩
  rcases trichotomy with less | equal | less
  · exact absurd (same ▸ earlier.2 less) (String.lt_irrefl _)
  · exact equal
  · exact absurd (same ▸ later.2 less) (String.lt_irrefl _)

/-- **The order of stored dates and times is that of time.** -/
theorem stored_chronologically [lib : Libraries] (fields : lib.calendar.Fields)
    (writes : lib.calendar.Writes) :
    (∀ a b : lib.calendar.Date, lib.calendar.Unsigned a → lib.calendar.Unsigned b →
      ∃ s t, Kind.date.encode a = .ok (.text s) ∧ Kind.date.encode b = .ok (.text t)
        ∧ (s < t ↔ lib.calendar.DateBefore a b) ∧ (s = t ↔ a = b))
      ∧ (∀ a b : lib.calendar.Time, lib.calendar.LeapAtEnd a → lib.calendar.LeapAtEnd b →
        ∃ s t, Kind.time.encode a = .ok (.text s) ∧ Kind.time.encode b = .ok (.text t)
          ∧ (s < t ↔ lib.calendar.TimeBefore a b) ∧ (s = t ↔ a = b))
      ∧ ∀ a b : lib.calendar.DateTime,
        lib.calendar.Unsigned (lib.calendar.date a) → lib.calendar.Unsigned (lib.calendar.date b) →
        lib.calendar.LeapAtEnd (lib.calendar.time a) →
        lib.calendar.LeapAtEnd (lib.calendar.time b) →
        ∃ s t, Kind.dateTime.encode a = .ok (.text s) ∧ Kind.dateTime.encode b = .ok (.text t)
          ∧ (s < t ↔ lib.calendar.DateTimeBefore a b) ∧ (s = t ↔ a = b) := by
  have dates {a b : lib.calendar.Date} (ha : lib.calendar.Unsigned a)
      (hb : lib.calendar.Unsigned b) :
      lib.calendar.dateText a < lib.calendar.dateText b ↔ lib.calendar.DateBefore a b := by
    rw [writes.date, writes.date, String.lt_iff, String.toList_ofList, String.toList_ofList,
      dateItems_lt_iff fields ha hb]
  have times {a b : lib.calendar.Time} (la : lib.calendar.LeapAtEnd a)
      (lb : lib.calendar.LeapAtEnd b) :
      lib.calendar.timeText a < lib.calendar.timeText b ↔ lib.calendar.TimeBefore a b := by
    rw [writes.time, writes.time, String.lt_iff, String.toList_ofList, String.toList_ofList,
      timeItems_lt_iff fields la lb]
  have dateTimes {a b : lib.calendar.DateTime}
      (ha : lib.calendar.Unsigned (lib.calendar.date a))
      (hb : lib.calendar.Unsigned (lib.calendar.date b))
      (la : lib.calendar.LeapAtEnd (lib.calendar.time a))
      (lb : lib.calendar.LeapAtEnd (lib.calendar.time b)) :
      lib.calendar.dateTimeText a < lib.calendar.dateTimeText b
        ↔ lib.calendar.DateTimeBefore a b := by
    rw [writes.dateTime, writes.dateTime, String.lt_iff, String.toList_ofList,
      String.toList_ofList, dateTimeItems_lt_iff fields ha hb la lb]
  refine ⟨fun a b ha hb => ⟨_, _, rfl, rfl, dates ha hb, ?_⟩,
    fun a b la lb => ⟨_, _, rfl, rfl, times la lb, ?_⟩,
    fun a b ha hb la lb => ⟨_, _, rfl, rfl, dateTimes ha hb la lb, ?_⟩⟩
  · exact eq_iff_of_lt_iff (dateBefore_trichotomy fields a b) (dates ha hb) (dates hb ha)
  · exact eq_iff_of_lt_iff (timeBefore_trichotomy fields la lb) (times la lb) (times lb la)
  · exact eq_iff_of_lt_iff (dateTimeBefore_trichotomy fields la lb) (dateTimes ha hb la lb)
      (dateTimes hb ha lb la)

/-! ### The last second of the year 9999 -/

/-- The last day of the year 9999 with its last second and a leap second behind that: the first
has the longer text and is earlier. -/
theorem stored_chronologically_at_leap_second :
    let day : Date := ⟨9999, 12, 31, by decide, by decide, by decide, by decide⟩
    let last : Time :=
      ⟨23, 59, 59, 999999999, by decide, by decide, by decide, by decide, by decide⟩
    let leap : Time :=
      ⟨23, 59, 59, 1250000000, by decide, by decide, by decide, by decide, by decide⟩
    standardCalendar.Fields ∧ standardCalendar.Writes ∧ standardCalendar.Unsigned day
      ∧ standardCalendar.LeapAtEnd last ∧ standardCalendar.LeapAtEnd leap
      ∧ ∃ s t, Kind.dateTime.encode (DateTime.mk day last) = .ok (.text s)
        ∧ Kind.dateTime.encode (DateTime.mk day leap) = .ok (.text t) ∧ s < t ∧ s ≠ t := by
  intro day last leap
  have years : standardCalendar.Unsigned day := (by decide : (0 : Int) ≤ 9999 ∧ (9999 : Int) ≤ 9999)
  obtain ⟨s, t, first, second, order, same⟩ :=
    (stored_chronologically standardCalendar_fields standardCalendar_writes).2.2
      (DateTime.mk day last) (DateTime.mk day leap) years years last.leap_at_end leap.leap_at_end
  have earlier : standardCalendar.DateTimeBefore ⟨day, last⟩ ⟨day, leap⟩ :=
    .inr ⟨rfl, .inr ⟨rfl, (by decide : 999999999 < 1250000000)⟩⟩
  exact ⟨standardCalendar_fields, standardCalendar_writes, years, last.leap_at_end,
    leap.leap_at_end, s, t, first, second, order.mpr earlier,
    fun h => nomatch congrArg (fun v : DateTime => v.time.nanosecond) (same.mp h)⟩

end Kind

/-! ## Days in order -/

namespace Date

theorem unixDay_lt_of_dateBefore {a b : Date} (h : standardCalendar.DateBefore a b) :
    a.unixDay < b.unixDay := by
  have length (d : Date) : d.dayOfYear < daysBeforeMonth d.year 13 :=
    Nat.lt_of_lt_of_le d.dayOfYear_lt
      (daysBeforeMonth_mono d.year (Nat.succ_le_succ d.month_bounds.2))
  rw [unixDay_eq, unixDay_eq]
  rcases h with year | ⟨year, month | ⟨month, day⟩⟩
  · have within := length a
    have next : daysBeforeYear (a.year + 1) ≤ daysBeforeYear b.year := daysBeforeYear_mono year
    rw [daysBeforeYear_succ] at next
    omega
  · have within := a.dayOfYear_lt
    have next : daysBeforeMonth a.year (a.month + 1) ≤ daysBeforeMonth a.year b.month :=
      daysBeforeMonth_mono a.year month
    have same : a.year = b.year := year
    have later : daysBeforeMonth a.year b.month ≤ b.dayOfYear := same ▸ Nat.le_add_right _ _
    rw [← same]
    omega
  · have pos := a.day_pos
    have same : a.year = b.year ∧ a.month = b.month ∧ a.day < b.day := ⟨year, month, day⟩
    have later : a.dayOfYear < b.dayOfYear := by
      rw [dayOfYear, dayOfYear, same.1, same.2.1]
      omega
    rw [same.1]
    omega

/-- **Earlier by year, month and day is earlier by days.** -/
theorem dateBefore_iff_unixDay_lt (a b : Date) :
    standardCalendar.DateBefore a b ↔ a.unixDay < b.unixDay := by
  refine ⟨unixDay_lt_of_dateBefore, fun less => ?_⟩
  have compared := CalendarLibrary.dateBefore_trichotomy standardCalendar_fields a b
  rcases compared with earlier | rfl | later
  · exact earlier
  · exact absurd less (Int.lt_irrefl _)
  · exact absurd (unixDay_lt_of_dateBefore later) (Int.lt_asymm less)

end Date

end TypedSql
