import TypedSql.Proofs.Calendar.Order

/-!
# Local dates and times read back

**Theorem (`Kind.calendar_lossless`).** Every date, time of day and local date-time has a text, and
the text is read as the value it was written for: years with a sign, fractions of any length and
leap seconds included.

A stored text is trimmed before it is read. No text of a date or a time begins or ends with a blank
(`CalendarLibrary.trim_dateText` and the two behind it). What is written is what a parser of the
format takes, and the fields that it finds are those of the value.
-/

namespace TypedSql

open Calendar Text

namespace CalendarLibrary

variable {L : CalendarLibrary}

/-! ## What is written is parsed -/

section Fields

variable (fields : L.Fields)
include fields

/-- The written fields of a time are the time. -/
theorem clock?_written {t : L.Time} (leap : L.LeapAtEnd t) :
    L.clock? (L.hour t) (L.minute t) (L.writtenSecond t) (L.fraction t) = some t := by
  have second := fields.second_lt t
  have nanosecond := fields.nanosecond_lt t
  unfold clock? writtenSecond fraction
  by_cases within : 1000000000 ≤ L.nanosecond t
  · have last := leap within
    have sixty : L.second t + L.nanosecond t / 1000000000 = 60 := by omega
    have back : 1000000000 + L.nanosecond t % 1000000000 = L.nanosecond t := by omega
    rw [if_pos sixty, back, ← last, fields.time?_fields t leap]
  · have same : L.second t + L.nanosecond t / 1000000000 = L.second t := by omega
    have back : L.nanosecond t % 1000000000 = L.nanosecond t := by omega
    rw [same, back, if_neg (by omega), fields.time?_fields t leap]

/-- The written fields of a date-time are the date-time. -/
theorem calendar?_written {v : L.DateTime} (leap : L.LeapAtEnd (L.time v)) :
    L.calendar? (L.year (L.date v)) (L.month (L.date v)) (L.day (L.date v)) (L.hour (L.time v))
      (L.minute (L.time v)) (L.writtenSecond (L.time v)) (L.fraction (L.time v)) = some v := by
  rw [calendar?, fields.date?_fields, clock?_written fields leap]
  exact congrArg some (fields.dateTime_fields v)

theorem isDate_dateItems {year : List Char → Int → Prop} {least : Nat} (lower : least ≤ 2)
    (d : L.Date) (shown : year (yearText (L.year d)) (L.year d)) :
    IsDate year least (L.dateItems d) (L.year d) (L.month d) (L.day d) := by
  have month := fields.month_le d
  have day := fields.day_le d
  exact isDate_dateText lower shown (by omega) (by omega)

theorem isClock_timeItems {least : Nat} (lower : least ≤ 2) (t : L.Time) :
    IsClock least (L.timeItems t) (L.hour t) (L.minute t) (L.writtenSecond t) (L.fraction t) := by
  have hour := fields.hour_lt t
  have minute := fields.minute_lt t
  exact isClock_clockText lower (by omega) (by omega) (writtenSecond_lt fields t) (fraction_lt t)

end Fields

/-! ## Nothing is trimmed -/

section Writes

variable (writes : L.Writes)
include writes

theorem trim_dateText (d : L.Date) : trim (L.dateText d) = L.dateText d := by
  have front := beginsVisibly_dateText_append (L.year d) (L.month d) (L.day d) []
  rw [List.append_nil] at front
  rw [writes.date]
  exact trim_of_visible front (endsVisibly_dateText _ _ _)

theorem trim_timeText (t : L.Time) : trim (L.timeText t) = L.timeText t := by
  rw [writes.time]
  exact trim_of_visible (beginsVisibly_clockText _ _ _ _)
    (endsVisibly_clockText _ _ _ (fraction_lt t))

theorem trim_dateTimeText (v : L.DateTime) : trim (L.dateTimeText v) = L.dateTimeText v := by
  rw [writes.dateTime]
  exact trim_of_visible (beginsVisibly_dateText_append _ _ _ _)
    (((endsVisibly_clockText _ _ _ (fraction_lt (L.time v))).cons ' ').append _)

end Writes

end CalendarLibrary

namespace Kind

open CalendarLibrary

/-! ## Kinds -/

/-- A text with no blanks to trim is decoded as it is read. -/
theorem decodeCalendar_of_trim {α : Type} {target : String} {read? : String → Option α}
    {s : String} {a : α} (trimmed : trim s = s) (read : read? s = some a) :
    decodeCalendar target read? (.text s) = .ok a := by
  simp only [decodeCalendar, StorageValue.toText, bind, Except.bind, trimmed, read]

section Libraries

variable [lib : Libraries]

variable (fields : lib.calendar.Fields) (writes : lib.calendar.Writes)
  (reads : lib.calendar.Reads)
include fields writes reads

theorem decode_dateText (d : lib.calendar.Date) :
    Kind.date.decode (.text (lib.calendar.dateText d)) = .ok d := by
  refine decodeCalendar_of_trim (trim_dateText writes d) ?_
  have read : lib.calendar.readDate? (lib.calendar.dateText d) = some d := by
    rw [writes.date, reads.date (isDate_dateItems fields (by decide) d (isYear_yearText _)),
      fields.date?_fields]
  rw [readDate?, read]
  rfl

theorem decode_timeText {t : lib.calendar.Time} (leap : lib.calendar.LeapAtEnd t) :
    Kind.time.decode (.text (lib.calendar.timeText t)) = .ok t := by
  refine decodeCalendar_of_trim (trim_timeText writes t) ?_
  have read : lib.calendar.readTime? (lib.calendar.timeText t) = some t := by
    rw [writes.time, reads.time (isClock_timeItems fields (by decide) t),
      clock?_written fields leap]
  rw [readTime?, read]
  rfl

theorem decode_dateTimeText {v : lib.calendar.DateTime}
    (leap : lib.calendar.LeapAtEnd (lib.calendar.time v)) :
    Kind.dateTime.decode (.text (lib.calendar.dateTimeText v)) = .ok v := by
  refine decodeCalendar_of_trim (trim_dateTimeText writes v) ?_
  have read : lib.calendar.readDateTime? (lib.calendar.dateTimeText v) = some v := by
    rw [writes.dateTime,
      reads.dateTime (isDate_dateItems fields (by decide) _ (isYear_yearText _))
        (isClock_timeItems fields (by decide) _),
      calendar?_written fields leap]
  rw [readDateTime?, readLocal?, read]
  rfl

end Libraries

/-- **Dates, times of day and local date-times are written and read back without exception.** -/
theorem calendar_lossless [lib : Libraries] (fields : lib.calendar.Fields)
    (writes : lib.calendar.Writes) (reads : lib.calendar.Reads) :
    (∀ d : lib.calendar.Date,
      ∃ s, Kind.date.encode d = .ok (.text s) ∧ Kind.date.decode (.text s) = .ok d)
      ∧ (∀ t : lib.calendar.Time, lib.calendar.LeapAtEnd t →
        ∃ s, Kind.time.encode t = .ok (.text s) ∧ Kind.time.decode (.text s) = .ok t)
      ∧ ∀ v : lib.calendar.DateTime, lib.calendar.LeapAtEnd (lib.calendar.time v) →
        ∃ s, Kind.dateTime.encode v = .ok (.text s) ∧ Kind.dateTime.decode (.text s) = .ok v :=
  ⟨fun d => ⟨_, rfl, decode_dateText fields writes reads d⟩,
    fun _ leap => ⟨_, rfl, decode_timeText fields writes reads leap⟩,
    fun _ leap => ⟨_, rfl, decode_dateTimeText fields writes reads leap⟩⟩

/-! ### Before Caesar, and after the last second -/

/-- The ides of March of the year 44 before the common era, which is year -43, on the last leap
second of a day. -/
def ides : DateTime where
  date := ⟨-43, 3, 15, by decide, by decide, by decide, by decide⟩
  time :=
    { Instant.last.utc.time with
      nanosecond := 1500000000
      nanosecond_lt := by decide
      leap_at_end := fun _ => rfl }

/-- A year with a sign and a leap second with a fraction are read back. -/
theorem calendar_lossless_of_ides :
    standardCalendar.Fields ∧ standardCalendar.Writes ∧ standardCalendar.Reads
      ∧ standardCalendar.LeapAtEnd ides.time
      ∧ Kind.dateTime.encode ides = .ok (.text "-0043-03-15 23:59:60.500")
      ∧ Kind.date.decode (.text "-0043-03-15") = .ok ides.date
      ∧ Kind.time.decode (.text "23:59:60.500") = .ok ides.time
      ∧ Kind.dateTime.decode (.text "-0043-03-15 23:59:60.500") = .ok ides := by
  obtain ⟨dates, times, dateTimes⟩ :=
    calendar_lossless standardCalendar_fields standardCalendar_writes standardCalendar_reads
  obtain ⟨_, ⟨⟩, date⟩ := dates ides.date
  obtain ⟨_, ⟨⟩, time⟩ := times ides.time ides.time.leap_at_end
  obtain ⟨_, ⟨⟩, dateTime⟩ := dateTimes ides ides.time.leap_at_end
  exact ⟨standardCalendar_fields, standardCalendar_writes, standardCalendar_reads,
    ides.time.leap_at_end, rfl, date, time, dateTime⟩

end Kind
end TypedSql
