import TypedSql.Proofs.Calendar.Lossless

/-!
# Instants read back

**Theorem (`Kind.decode_encode_iff_unsigned`).** Every instant has a text. It is read back as the
instant where the year is written without a sign, and is not read at all where it has one.

A parser of RFC 3339 takes years of four digits and no sign. Those of local date-times take signs
and all years, but they leave the `Z` of an instant, and a parser has to come to the end.

A leap second that was moved away from second 59 is written as the second behind it, and read as
that.
-/

namespace TypedSql

open Calendar Text

namespace CalendarLibrary

variable {L : CalendarLibrary}

/-- The text of an instant. -/
def instantItems (i : L.Instant) : List Char :=
  L.dateItems (L.date (L.naive i)) ++ 'T' :: L.timeItems (L.time (L.naive i)) ++ ['Z']

theorem getLast?_instantItems (i : L.Instant) : (instantItems i).getLast? = some 'Z' :=
  List.getLast?_concat

/-- A year with a sign begins with it. -/
theorem head?_instantItems {i : L.Instant} (signed : ¬ L.Unsigned (L.date (L.naive i))) :
    ∃ c, (instantItems i).head? = some c ∧ isAsciiDigit c = false := by
  have shown : yearText (L.year (L.date (L.naive i)))
      = (if L.year (L.date (L.naive i)) < 0 then '-' else '+')
        :: padded 4 (L.year (L.date (L.naive i))).natAbs := if_neg signed
  refine ⟨if L.year (L.date (L.naive i)) < 0 then '-' else '+', ?_, ?_⟩
  · simp only [instantItems, dateItems, Calendar.dateText, shown, List.cons_append, List.head?_cons]
  · split <;> decide

section Writes

variable (writes : L.Writes)
include writes

theorem rfc3339Text_eq (i : L.Instant) : L.rfc3339Text i = String.ofList (instantItems i) :=
  writes.rfc3339 i

/-- The text of an instant has no blanks at its ends. -/
theorem trim_rfc3339Text (i : L.Instant) : trim (L.rfc3339Text i) = L.rfc3339Text i := by
  have front := beginsVisibly_dateText_append (L.year (L.date (L.naive i)))
    (L.month (L.date (L.naive i))) (L.day (L.date (L.naive i)))
    ('T' :: L.timeItems (L.time (L.naive i)) ++ ['Z'])
  have back : EndsVisibly ['Z'] := ⟨[], 'Z', rfl, by decide⟩
  rw [rfc3339Text_eq writes]
  refine trim_of_visible ?_ (back.append _)
  rwa [← List.append_assoc] at front

end Writes

section Reads

variable (reads : L.Reads)
include reads

/-- The parsers of local date-times leave what marks an instant. -/
theorem not_local_of_instantItems (i : L.Instant) :
    L.readDateTime? (String.ofList (instantItems i)) = none
      ∧ L.readDateTimeT? (String.ofList (instantItems i)) = none := by
  have refused (v : L.DateTime)
      (read : L.readDateTime? (String.ofList (instantItems i)) = some v
        ∨ L.readDateTimeT? (String.ofList (instantItems i)) = some v) : False := by
    obtain ⟨c, last, digit⟩ := reads.ends_of_dateTime read
    rw [getLast?_instantItems] at last
    cases last
    exact absurd digit (by decide)
  exact ⟨Option.eq_none_iff_forall_ne_some.2 fun v read => refused v (.inl read),
    Option.eq_none_iff_forall_ne_some.2 fun v read => refused v (.inr read)⟩

/-- A sign is no digit. -/
theorem readRfc3339?_of_signed {i : L.Instant} (signed : ¬ L.Unsigned (L.date (L.naive i))) :
    L.readRfc3339? (String.ofList (instantItems i)) = none := by
  refine Option.eq_none_iff_forall_ne_some.2 fun v read => ?_
  obtain ⟨c, first, digit⟩ := reads.begins_of_rfc3339 read
  obtain ⟨c', first', sign⟩ := head?_instantItems signed
  rw [first] at first'
  cases first'
  rw [digit] at sign
  cases sign

/-- A year of four digits is read, and with it the fields as they are written. -/
theorem readRfc3339?_of_unsigned (fields : L.Fields) {i : L.Instant}
    (unsigned : L.Unsigned (L.date (L.naive i))) :
    (L.readRfc3339? (String.ofList (instantItems i))).map L.toUtc
      = (L.clock? (L.hour (L.time (L.naive i))) (L.minute (L.time (L.naive i)))
          (L.writtenSecond (L.time (L.naive i))) (L.fraction (L.time (L.naive i)))).map
            fun t => L.utc (L.dateTime (L.date (L.naive i)) t) := by
  have read := reads.rfc3339
    (isDate_dateItems fields (by decide) (L.date (L.naive i)) (isFullYear_yearText unsigned))
    (isClock_timeItems fields (by decide) (L.time (L.naive i)))
  rw [instantItems, read, calendar?, fields.date?_fields]
  cases L.clock? _ _ _ _ <;> rfl

end Reads

/-- The second behind a leap second in the middle of a minute. -/
theorem exists_clock?_of_leap (fields : L.Fields) {t : L.Time} (leap : ¬ L.LeapAtEnd t) :
    ∃ u, L.clock? (L.hour t) (L.minute t) (L.writtenSecond t) (L.fraction t) = some u
      ∧ L.nanosecond u < L.nanosecond t := by
  have second := fields.second_lt t
  have nanosecond := fields.nanosecond_lt t
  obtain ⟨within, middle⟩ := Classical.not_imp.1 leap
  have next : L.writtenSecond t = L.second t + 1 := by
    unfold writtenSecond
    omega
  obtain ⟨u, made⟩ := fields.exists_time? (fields.hour_lt t) (fields.minute_lt t)
    (show L.second t + 1 < 60 by omega) (fraction_lt t)
  refine ⟨u, ?_, ?_⟩
  · rw [clock?, next, if_neg (by omega), made]
  · rw [fields.nanosecond_of_time? made]
    exact Nat.lt_of_lt_of_le (fraction_lt t) within

end CalendarLibrary

namespace Kind

open CalendarLibrary

/-- The text of an instant is decoded as the RFC 3339 parser reads it. -/
theorem decode_rfc3339Text [lib : Libraries] (writes : lib.calendar.Writes)
    (reads : lib.calendar.Reads) (i : lib.calendar.Instant) :
    Kind.timestamp.decode (.text (lib.calendar.rfc3339Text i))
      = match (lib.calendar.readRfc3339? (lib.calendar.rfc3339Text i)).map lib.calendar.toUtc with
        | some j => .ok j
        | none => .error (.unreadable "timestamp" (lib.calendar.rfc3339Text i)) := by
  obtain ⟨blank, letter⟩ := not_local_of_instantItems reads i
  rw [← rfc3339Text_eq writes] at blank letter
  have only : readInstant? (lib.calendar.rfc3339Text i)
      = (lib.calendar.readRfc3339? (lib.calendar.rfc3339Text i)).map lib.calendar.toUtc := by
    rw [readInstant?, readLocal?, blank, letter]
    cases (lib.calendar.readRfc3339? (lib.calendar.rfc3339Text i)).map lib.calendar.toUtc <;> rfl
  simp only [decode, decodeTimestamp, decodeCalendar, StorageValue.toText, bind, Except.bind,
    trim_rfc3339Text writes, only]
  cases (lib.calendar.readRfc3339? (lib.calendar.rfc3339Text i)).map lib.calendar.toUtc <;> rfl

/-- No parser takes the text of a year with a sign. -/
theorem decode_rfc3339Text_of_signed [lib : Libraries] (writes : lib.calendar.Writes)
    (reads : lib.calendar.Reads) {i : lib.calendar.Instant}
    (signed : ¬ lib.calendar.Unsigned (lib.calendar.date (lib.calendar.naive i))) :
    Kind.timestamp.decode (.text (lib.calendar.rfc3339Text i))
      = .error (.unreadable "timestamp" (lib.calendar.rfc3339Text i)) := by
  have refused := readRfc3339?_of_signed reads signed
  rw [← rfc3339Text_eq writes] at refused
  rw [decode_rfc3339Text writes reads, refused]
  rfl

/-- **Every instant is written; it is read back exactly if its year has no sign.** The only
exception is a leap second that is not the last one of its minute. -/
theorem decode_encode_iff_unsigned [lib : Libraries] (fields : lib.calendar.Fields)
    (writes : lib.calendar.Writes) (reads : lib.calendar.Reads) (i : lib.calendar.Instant) :
    ∃ s, Kind.timestamp.encode i = .ok (.text s)
      ∧ (¬ lib.calendar.Unsigned (lib.calendar.date (lib.calendar.naive i)) →
        Kind.timestamp.decode (.text s) = .error (.unreadable "timestamp" s))
      ∧ (lib.calendar.Unsigned (lib.calendar.date (lib.calendar.naive i)) →
        (lib.calendar.LeapAtEnd (lib.calendar.time (lib.calendar.naive i)) →
          Kind.timestamp.decode (.text s) = .ok i)
        ∧ (¬ lib.calendar.LeapAtEnd (lib.calendar.time (lib.calendar.naive i)) →
          ∃ j ≠ i, Kind.timestamp.decode (.text s) = .ok j)) := by
  have text := rfc3339Text_eq writes i
  refine ⟨_, rfl, decode_rfc3339Text_of_signed writes reads,
    fun unsigned => ⟨fun leap => ?_, fun leap => ?_⟩⟩
  · rw [decode_rfc3339Text writes reads, text, readRfc3339?_of_unsigned reads fields unsigned,
      clock?_written fields leap, Option.map_some, fields.dateTime_fields, fields.utc_naive]
  · obtain ⟨u, written, less⟩ := exists_clock?_of_leap fields leap
    refine ⟨lib.calendar.utc
      (lib.calendar.dateTime (lib.calendar.date (lib.calendar.naive i)) u), fun same => ?_, ?_⟩
    · rw [← same, fields.naive_utc, fields.time_dateTime] at less
      exact absurd less (Nat.lt_irrefl _)
    · rw [decode_rfc3339Text writes reads, text, readRfc3339?_of_unsigned reads fields unsigned,
        written, Option.map_some]

/-! ### The year ten thousand -/

/-- The leap second in front of the year 10000, half of it gone. -/
def lastOfFour : Instant where
  utc :=
    { date :=
        { Date.last with
          year := 9999
          year_ge := by decide
          year_le := by decide
          day_le := by decide }
      time := ides.time }

theorem decode_encode_iff_unsigned_of_lastOfFour :
    standardCalendar.Fields ∧ standardCalendar.Writes ∧ standardCalendar.Reads
      ∧ standardCalendar.Unsigned lastOfFour.utc.date
      ∧ standardCalendar.LeapAtEnd lastOfFour.utc.time
      ∧ Kind.timestamp.encode lastOfFour = .ok (.text "9999-12-31T23:59:60.500Z")
      ∧ Kind.timestamp.decode (.text "9999-12-31T23:59:60.500Z") = .ok lastOfFour := by
  have year : standardCalendar.Unsigned lastOfFour.utc.date :=
    (by decide : (0 : Int) ≤ 9999 ∧ (9999 : Int) ≤ 9999)
  obtain ⟨_, ⟨⟩, -, unsigned⟩ := decode_encode_iff_unsigned standardCalendar_fields
    standardCalendar_writes standardCalendar_reads lastOfFour
  exact ⟨standardCalendar_fields, standardCalendar_writes, standardCalendar_reads, year,
    lastOfFour.utc.time.leap_at_end, rfl, (unsigned year).1 lastOfFour.utc.time.leap_at_end⟩

/-- The first instant of a year of five digits. -/
def tenThousand : Instant where
  utc :=
    { date := ⟨10000, 1, 1, by decide, by decide, Nat.one_pos, by decide⟩
      time := Time.midnight }

/-- The instant is written with a sign in front, and its text is not read. -/
theorem tenThousand_not_read_back :
    Kind.timestamp.encode tenThousand = .ok (.text "+10000-01-01T00:00:00Z")
      ∧ Kind.timestamp.decode (.text "+10000-01-01T00:00:00Z")
        = .error (.unreadable "timestamp" "+10000-01-01T00:00:00Z") := by
  have signed : ¬ standardCalendar.Unsigned tenThousand.utc.date :=
    (by decide : ¬ ((0 : Int) ≤ 10000 ∧ (10000 : Int) ≤ 9999))
  have text : standardLibraries.calendar.rfc3339Text tenThousand = "+10000-01-01T00:00:00Z" := rfl
  have refused := decode_rfc3339Text_of_signed (i := tenThousand) standardCalendar_writes
    standardCalendar_reads signed
  rw [text] at refused
  exact ⟨rfl, refused⟩

end Kind
end TypedSql
