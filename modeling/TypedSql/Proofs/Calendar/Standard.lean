import TypedSql.Library.Standard
import TypedSql.Proofs.Calendar.Range
import TypedSql.Proofs.Calendar.Steps

/-!
# The calendar the program runs with

**Theorem (`standardCalendar_fields`, `standardCalendar_writes`, `standardCalendar_reads`,
`standardCalendar_counts`).** The dates, times and instants of the project have all that is
documented of the library. What is proved of every such library holds of them.
-/

namespace TypedSql

open Calendar

/-! ## Fields -/

theorem Date.day_le_31 (d : Date) : d.day ≤ 31 := by
  refine Nat.le_trans d.day_le ?_
  unfold daysInMonth
  split <;> (try split) <;> decide

theorem Time.of?_eq_some {hour minute second nanosecond : Nat} {t : Time}
    (h : of? hour minute second nanosecond = some t) : t.nanosecond = nanosecond := by
  unfold of? at h
  split at h
  · cases h
    rfl
  · cases h

theorem Time.exists_of? {hour minute second nanosecond : Nat} (hh : hour < 24) (hm : minute < 60)
    (hs : second < 60) (hn : nanosecond < 1000000000) :
    ∃ t, of? hour minute second nanosecond = some t := by
  unfold of?
  rw [dif_pos ⟨hh, hm, hs, by omega, by omega⟩]
  exact ⟨_, rfl⟩

theorem standardCalendar_fields : standardCalendar.Fields where
  date?_fields := Date.of?_self
  month_le d := d.month_bounds.2
  day_le := Date.day_le_31
  time?_fields t _ := Time.of?_self t
  hour_lt := Time.hour_lt
  minute_lt := Time.minute_lt
  second_lt := Time.second_lt
  nanosecond_lt := Time.nanosecond_lt
  exists_time? := Time.exists_of?
  nanosecond_of_time? := Time.of?_eq_some
  leapAtEnd_of_time? := fun {_ _ _ _ t} _ => t.leap_at_end
  dateTime_fields _ := rfl
  date_dateTime _ _ := rfl
  time_dateTime _ _ := rfl
  atTime?_eq _ _ _ _ := rfl
  utc_naive _ := rfl
  naive_utc _ := rfl

/-! ## Texts -/

theorem standardCalendar_writes : standardCalendar.Writes where
  date _ := rfl
  time _ := rfl
  dateTime _ := rfl
  rfc3339 _ := rfl

/-- A reader of texts reads their characters. -/
theorem whole?_toList_ofList {α : Type} (step : Step α) (cs : List Char) :
    whole? step (String.ofList cs).toList = whole? step cs := by rw [String.toList_ofList]

/-- A text that is read to its end ends with a digit. -/
theorem getLast?_of_readDateTime {between : Step Unit} (h : Takes between Anything)
    {cs : List Char} {v : DateTime} (read : whole? (dateTime between) cs = some v) :
    ∃ c, cs.getLast? = some c ∧ Text.isAsciiDigit c = true := by
  obtain ⟨front, rfl, before, c, rfl, digit⟩ :=
    takes_dateTime h cs v [] (whole?_eq_some_iff.1 read)
  rw [List.append_nil]
  exact ⟨c, List.getLast?_concat, digit⟩

theorem standardCalendar_reads : standardCalendar.Reads where
  date written := by
    have read := date_append written noDigit_nil
    rw [List.append_nil] at read
    exact (whole?_toList_ofList _ _).trans (whole?_of_eq_map read)
  time written := by
    have read := time_append written noFraction_nil
    rw [List.append_nil] at read
    exact (whole?_toList_ofList _ _).trans (whole?_of_eq_map read)
  dateTime date_ time_ :=
    (whole?_toList_ofList _ _).trans (whole?_of_eq_map (dateTime_append date_ time_))
  rfc3339 date_ time_ :=
    (congrArg (Option.map _) (whole?_toList_ofList _ _)).trans (strictInstant_of_fields date_ time_)
  ends_of_dateTime := by
    rintro cs v (read | read)
    · exact getLast?_of_readDateTime takes_blanks ((whole?_toList_ofList _ _).symm.trans read)
    · exact getLast?_of_readDateTime (takes_literal 'T')
        ((whole?_toList_ofList _ _).symm.trans read)
  begins_of_rfc3339 read :=
    head?_of_strictInstant (whole?_eq_some_iff.1 ((whole?_toList_ofList _ _).symm.trans read))
  leapAtEnd_of_time := fun {_ t} _ => t.leap_at_end
  leapAtEnd_of_dateTime := fun {_ v} _ => v.time.leap_at_end

/-! ## Counts -/

theorem Offset.of?_eq_some {seconds : Int} {o : Offset} (h : of? seconds = some o) :
    o.seconds = seconds := by
  unfold of? at h
  split at h
  · cases h
    rfl
  · cases h

/-- An offset fits 32 bits. -/
theorem Offset.toInt_seconds (o : Offset) : (Int32.ofInt o.seconds).toInt = o.seconds := by
  have lower := o.seconds_gt
  have upper := o.seconds_lt
  exact Int32.toInt_ofInt_of_le (by omega) (by omega)

theorem Instant.of_ofUnixMilli? {ms : Int} {t : Instant} (h : ofUnixMilli? ms = some t) :
    t.utc.unixSecond = ms / 1000 ∧ t.utc.time.nanosecond = 1000000 * (ms % 1000).toNat :=
  DateTime.ofUnix?_eq_some_iff.1 (ofUnixMilli?_eq_some_iff_utc.1 h)

theorem standardCalendar_counts : standardCalendar.Counts where
  unixSecond_first_le i := i.unixSecond_bounds.1
  unixSecond_le_last i := i.unixSecond_bounds.2
  eq_of_unixSecond {i j} second nanosecond := by
    have found := Instant.ofUnix?_unixSecond i
    have same : i.utc.unixSecond = j.utc.unixSecond
        ∧ i.utc.time.nanosecond = j.utc.time.nanosecond := ⟨second, nanosecond⟩
    rw [same.1, same.2, Instant.ofUnix?_unixSecond] at found
    exact (Option.some.inj found).symm
  nanosecond_first := rfl
  nanosecond_last := rfl
  toInt_millis v := v.instant.toInt_unixMilli
  unixSecond_of_ofMillis? h := (Instant.of_ofUnixMilli? h).1
  nanosecond_of_ofMillis? h := (Instant.of_ofUnixMilli? h).2
  exists_ofMillis? lower upper := Instant.exists_ofUnixMilli?_iff.2 ⟨lower, upper⟩
  eastSeconds_bounds o := by
    rw [o.toInt_seconds]
    exact ⟨o.seconds_gt, o.seconds_lt⟩
  eastSeconds_injective {o p} same := by
    have seconds := congrArg Int32.toInt same
    rw [o.toInt_seconds, p.toInt_seconds] at seconds
    cases o
    cases p
    simpa using seconds
  eastSeconds_of_offset? {seconds o} h := by
    change Int32.ofInt o.seconds = seconds
    rw [Offset.of?_eq_some h, Int32.ofInt_toInt]
  exists_offset? lower upper := ⟨_, dif_pos ⟨lower, upper⟩⟩
  toUtc_withOffset _ _ := rfl
  offset_withOffset _ _ := rfl
  withOffset_toUtc _ := rfl

end TypedSql
