import TypedSql.Kind.Conversion
import TypedSql.Proofs.Calendar.Standard

/-!
# Stored dates and times in order

**Theorem (`Kind.encode_lt_iff_cut`).** Of two instants of the years 0 to 9999, the earlier one
has the lesser text, unless it is the later one cut to seconds, milliseconds or microseconds: then
it has the greater text.

Every field down to the second has a fixed width. A fraction has three, six or nine digits, and one
that is the beginning of another is the lesser text by itself. The `Z` behind the text of an instant
is greater than the point and the digits, and turns that around.

Only how the library writes values is used here, and what their fields are.
-/

namespace TypedSql

open Calendar

/-! ## Fractions -/

namespace Calendar

/-- `f` is `g` cut to seconds, milliseconds or microseconds. -/
def CutFraction (f g : Nat) : Prop :=
  f ≠ g ∧ (f = 0 ∨ f = g / 1000000 * 1000000 ∨ f = g / 1000 * 1000)

/-- Fractions are in the order of their numbers, unless one is cut from the other and the ending
comes behind the digits. -/
theorem fractionText_append_lt_iff {us : List Char} {first : Prop} (ending : Ending us first)
    {f g : Nat} (hf : f < 1000000000) (hg : g < 1000000000) :
    fractionText f ++ us < fractionText g ++ us ↔
      f < g ∧ (first ∨ ¬ CutFraction f g) ∨ CutFraction g f ∧ ¬ first := by
  have point : '.' ≤ '9' := by decide
  unfold CutFraction
  by_cases zero : f = 0
  · subst zero
    by_cases none : g = 0
    · subst none
      simp [fractionText]
    · obtain ⟨l, n, text, -, -⟩ := fractionText_groups none hg
      rw [text, fractionText, if_pos rfl, List.nil_append, List.cons_append,
        ending.before _ _ point]
      by_cases hfirst : first <;> simp [hfirst] <;> omega
  · obtain ⟨k, m, left, hm, sizes⟩ := fractionText_groups zero hf
    by_cases none : g = 0
    · subst none
      rw [left, fractionText, if_pos rfl, List.nil_append, List.cons_append,
        ending.behind _ _ point]
      by_cases hfirst : first <;> simp [hfirst]
      omega
    · obtain ⟨l, n, right, hn, others⟩ := fractionText_groups none hg
      rw [left, right, List.cons_append, List.cons_append, List.cons_lt_cons_iff]
      simp only [Char.lt_irrefl, false_or, true_and]
      rcases sizes with ⟨rfl, rfl⟩ | ⟨rfl, rfl⟩ | ⟨rfl, rfl⟩ <;>
        rcases others with ⟨rfl, rfl⟩ | ⟨rfl, rfl⟩ | ⟨rfl, rfl⟩
      · rw [padded_same_lt_iff (i := 3) (by decide) (by omega) (by omega)]
        by_cases hfirst : first <;> simp [hfirst]
        omega
      · rw [ending.shorter_lt_iff (i := 3) (k := 3) (by decide) (by decide) (by omega)
          (by omega)]
        by_cases hfirst : first <;> simp [hfirst] <;> omega
      · rw [ending.shorter_lt_iff (i := 3) (k := 6) (by decide) (by decide) (by omega)
          (by omega)]
        by_cases hfirst : first <;> simp [hfirst] <;> omega
      · rw [ending.longer_lt_iff (i := 3) (k := 3) (by decide) (by decide) (by omega)
          (by omega)]
        by_cases hfirst : first <;> simp [hfirst] <;> omega
      · rw [padded_same_lt_iff (i := 6) (by decide) (by omega) (by omega)]
        by_cases hfirst : first <;> simp [hfirst]
        omega
      · rw [ending.shorter_lt_iff (i := 6) (k := 3) (by decide) (by decide) (by omega)
          (by omega)]
        by_cases hfirst : first <;> simp [hfirst] <;> omega
      · rw [ending.longer_lt_iff (i := 3) (k := 6) (by decide) (by decide) (by omega)
          (by omega)]
        by_cases hfirst : first <;> simp [hfirst] <;> omega
      · rw [ending.longer_lt_iff (i := 6) (k := 3) (by decide) (by decide) (by omega)
          (by omega)]
        by_cases hfirst : first <;> simp [hfirst] <;> omega
      · rw [padded_same_lt_iff (i := 9) (by decide) (by omega) (by omega)]
        by_cases hfirst : first <;> simp [hfirst]
        omega

end Calendar

namespace CalendarLibrary

variable {L : CalendarLibrary} (fields : L.Fields)

/-! ## Times of day -/

/-- The times are written alike down to the second. -/
def SameSecond (a b : L.Time) : Prop :=
  L.hour a = L.hour b ∧ L.minute a = L.minute b ∧ L.writtenSecond a = L.writtenSecond b

theorem fraction_lt (t : L.Time) : L.fraction t < 1000000000 := Nat.mod_lt _ (by decide)

include fields

theorem writtenSecond_lt (t : L.Time) : L.writtenSecond t < 100 := by
  have hs := fields.second_lt t
  have hn := fields.nanosecond_lt t
  unfold writtenSecond
  omega

/-- A leap second belongs to the second in front of it, and is written as one of its own. -/
theorem timeBefore_iff {a b : L.Time} (la : L.LeapAtEnd a) (lb : L.LeapAtEnd b) :
    L.TimeBefore a b ↔ L.hour a < L.hour b ∨ L.hour a = L.hour b ∧ (L.minute a < L.minute b
      ∨ L.minute a = L.minute b ∧ (L.writtenSecond a < L.writtenSecond b
        ∨ L.writtenSecond a = L.writtenSecond b ∧ L.fraction a < L.fraction b)) := by
  have ma := fields.minute_lt a
  have mb := fields.minute_lt b
  have sa := fields.second_lt a
  have sb := fields.second_lt b
  have na := fields.nanosecond_lt a
  have nb := fields.nanosecond_lt b
  unfold LeapAtEnd at la lb
  unfold TimeBefore secondOfDay writtenSecond fraction
  omega

theorem timeBefore_iff_of_sameSecond {a b : L.Time} (la : L.LeapAtEnd a) (lb : L.LeapAtEnd b)
    (h : SameSecond a b) : L.TimeBefore a b ↔ L.fraction a < L.fraction b := by
  obtain ⟨hour, minute, second⟩ := h
  rw [timeBefore_iff fields la lb, hour, minute, second]
  simp

theorem timeItems_append_lt_iff {a b : L.Time} (la : L.LeapAtEnd a) (lb : L.LeapAtEnd b)
    (us vs : List Char) :
    L.timeItems a ++ us < L.timeItems b ++ vs ↔ L.TimeBefore a b ∧ ¬ SameSecond a b
      ∨ SameSecond a b ∧ fractionText (L.fraction a) ++ us < fractionText (L.fraction b) ++ vs := by
  have row : ∀ (t : L.Time) (ws : List Char), L.timeItems t ++ ws
      = padded 2 (L.hour t) ++ ':' :: (padded 2 (L.minute t) ++ ':' ::
        (padded 2 (L.writtenSecond t) ++ (fractionText (L.fraction t) ++ ws))) := by
    intro t ws
    simp [timeItems, clockText]
  have ha := fields.hour_lt a
  have hb := fields.hour_lt b
  have ma := fields.minute_lt a
  have mb := fields.minute_lt b
  have sa := writtenSecond_lt fields a
  have sb := writtenSecond_lt fields b
  rw [row, row, padded_append_lt_iff (by decide) (by omega) (by omega), List.cons_lt_cons_iff,
    padded_append_lt_iff (by decide) (by omega) (by omega), List.cons_lt_cons_iff,
    padded_append_lt_iff (by decide) (by omega) (by omega), timeBefore_iff fields la lb, SameSecond]
  simp only [Char.lt_irrefl, false_or, true_and]
  by_cases later : fractionText (L.fraction a) ++ us < fractionText (L.fraction b) ++ vs
  · simp only [later, and_true]
    constructor <;> omega
  · simp only [later, and_false, or_false]
    constructor <;> omega

/-! ## Dates -/

/-- A date is its year, month and day. -/
theorem date_eq_iff {a b : L.Date} :
    a = b ↔ L.year a = L.year b ∧ L.month a = L.month b ∧ L.day a = L.day b := by
  refine ⟨fun same => by rw [same]; exact ⟨rfl, rfl, rfl⟩, fun ⟨year, month, day⟩ => ?_⟩
  have made := fields.date?_fields a
  rw [year, month, day, fields.date?_fields b] at made
  exact (Option.some.inj made).symm

theorem dateItems_append_lt_iff {a b : L.Date} (ha : L.Unsigned a) (hb : L.Unsigned b)
    (us vs : List Char) :
    L.dateItems a ++ us < L.dateItems b ++ vs ↔ L.DateBefore a b ∨ a = b ∧ us < vs := by
  have row : ∀ (d : L.Date), L.Unsigned d → ∀ ws, L.dateItems d ++ ws
      = padded 4 (L.year d).toNat ++ '-' :: (padded 2 (L.month d) ++ '-' ::
        (padded 2 (L.day d) ++ ws)) := by
    intro d hd ws
    have shown : 0 ≤ L.year d ∧ L.year d ≤ 9999 := hd
    rw [dateItems, Calendar.dateText, yearText, if_pos shown]
    simp
  have months := fields.month_le a
  have months' := fields.month_le b
  have days := fields.day_le a
  have days' := fields.day_le b
  unfold Unsigned at ha hb
  rw [row a ha, row b hb, padded_append_lt_iff (by decide) (by omega) (by omega),
    List.cons_lt_cons_iff, padded_append_lt_iff (by decide) (by omega) (by omega),
    List.cons_lt_cons_iff, padded_append_lt_iff (by decide) (by omega) (by omega),
    date_eq_iff fields, DateBefore]
  simp only [Char.lt_irrefl, false_or, true_and]
  by_cases later : us < vs
  · simp only [later, and_true]
    constructor <;> omega
  · simp only [later, and_false, or_false]
    constructor <;> omega

omit fields in
theorem not_dateBefore_self (d : L.Date) : ¬ L.DateBefore d d := by
  unfold DateBefore
  omega

/-! ## Local date-times -/

omit fields in
/-- The date-times are written alike down to the second. -/
def SameDateSecond (a b : L.DateTime) : Prop :=
  L.date a = L.date b ∧ SameSecond (L.time a) (L.time b)

omit fields in
theorem sameDateSecond_comm {a b : L.DateTime} : SameDateSecond a b ↔ SameDateSecond b a := by
  unfold SameDateSecond SameSecond
  simp only [eq_comm]

/-- What is written of a date-time, the fraction last. -/
theorem dateTimeBefore_iff_of_sameDateSecond {a b : L.DateTime} (la : L.LeapAtEnd (L.time a))
    (lb : L.LeapAtEnd (L.time b)) (h : SameDateSecond a b) :
    L.DateTimeBefore a b ↔ L.fraction (L.time a) < L.fraction (L.time b) := by
  rw [DateTimeBefore, h.1, timeBefore_iff_of_sameSecond fields la lb h.2]
  simp [not_dateBefore_self]

theorem dateTimeItems_append_lt_iff {a b : L.DateTime} (ha : L.Unsigned (L.date a))
    (hb : L.Unsigned (L.date b)) (la : L.LeapAtEnd (L.time a)) (lb : L.LeapAtEnd (L.time b))
    (separator : Char) (us vs : List Char) :
    L.dateItems (L.date a) ++ separator :: L.timeItems (L.time a) ++ us
        < L.dateItems (L.date b) ++ separator :: L.timeItems (L.time b) ++ vs ↔
      L.DateTimeBefore a b ∧ ¬ SameDateSecond a b ∨ SameDateSecond a b
        ∧ fractionText (L.fraction (L.time a)) ++ us
          < fractionText (L.fraction (L.time b)) ++ vs := by
  have apart : L.DateBefore (L.date a) (L.date b) → L.date a ≠ L.date b := by
    intro h same
    rw [same] at h
    exact not_dateBefore_self _ h
  rw [List.append_assoc, List.append_assoc, List.cons_append, List.cons_append,
    dateItems_append_lt_iff fields ha hb, List.cons_lt_cons_iff,
    timeItems_append_lt_iff fields la lb, DateTimeBefore, SameDateSecond]
  simp only [Char.lt_irrefl, false_or, true_and]
  grind

/-! ## Instants -/

omit fields in
/-- The instant is the other one cut to seconds, milliseconds or microseconds. -/
def CutFrom (a b : L.Instant) : Prop :=
  SameDateSecond (L.naive a) (L.naive b)
    ∧ CutFraction (L.fraction (L.time (L.naive a))) (L.fraction (L.time (L.naive b)))

/-- What is cut from an instant is earlier. -/
theorem CutFrom.before {a b : L.Instant} (la : L.LeapAtEnd (L.time (L.naive a)))
    (lb : L.LeapAtEnd (L.time (L.naive b))) (h : CutFrom a b) : L.Before a b := by
  obtain ⟨same, other, cut⟩ := h
  refine (dateTimeBefore_iff_of_sameDateSecond fields la lb same).2 ?_
  omega

omit fields in
theorem not_before_of_before {a b : L.Instant} (h : L.Before a b) : ¬ L.Before b a := by
  unfold Before DateTimeBefore DateBefore TimeBefore at *
  grind

end CalendarLibrary

namespace Kind

open CalendarLibrary

/-- **Instants are stored in the order of time, except that one is stored behind those it is cut
from.** -/
theorem encode_lt_iff_cut [lib : Libraries] (fields : lib.calendar.Fields)
    (writes : lib.calendar.Writes) (a b : lib.calendar.Instant)
    (ha : lib.calendar.Unsigned (lib.calendar.date (lib.calendar.naive a)))
    (hb : lib.calendar.Unsigned (lib.calendar.date (lib.calendar.naive b)))
    (la : lib.calendar.LeapAtEnd (lib.calendar.time (lib.calendar.naive a)))
    (lb : lib.calendar.LeapAtEnd (lib.calendar.time (lib.calendar.naive b))) :
    ∃ s t, Kind.timestamp.encode a = .ok (.text s) ∧ Kind.timestamp.encode b = .ok (.text t)
      ∧ (s < t ↔ lib.calendar.Before a b ∧ ¬ CutFrom a b ∨ CutFrom b a)
      ∧ ((s < t ↔ lib.calendar.Before a b) ↔ ¬ CutFrom a b ∧ ¬ CutFrom b a) := by
  have order : lib.calendar.rfc3339Text a < lib.calendar.rfc3339Text b
      ↔ lib.calendar.Before a b ∧ ¬ CutFrom a b ∨ CutFrom b a := by
    have row := dateTimeItems_append_lt_iff fields ha hb la lb 'T' ['Z'] ['Z']
    rw [fractionText_append_lt_iff (ending_singleton (by decide)) (fraction_lt _)
      (fraction_lt _)] at row
    rw [writes.rfc3339, writes.rfc3339, String.lt_iff, String.toList_ofList, String.toList_ofList,
      row, Before, CutFrom, CutFrom, sameDateSecond_comm]
    by_cases same : SameDateSecond (lib.calendar.naive b) (lib.calendar.naive a)
    · simp [same, dateTimeBefore_iff_of_sameDateSecond fields la lb (sameDateSecond_comm.1 same)]
    · simp [same]
  refine ⟨_, _, rfl, rfl, order, ?_⟩
  rw [order]
  by_cases cut : CutFrom a b
  · have before := cut.before fields la lb
    have other : ¬ CutFrom b a := fun cut' =>
      not_before_of_before before (cut'.before fields lb la)
    simp [cut, before, other]
  · by_cases cut' : CutFrom b a
    · simp [cut', not_before_of_before (cut'.before fields lb la)]
    · simp [cut, cut']

/-! ### Half a second later -/

/-- 1 June 2021 at half past nine, and so many nanoseconds. -/
def morning (nanosecond : Nat) (h : nanosecond < 1000000000) : Instant where
  utc :=
    { date := ⟨2021, 6, 1, by decide, by decide, by decide, by decide⟩
      time := ⟨9, 30, 0, nanosecond, by decide, by decide, Time.midnight.second_lt, by omega,
        by omega⟩ }

theorem encode_lt_iff_cut_of_morning :
    let a : standardCalendar.Instant := morning 0 (by decide)
    let b : standardCalendar.Instant := morning 500000000 (by decide)
    standardCalendar.Fields ∧ standardCalendar.Writes
      ∧ standardCalendar.Unsigned a.utc.date ∧ standardCalendar.Unsigned b.utc.date
      ∧ standardCalendar.LeapAtEnd a.utc.time ∧ standardCalendar.LeapAtEnd b.utc.time
      ∧ ∃ s t, Kind.timestamp.encode a = .ok (.text s) ∧ Kind.timestamp.encode b = .ok (.text t)
        ∧ (s < t ↔ standardCalendar.Before a b ∧ ¬ CutFrom a b ∨ CutFrom b a)
        ∧ ((s < t ↔ standardCalendar.Before a b) ↔ ¬ CutFrom a b ∧ ¬ CutFrom b a) := by
  intro a b
  have years : (0 : Int) ≤ 2021 ∧ (2021 : Int) ≤ 9999 := by decide
  exact ⟨standardCalendar_fields, standardCalendar_writes, years, years, a.utc.time.leap_at_end,
    b.utc.time.leap_at_end,
    encode_lt_iff_cut standardCalendar_fields standardCalendar_writes a b years years
      a.utc.time.leap_at_end b.utc.time.leap_at_end⟩

/-- The whole second is earlier than the half, and its text is the greater one. -/
theorem whole_second_stored_behind_half :
    standardCalendar.Before (morning 0 (by decide)) (morning 500000000 (by decide))
      ∧ Kind.timestamp.encode (morning 0 (by decide)) = .ok (.text "2021-06-01T09:30:00Z")
      ∧ Kind.timestamp.encode (morning 500000000 (by decide))
        = .ok (.text "2021-06-01T09:30:00.500Z")
      ∧ ¬ "2021-06-01T09:30:00Z" < "2021-06-01T09:30:00.500Z" := by
  refine ⟨.inr ⟨rfl, .inr ⟨rfl, ?_⟩⟩, rfl, rfl, by decide⟩
  exact (by decide : (0 : Nat) < 500000000)

end Kind
end TypedSql
