import TypedSql.Calendar.Writing
import TypedSql.Number.Numeral

/-!
# The library of dates and times

Dates, times of day and instants are values of a library. `CalendarLibrary` has its types, the
fields of their values and the functions that the kinds call, and says nothing about what these
do. What the library documents of them stands behind it in four properties:

* `Fields`: the fields of a value, and values from fields;
* `Writes`: how values are formatted;
* `Reads`: what is parsed;
* `Counts`: milliseconds from 1970, and offsets.

A theorem about stored dates and times has as hypotheses those of the four that it rests on, and
holds of every library that keeps to them.

A value within a leap second has a nanosecond that counts on behind a whole second. The library
makes such values at second 59 only, but there are ways to move them to another second
(`LeapAtEnd`).
-/

namespace TypedSql

structure CalendarLibrary where
  /-- A date without a time zone. -/
  Date : Type
  year : Date → Int
  month : Date → Nat
  day : Date → Nat
  /-- The date of a year, a month and a day, if there is one: `from_ymd_opt`. -/
  date? : Int → Nat → Nat → Option Date
  /-- A time of day without a time zone. -/
  Time : Type
  hour : Time → Nat
  minute : Time → Nat
  second : Time → Nat
  nanosecond : Time → Nat
  /-- The time of an hour, a minute, a second and a nanosecond, if there is one:
  `from_hms_nano_opt`. -/
  time? : Nat → Nat → Nat → Nat → Option Time
  /-- A date and a time of day without a time zone. -/
  DateTime : Type
  date : DateTime → Date
  time : DateTime → Time
  dateTime : Date → Time → DateTime
  /-- The date at an hour, a minute and a second, if there is such a time: `and_hms_opt`. -/
  atTime? : Date → Nat → Nat → Nat → Option DateTime
  /-- A date and a time in UTC. -/
  Instant : Type
  /-- The date and time on a clock in UTC: `naive_utc`. -/
  naive : Instant → DateTime
  /-- The instant of a date and a time on a clock in UTC: `and_utc`. -/
  utc : DateTime → Instant
  /-- Whole seconds from the start of 1970, leap seconds not counted: `timestamp`. -/
  unixSecond : Instant → Int
  /-- The instant of a count of milliseconds, if there is one: `from_timestamp_millis`. -/
  ofMillis? : Int64 → Option Instant
  /-- The first instant: `MIN_UTC`. -/
  first : Instant
  /-- The last instant: `MAX_UTC`. -/
  last : Instant
  /-- How far local time is ahead of UTC. -/
  Offset : Type
  /-- The offset of so many seconds to the east, if there is one: `east_opt`. -/
  offset? : Int32 → Option Offset
  /-- The seconds of an offset: `local_minus_utc`. -/
  eastSeconds : Offset → Int32
  /-- A date and a time with an offset. -/
  OffsetInstant : Type
  offset : OffsetInstant → Offset
  /-- The instant of a time with an offset: `with_timezone` to UTC. -/
  toUtc : OffsetInstant → Instant
  /-- An instant on the clock of an offset: `with_timezone`. -/
  withOffset : Instant → Offset → OffsetInstant
  /-- Milliseconds from the start of 1970: `timestamp_millis`. -/
  millis : OffsetInstant → Int64
  /-- `format` with `%Y-%m-%d`. -/
  dateText : Date → String
  /-- `format` with `%H:%M:%S%.f`. -/
  timeText : Time → String
  /-- `format` with `%Y-%m-%d %H:%M:%S%.f`. -/
  dateTimeText : DateTime → String
  /-- `to_rfc3339_opts` with a fraction as long as it has to be and `Z` for UTC. -/
  rfc3339Text : Instant → String
  /-- `parse_from_str` with `%Y-%m-%d`. -/
  readDate? : String → Option Date
  /-- `parse_from_str` with `%H:%M:%S%.f`. -/
  readTime? : String → Option Time
  /-- `parse_from_str` with `%H:%M`. -/
  readShortTime? : String → Option Time
  /-- `parse_from_str` with `%Y-%m-%d %H:%M:%S%.f`. -/
  readDateTime? : String → Option DateTime
  /-- `parse_from_str` with `%Y-%m-%dT%H:%M:%S%.f`. -/
  readDateTimeT? : String → Option DateTime
  /-- `parse_from_rfc3339`. -/
  readRfc3339? : String → Option OffsetInstant

namespace CalendarLibrary

variable (L : CalendarLibrary)

/-! ## Fields -/

/-- A leap second is one behind the last second of a minute, as `time?` makes them. -/
def LeapAtEnd (t : L.Time) : Prop := 1000000000 ≤ L.nanosecond t → L.second t = 59

/-- The second as written: a leap second is a second of its own. -/
def writtenSecond (t : L.Time) : Nat := L.second t + L.nanosecond t / 1000000000

/-- The fraction of the second in nanoseconds. -/
def fraction (t : L.Time) : Nat := L.nanosecond t % 1000000000

/-- A year of four digits needs no sign. -/
def Unsigned (d : L.Date) : Prop := 0 ≤ L.year d ∧ L.year d ≤ 9999

/-- An earlier day. -/
def DateBefore (a b : L.Date) : Prop :=
  L.year a < L.year b ∨ (L.year a = L.year b
    ∧ (L.month a < L.month b ∨ (L.month a = L.month b ∧ L.day a < L.day b)))

/-- Seconds from midnight, a leap second counted as the one before it. -/
def secondOfDay (t : L.Time) : Nat := 3600 * L.hour t + 60 * L.minute t + L.second t

/-- Earlier in the day. -/
def TimeBefore (a b : L.Time) : Prop :=
  L.secondOfDay a < L.secondOfDay b
    ∨ (L.secondOfDay a = L.secondOfDay b ∧ L.nanosecond a < L.nanosecond b)

/-- Earlier on the calendar. -/
def DateTimeBefore (a b : L.DateTime) : Prop :=
  L.DateBefore (L.date a) (L.date b) ∨ (L.date a = L.date b ∧ L.TimeBefore (L.time a) (L.time b))

/-- Earlier. -/
def Before (a b : L.Instant) : Prop := L.DateTimeBefore (L.naive a) (L.naive b)

/-- The fields of dates, times and instants. -/
structure Fields : Prop where
  date?_fields : ∀ d, L.date? (L.year d) (L.month d) (L.day d) = some d
  month_le : ∀ d, L.month d ≤ 12
  day_le : ∀ d, L.day d ≤ 31
  time?_fields : ∀ t, L.LeapAtEnd t →
    L.time? (L.hour t) (L.minute t) (L.second t) (L.nanosecond t) = some t
  hour_lt : ∀ t, L.hour t < 24
  minute_lt : ∀ t, L.minute t < 60
  second_lt : ∀ t, L.second t < 60
  nanosecond_lt : ∀ t, L.nanosecond t < 2000000000
  /-- There is a time for all fields within their ranges. -/
  exists_time? : ∀ {hour minute second nanosecond : Nat}, hour < 24 → minute < 60 → second < 60 →
    nanosecond < 1000000000 → ∃ t, L.time? hour minute second nanosecond = some t
  nanosecond_of_time? : ∀ {hour minute second nanosecond : Nat} {t : L.Time},
    L.time? hour minute second nanosecond = some t → L.nanosecond t = nanosecond
  leapAtEnd_of_time? : ∀ {hour minute second nanosecond : Nat} {t : L.Time},
    L.time? hour minute second nanosecond = some t → L.LeapAtEnd t
  dateTime_fields : ∀ v, L.dateTime (L.date v) (L.time v) = v
  date_dateTime : ∀ d t, L.date (L.dateTime d t) = d
  time_dateTime : ∀ d t, L.time (L.dateTime d t) = t
  atTime?_eq : ∀ d hour minute second,
    L.atTime? d hour minute second = (L.time? hour minute second 0).map (L.dateTime d)
  utc_naive : ∀ i, L.utc (L.naive i) = i
  naive_utc : ∀ v, L.naive (L.utc v) = v

/-! ## Formatting -/

/-- The items `%Y-%m-%d` of a date. -/
def dateItems (d : L.Date) : List Char := Calendar.dateText (L.year d) (L.month d) (L.day d)

/-- The items `%H:%M:%S%.f` of a time. -/
def timeItems (t : L.Time) : List Char :=
  Calendar.clockText (L.hour t) (L.minute t) (L.writtenSecond t) (L.fraction t)

/-- Items are written one behind the other: numbers with leading zeros, a year with a sign if four
digits are not enough, a fraction with 0, 3, 6 or 9 digits. -/
structure Writes : Prop where
  date : ∀ d, L.dateText d = String.ofList (L.dateItems d)
  time : ∀ t, L.timeText t = String.ofList (L.timeItems t)
  dateTime : ∀ v, L.dateTimeText v
    = String.ofList (L.dateItems (L.date v) ++ ' ' :: L.timeItems (L.time v))
  rfc3339 : ∀ i, L.rfc3339Text i
    = String.ofList
        (L.dateItems (L.date (L.naive i)) ++ 'T' :: L.timeItems (L.time (L.naive i)) ++ ['Z'])

end CalendarLibrary

/-! ## Parsing -/

namespace Calendar

open Text

/-- A numeral of at least `least` and at most `most` digits. -/
structure IsNumeral (least most : Nat) (cs : List Char) (n : Nat) : Prop where
  digits : ∀ c ∈ cs, isAsciiDigit c = true
  least_le : least ≤ cs.length
  le_most : cs.length ≤ most
  value : Numeral.ofDigits 0 cs = n

/-- A year of up to four digits, or of a sign and any number of them. -/
inductive IsYear : List Char → Int → Prop
  | plain {cs : List Char} {n : Nat} : IsNumeral 1 4 cs n → IsYear cs n
  | plus {cs : List Char} {n : Nat} : IsNumeral 1 cs.length cs n → IsYear ('+' :: cs) n
  | minus {cs : List Char} {n : Nat} : IsNumeral 1 cs.length cs n → IsYear ('-' :: cs) (-n)

/-- A year of four digits. -/
inductive IsFullYear : List Char → Int → Prop
  | mk {cs : List Char} {n : Nat} : IsNumeral 4 4 cs n → IsFullYear cs n

/-- Nothing, or a point and up to nine digits. -/
inductive IsFraction : List Char → Nat → Prop
  | none : IsFraction [] 0
  | some {cs : List Char} {n : Nat} : IsNumeral 1 9 cs n →
    IsFraction ('.' :: cs) (n * tenTo (9 - cs.length))

/-- Year, month and day with hyphens between them, the month and the day of at least `least`
digits. -/
inductive IsDate (year : List Char → Int → Prop) (least : Nat) :
    List Char → Int → Nat → Nat → Prop
  | mk {ys ms ds : List Char} {y : Int} {m d : Nat} : year ys y → IsNumeral least 2 ms m →
    IsNumeral least 2 ds d → IsDate year least (ys ++ '-' :: ms ++ '-' :: ds) y m d

/-- Hour, minute and second with colons between them, each of at least `least` digits, and a
fraction. -/
inductive IsClock (least : Nat) : List Char → Nat → Nat → Nat → Nat → Prop
  | mk {hs ms ss fs : List Char} {h m s n : Nat} : IsNumeral least 2 hs h →
    IsNumeral least 2 ms m → IsNumeral least 2 ss s → IsFraction fs n →
    IsClock least (hs ++ ':' :: ms ++ ':' :: ss ++ fs) h m s n

end Calendar

namespace CalendarLibrary

open Calendar

variable (L : CalendarLibrary)

/-- The time of written fields; second 60 is a leap second. -/
def clock? (hour minute second fraction : Nat) : Option L.Time :=
  if second = 60 then L.time? hour minute 59 (1000000000 + fraction)
  else L.time? hour minute second fraction

/-- The date and the time of written fields. -/
def calendar? (year : Int) (month day hour minute second fraction : Nat) : Option L.DateTime := do
  let d ← L.date? year month day
  let t ← L.clock? hour minute second fraction
  pure (L.dateTime d t)

/-- A parser takes the items of its format one behind the other, numbers of one digit up to as many
as the item has, and takes the whole text or nothing. A parser of RFC 3339 wants every digit. Second
60 is a leap second, and no other second is. -/
structure Reads : Prop where
  date : ∀ {cs : List Char} {y : Int} {m d : Nat}, IsDate IsYear 1 cs y m d →
    L.readDate? (String.ofList cs) = L.date? y m d
  time : ∀ {cs : List Char} {h m s n : Nat}, IsClock 1 cs h m s n →
    L.readTime? (String.ofList cs) = L.clock? h m s n
  dateTime : ∀ {ds cs : List Char} {y : Int} {mo d h m s n : Nat}, IsDate IsYear 1 ds y mo d →
    IsClock 1 cs h m s n →
    L.readDateTime? (String.ofList (ds ++ ' ' :: cs)) = L.calendar? y mo d h m s n
  rfc3339 : ∀ {ds cs : List Char} {y : Int} {mo d h m s n : Nat}, IsDate IsFullYear 2 ds y mo d →
    IsClock 2 cs h m s n →
    (L.readRfc3339? (String.ofList (ds ++ 'T' :: cs ++ ['Z']))).map L.toUtc
      = (L.calendar? y mo d h m s n).map L.utc
  /-- Nothing is left behind the last item, which ends with a digit. -/
  ends_of_dateTime : ∀ {cs : List Char} {v : L.DateTime},
    L.readDateTime? (String.ofList cs) = some v ∨ L.readDateTimeT? (String.ofList cs) = some v →
    ∃ c, cs.getLast? = some c ∧ Text.isAsciiDigit c = true
  /-- The year comes first and has no sign. -/
  begins_of_rfc3339 : ∀ {cs : List Char} {v : L.OffsetInstant},
    L.readRfc3339? (String.ofList cs) = some v →
    ∃ c, cs.head? = some c ∧ Text.isAsciiDigit c = true
  leapAtEnd_of_time : ∀ {s : String} {t : L.Time},
    L.readTime? s = some t ∨ L.readShortTime? s = some t → L.LeapAtEnd t
  leapAtEnd_of_dateTime : ∀ {s : String} {v : L.DateTime},
    L.readDateTime? s = some v ∨ L.readDateTimeT? s = some v → L.LeapAtEnd (L.time v)

/-! ## Counts -/

/-- Milliseconds from 1970, rounded down. -/
def unixMilli (i : L.Instant) : Int :=
  1000 * L.unixSecond i + (L.nanosecond (L.time (L.naive i)) / 1000000 : Nat)

/-- Nanoseconds from 1970; a leap second goes on counting behind its second. -/
def unixNano (i : L.Instant) : Int :=
  1000000000 * L.unixSecond i + L.nanosecond (L.time (L.naive i))

/-- Instants and offsets by number. The instants are those from the first one to the last one, an
offset is less than a day. -/
structure Counts : Prop where
  unixSecond_first_le : ∀ i, L.unixSecond L.first ≤ L.unixSecond i
  unixSecond_le_last : ∀ i, L.unixSecond i ≤ L.unixSecond L.last
  eq_of_unixSecond : ∀ {i j : L.Instant}, L.unixSecond i = L.unixSecond j →
    L.nanosecond (L.time (L.naive i)) = L.nanosecond (L.time (L.naive j)) → i = j
  nanosecond_first : L.nanosecond (L.time (L.naive L.first)) = 0
  nanosecond_last : L.nanosecond (L.time (L.naive L.last)) = 999999999
  toInt_millis : ∀ v, (L.millis v).toInt = L.unixMilli (L.toUtc v)
  unixSecond_of_ofMillis? : ∀ {ms : Int64} {i : L.Instant}, L.ofMillis? ms = some i →
    L.unixSecond i = ms.toInt / 1000
  nanosecond_of_ofMillis? : ∀ {ms : Int64} {i : L.Instant}, L.ofMillis? ms = some i →
    L.nanosecond (L.time (L.naive i)) = 1000000 * (ms.toInt % 1000).toNat
  exists_ofMillis? : ∀ {ms : Int64}, L.unixMilli L.first ≤ ms.toInt →
    ms.toInt ≤ L.unixMilli L.last → ∃ i, L.ofMillis? ms = some i
  eastSeconds_bounds : ∀ o, -86400 < (L.eastSeconds o).toInt ∧ (L.eastSeconds o).toInt < 86400
  eastSeconds_injective : ∀ {o p : L.Offset}, L.eastSeconds o = L.eastSeconds p → o = p
  eastSeconds_of_offset? : ∀ {seconds : Int32} {o : L.Offset}, L.offset? seconds = some o →
    L.eastSeconds o = seconds
  exists_offset? : ∀ {seconds : Int32}, -86400 < seconds.toInt → seconds.toInt < 86400 →
    ∃ o, L.offset? seconds = some o
  toUtc_withOffset : ∀ i o, L.toUtc (L.withOffset i o) = i
  offset_withOffset : ∀ i o, L.offset (L.withOffset i o) = o
  withOffset_toUtc : ∀ v, L.withOffset (L.toUtc v) (L.offset v) = v

end CalendarLibrary
end TypedSql
