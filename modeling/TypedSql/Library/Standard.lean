import TypedSql.Calendar.Reading
import TypedSql.Library.Basic
import TypedSql.Number.Decimal.OfFloat
import TypedSql.Number.Decimal.Reading
import TypedSql.Uuid

/-!
# The libraries the program runs with

Dates, decimals and identifiers as they are defined in the project. From here on a type of values
and a conversion that does not say otherwise is that of these libraries.
-/

namespace TypedSql

open Calendar

/-- A date as it is written. -/
def Date.items (d : Date) : List Char := dateText d.year d.month d.day

/-- A time as it is written. -/
def Time.items (t : Time) : List Char :=
  clockText t.hour t.minute (t.second + t.nanosecond / 1000000000) (t.nanosecond % 1000000000)

abbrev standardCalendar : CalendarLibrary where
  Date := TypedSql.Date
  year := Date.year
  month := Date.month
  day := Date.day
  date? := Date.of?
  Time := TypedSql.Time
  hour := Time.hour
  minute := Time.minute
  second := Time.second
  nanosecond := Time.nanosecond
  time? := Time.of?
  DateTime := TypedSql.DateTime
  date := DateTime.date
  time := DateTime.time
  dateTime := DateTime.mk
  atTime? d hour minute second := (Time.of? hour minute second 0).map (DateTime.mk d)
  Instant := TypedSql.Instant
  naive := Instant.utc
  utc := Instant.mk
  unixSecond i := i.utc.unixSecond
  ofMillis? ms := Instant.ofUnixMilli? ms.toInt
  first := Instant.first
  last := Instant.last
  Offset := TypedSql.Offset
  offset? seconds := Offset.of? seconds.toInt
  eastSeconds o := Int32.ofInt o.seconds
  OffsetInstant := TypedSql.OffsetInstant
  offset := OffsetInstant.offset
  toUtc := OffsetInstant.instant
  withOffset := OffsetInstant.mk
  millis v := Int64.ofInt v.instant.unixMilli
  dateText d := String.ofList d.items
  timeText t := String.ofList t.items
  dateTimeText v := String.ofList (v.date.items ++ ' ' :: v.time.items)
  rfc3339Text i := String.ofList (i.utc.date.items ++ 'T' :: i.utc.time.items ++ ['Z'])
  readDate? s := whole? date s.toList
  readTime? s := whole? time s.toList
  readShortTime? s := whole? shortTime s.toList
  readDateTime? s := whole? (dateTime blanks) s.toList
  readDateTimeT? s := whole? (dateTime (literal 'T')) s.toList
  readRfc3339? s := whole? strictInstant s.toList

abbrev standardDecimals : DecimalLibrary where
  Decimal := TypedSql.Decimal
  mantissa := Decimal.mantissa
  scale := Decimal.scale
  ofParts? := Decimal.ofParts?
  ofInt64 := Decimal.ofInt64
  ofFloat? := Decimal.ofFloat?
  read? := Decimal.read?
  toText := Decimal.toText
  roundTo := Decimal.roundTo
  rescale := Decimal.rescale

abbrev standardUuids : UuidLibrary where
  Uuid := TypedSql.Uuid
  bytes := Uuid.bytes
  ofBytes? := Uuid.ofBytes?
  read? := Uuid.read?

instance standardLibraries : Libraries where
  calendar := standardCalendar
  decimals := standardDecimals
  uuids := standardUuids

end TypedSql
