import TypedSql.Calendar.Date

/-!
# Times of day, local date-times and instants

A leap second is the last second of a minute with a nanosecond count of a whole second or more.
An instant is a date-time in UTC; together with an offset it also knows the local time it was
given in.
-/

namespace TypedSql

/-- A time of day with nanoseconds. -/
structure Time where
  hour : Nat
  minute : Nat
  second : Nat
  nanosecond : Nat
  hour_lt : hour < 24
  minute_lt : minute < 60
  second_lt : second < 60
  nanosecond_lt : nanosecond < 2000000000
  leap_at_end : 1000000000 ≤ nanosecond → second = 59
deriving DecidableEq, Repr

namespace Time

/-- The time with the given fields, if there is one. -/
def of? (hour minute second nanosecond : Nat) : Option Time :=
  if h : hour < 24 ∧ minute < 60 ∧ second < 60 ∧ nanosecond < 2000000000
      ∧ (1000000000 ≤ nanosecond → second = 59) then
    some ⟨hour, minute, second, nanosecond, h.1, h.2.1, h.2.2.1, h.2.2.2.1, h.2.2.2.2⟩
  else none

def midnight : Time :=
  ⟨0, 0, 0, 0, by decide, by decide, by decide, by decide, by decide⟩

/-- Seconds from midnight, a leap second counted as the one before it. -/
def secondOfDay (t : Time) : Nat := 3600 * t.hour + 60 * t.minute + t.second

/-- The time a number of seconds after midnight. -/
def ofSecondOfDay? (second nanosecond : Nat) : Option Time :=
  of? (second / 3600) (second / 60 % 60) (second % 60) nanosecond

theorem of?_self (t : Time) : of? t.hour t.minute t.second t.nanosecond = some t := by
  simp only [of?]
  rw [dif_pos ⟨t.hour_lt, t.minute_lt, t.second_lt, t.nanosecond_lt, t.leap_at_end⟩]

theorem ofSecondOfDay?_secondOfDay (t : Time) :
    ofSecondOfDay? t.secondOfDay t.nanosecond = some t := by
  have h := t.hour_lt
  have hm := t.minute_lt
  have hs := t.second_lt
  have e1 : t.secondOfDay / 3600 = t.hour := by unfold secondOfDay; omega
  have e2 : t.secondOfDay / 60 % 60 = t.minute := by unfold secondOfDay; omega
  have e3 : t.secondOfDay % 60 = t.second := by unfold secondOfDay; omega
  rw [ofSecondOfDay?, e1, e2, e3, of?_self]

end Time

/-- A date and a time of day. -/
structure DateTime where
  date : Date
  time : Time
deriving DecidableEq, Repr

namespace DateTime

/-- Seconds from 1970-01-01 00:00:00. -/
def unixSecond (t : DateTime) : Int := 86400 * t.date.unixDay + t.time.secondOfDay

/-- The date-time a number of seconds after 1970-01-01 00:00:00. -/
def ofUnix? (second : Int) (nanosecond : Nat) : Option DateTime := do
  let date ← Date.ofUnixDay? (second / 86400)
  let time ← Time.ofSecondOfDay? (second % 86400).toNat nanosecond
  pure ⟨date, time⟩

end DateTime

/-- A point in time, as a date-time in UTC. -/
structure Instant where
  utc : DateTime
deriving DecidableEq, Repr

namespace Instant

def ofUnix? (second : Int) (nanosecond : Nat) : Option Instant :=
  (DateTime.ofUnix? second nanosecond).map Instant.mk

/-- Milliseconds from 1970, rounded down. -/
def unixMilli (t : Instant) : Int :=
  1000 * t.utc.unixSecond + (t.utc.time.nanosecond / 1000000 : Nat)

def ofUnixMilli? (ms : Int) : Option Instant :=
  ofUnix? (ms / 1000) (1000000 * (ms % 1000).toNat)

/-- The first instant of the calendar. -/
def first : Instant := ⟨⟨Date.first, Time.midnight⟩⟩

/-- The last instant of the calendar, leap seconds apart. -/
def last : Instant :=
  ⟨⟨Date.last, ⟨23, 59, 59, 999999999, by decide, by decide, by decide, by decide, by decide⟩⟩⟩

end Instant

/-- The offset of local time from UTC in seconds, less than a day. -/
structure Offset where
  seconds : Int
  seconds_gt : -86400 < seconds
  seconds_lt : seconds < 86400
deriving DecidableEq, Repr

namespace Offset

def of? (seconds : Int) : Option Offset :=
  if h : -86400 < seconds ∧ seconds < 86400 then some ⟨seconds, h.1, h.2⟩ else none

end Offset

/-- An instant with an offset. -/
structure OffsetInstant where
  instant : Instant
  offset : Offset
deriving DecidableEq, Repr

end TypedSql
