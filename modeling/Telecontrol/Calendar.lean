/-!
# The proleptic Gregorian calendar

Dates of the Gregorian calendar, continued into the past without end, and days counted from
the first of January 1970.

* `Date.dayNumber` counts the days up to a date, `Date.ofDayNumber` finds the date of a day;
* `CalendarTime` is a date with a time of day and `ZonedTime` one with an offset from
  universal time, which together fix an instant (`ZonedTime.millis`);
* dates are supported within a range of years only (`Date.IsSupported`).
-/

namespace Telecontrol

/-- A date, of which the month counts from 1 and the day within the month from 1. -/
structure Date where
  year : Int
  month : Nat
  day : Nat
  deriving DecidableEq, Repr

/-- Years divisible by 4 are leap years, except for full centuries not divisible by 400. -/
def isLeapYear (year : Int) : Bool :=
  year % 4 == 0 && (year % 100 != 0 || year % 400 == 0)

/-- The days of a month. -/
def daysInMonth (year : Int) (month : Nat) : Nat :=
  if month = 2 then if isLeapYear year then 29 else 28
  else if month = 4 ∨ month = 6 ∨ month = 9 ∨ month = 11 then 30
  else 31

/-- The days from the first of January of the year 1 to that of a given year. -/
def daysBeforeYear (year : Int) : Int :=
  365 * (year - 1) + (year - 1) / 4 - (year - 1) / 100 + (year - 1) / 400

/-- The days of a year before the first of a given month. -/
def daysBeforeMonth (year : Int) : Nat → Nat
  | 0 => 0
  | month + 1 => if month = 0 then 0 else daysBeforeMonth year month + daysInMonth year month

/-- The days from the first of January of the year 1 to that of the year 1970. -/
def epochDays : Int := 719162

/-- The year of a day that is counted from the first of January of the year 1: the days
are split into spans of 400, 100, 4 and 1 years, of which the last of each may be longer by
a leap day. -/
def yearOfDay (day : Int) : Int :=
  let inEra := day % 146097
  let century := min (inEra / 36524) 3
  let inCentury := inEra - 36524 * century
  let inLeap := inCentury % 1461
  400 * (day / 146097) + 100 * century + 4 * (inCentury / 1461) + min (inLeap / 365) 3 + 1

/-- The month and the day within it of the day `rest` days after the first of `month`, at
most `left` months later. -/
def monthAndDay (year : Int) : (left month rest : Nat) → Nat × Nat
  | 0, month, rest => (month, rest + 1)
  | left + 1, month, rest =>
    if rest < daysInMonth year month then (month, rest + 1)
    else monthAndDay year left (month + 1) (rest - daysInMonth year month)

namespace Date

/-- The date exists in the calendar. -/
def IsValid (d : Date) : Prop :=
  1 ≤ d.month ∧ d.month ≤ 12 ∧ 1 ≤ d.day ∧ d.day ≤ daysInMonth d.year d.month

instance (d : Date) : Decidable d.IsValid := by unfold IsValid; infer_instance

/-- The days from the first of January 1970 to a date. -/
def dayNumber (d : Date) : Int :=
  daysBeforeYear d.year + daysBeforeMonth d.year d.month + d.day - 1 - epochDays

/-- The date of a day counted from the first of January 1970. -/
def ofDayNumber (day : Int) : Date :=
  let year := yearOfDay (day + epochDays)
  let rest := (day + epochDays - daysBeforeYear year).toNat
  let found := monthAndDay year 11 1 rest
  ⟨year, found.1, found.2⟩

/-- The day of the week from 1 for Monday to 7 for Sunday. -/
def weekday (d : Date) : Nat := ((d.dayNumber + 3) % 7).toNat + 1

/-- The first supported year. -/
def minYear : Int := -262143

/-- The last supported year. -/
def maxYear : Int := 262142

/-- The date lies within the supported years. -/
def IsSupported (d : Date) : Prop := minYear ≤ d.year ∧ d.year ≤ maxYear

instance (d : Date) : Decidable d.IsSupported := by unfold IsSupported; infer_instance

end Date

/-- The milliseconds of a day. -/
def millisPerDay : Int := 86400000

/-- A date and the time of the day. -/
structure CalendarTime where
  date : Date
  hour : Nat
  minute : Nat
  second : Nat
  /-- Nanoseconds within the second; a leap second has 10 ^ 9 or more. -/
  nanosecond : Nat := 0
  deriving DecidableEq, Repr

namespace CalendarTime

/-- The calendar time that is a number of milliseconds after the start of 1970. -/
def ofMillis (millis : Int) : CalendarTime :=
  let inDay := (millis % millisPerDay).toNat
  { date := Date.ofDayNumber (millis / millisPerDay)
    hour := inDay / 3600000
    minute := inDay / 60000 % 60
    second := inDay / 1000 % 60
    nanosecond := inDay % 1000 * 1000000 }

/-- The milliseconds from the start of 1970 to a calendar time. -/
def millis (t : CalendarTime) : Int :=
  t.date.dayNumber * millisPerDay +
    (t.hour * 3600000 + t.minute * 60000 + t.second * 1000 + t.nanosecond / 1000000 : Nat)

/-- Milliseconds within the second; a leap second counts as its last one. -/
def millisecond (t : CalendarTime) : Nat := min (t.nanosecond / 1000000) 999

end CalendarTime

/-- Local calendar time together with its offset from universal time. -/
structure ZonedTime where
  calendar : CalendarTime
  /-- Seconds by which local time is ahead of universal time. -/
  offset : Int
  deriving DecidableEq, Repr

/-- The milliseconds of universal time from the start of 1970 to an instant. -/
def ZonedTime.millis (t : ZonedTime) : Int := t.calendar.millis - 1000 * t.offset

end Telecontrol
