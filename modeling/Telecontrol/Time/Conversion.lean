import Telecontrol.Calendar
import Telecontrol.Fault
import Telecontrol.Time.Tag

/-!
# Time tags and instants

A `Time56` is local time with a flag for summer time, which is one hour ahead of standard
time. The offset of standard time from universal time is not in the tag and has to be known.

* `Time56.ofZoned` and `Time56.ofMillis` make the tag of an instant;
* `Time56.resolve` finds the instant of a tag, given also the first year to which a
  two-digit year may refer;
* `Time56.decode`, `Time24.decode` and `Time16.decode` read a tag off a string of octets.
-/

namespace Telecontrol

/-- Seconds by which summer time is ahead of standard time. -/
def summerShift : Int := 3600

/-- The offset of local time from universal time, which must stay within a day. -/
def localOffset (standard : Int) (summer : Bool) : Except Fault Int :=
  if summer then
    if -86400 < standard + summerShift ∧ standard + summerShift < 86400 then
      .ok (standard + summerShift)
    else .error (.invalidAsdu .offsetRange)
  else .ok standard

namespace Time56

/-- The tag of a local calendar time. -/
def ofCalendar (t : CalendarTime) (summer invalid : Bool) : Time56 where
  milliseconds := UInt16.ofNat (t.second * 1000 + t.millisecond)
  minute := UInt8.ofNat t.minute
  hour := UInt8.ofNat t.hour
  day := UInt8.ofNat t.date.day
  dayOfWeek := UInt8.ofNat t.date.weekday
  month := UInt8.ofNat t.date.month
  year := UInt8.ofNat (t.date.year % 100).toNat
  invalid := invalid
  summerTime := summer

/-- The tag of an instant: it is summer time unless the offset is that of standard time. -/
def ofZoned (t : ZonedTime) (standard : Int) (invalid : Bool) : Time56 :=
  ofCalendar t.calendar (t.offset != standard) invalid

/-- The tag of an instant given in milliseconds since the start of 1970, in standard or in
summer time. -/
def ofMillis (millis standard : Int) (summer : Bool) : Except Fault Time56 := do
  let offset ← localOffset standard summer
  if (Date.ofDayNumber (millis / millisPerDay)).IsSupported then
    return ofZoned ⟨CalendarTime.ofMillis (millis + 1000 * offset), offset⟩ standard false
  else .error (.invalidAsdu .instantRange)

/-- The year to which the two-digit year refers: the first one from `start` on that has
these digits. Division truncates toward zero, so years before 1 keep their sign. -/
def fullYear (t : Time56) (start : Int) : Int :=
  let century := start.tdiv 100 * 100
  if (t.year.toNat : Int) < start.tmod 100 then century + 100 + t.year.toNat
  else century + t.year.toNat

/-- The local calendar time that the fields of the tag spell. -/
def calendar (t : Time56) (start : Int) : CalendarTime where
  date := ⟨t.fullYear start, t.month.toNat, t.day.toNat⟩
  hour := t.hour.toNat
  minute := t.minute.toNat
  second := t.milliseconds.toNat / 1000
  nanosecond := t.milliseconds.toNat % 1000 * 1000000

/-- The instant of a tag. -/
def resolve (t : Time56) (standard start : Int) : Except Fault ZonedTime := do
  let offset ← localOffset standard t.summerTime
  let spelled := t.calendar start
  if spelled.date.IsSupported ∧ spelled.date.IsValid ∧ spelled.hour < 24 ∧
      spelled.minute < 60 ∧ spelled.second < 60 then
    let zoned : ZonedTime := ⟨spelled, offset⟩
    if (Date.ofDayNumber (zoned.millis / millisPerDay)).IsSupported then return zoned
    else .error (.invalidAsdu .dateRange)
  else .error (.invalidAsdu .noDate)

/-- The milliseconds from the start of 1970 to the instant of a tag. -/
def resolveMillis (t : Time56) (standard start : Int) : Except Fault Int := do
  return (← t.resolve standard start).millis

/-- The first year to which a two-digit year refers, unless another one is given. -/
def defaultStart : Int := 1970

/-- The tag at the head of a string of octets, and the octets after it. -/
def decode (octets : Octets) : Except Fault (Time56 × Octets) :=
  if octets.length < width then .error (.invalidAsdu (.timeTruncated .time56))
  else .ok (ofNumber (Octets.toNat (octets.take width)), octets.drop width)

end Time56

/-- The tag at the head of a string of octets, and the octets after it. -/
def Time24.decode (octets : Octets) : Except Fault (Time24 × Octets) :=
  if octets.length < width then .error (.invalidAsdu (.timeTruncated .time24))
  else .ok (ofNumber (Octets.toNat (octets.take width)), octets.drop width)

/-- The tag at the head of a string of octets, and the octets after it. -/
def Time16.decode (octets : Octets) : Except Fault (Time16 × Octets) :=
  if octets.length < width then .error (.invalidAsdu (.timeTruncated .time16))
  else .ok (ofNumber (Octets.toNat (octets.take width)), octets.drop width)

end Telecontrol
