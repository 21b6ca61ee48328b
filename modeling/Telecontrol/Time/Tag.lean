import Telecontrol.Octets

/-!
# Binary time tags

The three time tags of the protocol, each a row of bit fields in a little-endian number:

* `Time56`, seven octets: local calendar time with a two-digit year;
* `Time24`, three octets: minutes and milliseconds within the hour;
* `Time16`, two octets: an elapsed time in milliseconds.

`ofNumber` takes the fields out of the number and `number` puts them back; a field that
exceeds its bits loses the excess.
-/

namespace Telecontrol

/-- Local calendar time in seven octets. -/
structure Time56 where
  /-- Milliseconds within the minute, 16 bits. -/
  milliseconds : UInt16 := 0
  /-- Minute, 6 bits. -/
  minute : UInt8 := 0
  /-- Hour, 5 bits. -/
  hour : UInt8 := 0
  /-- Day of the month, 5 bits. -/
  day : UInt8 := 0
  /-- Day of the week from 1 for Monday to 7 for Sunday, 0 when unused; 3 bits. -/
  dayOfWeek : UInt8 := 0
  /-- Month, 4 bits. -/
  month : UInt8 := 0
  /-- Year of the century, 7 bits. -/
  year : UInt8 := 0
  /-- The time is not reliable. -/
  invalid : Bool := false
  summerTime : Bool := false
  deriving DecidableEq, Repr, Inhabited

/-- Minutes and milliseconds within the hour in three octets. -/
structure Time24 where
  /-- Milliseconds within the minute, 16 bits. -/
  milliseconds : UInt16 := 0
  /-- Minute, 6 bits. -/
  minute : UInt8 := 0
  invalid : Bool := false
  deriving DecidableEq, Repr, Inhabited

/-- An elapsed time in two octets. -/
structure Time16 where
  milliseconds : UInt16 := 0
  deriving DecidableEq, Repr, Inhabited

namespace Time56

/-- The octets of the tag. -/
def width : Nat := 7

/-- The fields of a 56-bit number. -/
def ofNumber (n : Nat) : Time56 where
  milliseconds := UInt16.ofNat (bits n 0 16)
  minute := UInt8.ofNat (bits n 16 6)
  invalid := n.testBit 23
  hour := UInt8.ofNat (bits n 24 5)
  summerTime := n.testBit 31
  day := UInt8.ofNat (bits n 32 5)
  dayOfWeek := UInt8.ofNat (bits n 37 3)
  month := UInt8.ofNat (bits n 40 4)
  year := UInt8.ofNat (bits n 48 7)

/-- The 56-bit number with the given fields; its unused bits are zero. -/
def number (t : Time56) : Nat :=
  t.milliseconds.toNat + 0x10000 * (t.minute.toNat % 64) + 0x800000 * t.invalid.toNat +
    0x1000000 * (t.hour.toNat % 32) + 0x80000000 * t.summerTime.toNat +
    0x100000000 * (t.day.toNat % 32) + 0x2000000000 * (t.dayOfWeek.toNat % 8) +
    0x10000000000 * (t.month.toNat % 16) + 0x1000000000000 * (t.year.toNat % 128)

/-- The seven octets of the tag. -/
def octets (t : Time56) : Octets := Octets.ofNat width t.number

/-- The part of the tag that lies within the hour. -/
def withinHour (t : Time56) : Time24 where
  milliseconds := t.milliseconds
  minute := t.minute
  invalid := t.invalid

end Time56

namespace Time24

/-- The octets of the tag. -/
def width : Nat := 3

/-- The fields of a 24-bit number. -/
def ofNumber (n : Nat) : Time24 where
  milliseconds := UInt16.ofNat (bits n 0 16)
  minute := UInt8.ofNat (bits n 16 6)
  invalid := n.testBit 23

/-- The 24-bit number with the given fields; its unused bit is zero. -/
def number (t : Time24) : Nat :=
  t.milliseconds.toNat + 0x10000 * (t.minute.toNat % 64) + 0x800000 * t.invalid.toNat

/-- The three octets of the tag. -/
def octets (t : Time24) : Octets := Octets.ofNat width t.number

/-- The tag of an instant given by its milliseconds, of which whole hours are dropped. -/
def ofMillisOfHour (millis : Nat) (invalid : Bool) : Time24 where
  milliseconds := UInt16.ofNat (millis % 3600000 % 60000)
  minute := UInt8.ofNat (millis % 3600000 / 60000)
  invalid := invalid

/-- Milliseconds since the start of the hour. -/
def millisOfHour (t : Time24) : Nat := t.minute.toNat * 60000 + t.milliseconds.toNat

end Time24

namespace Time16

/-- The octets of the tag. -/
def width : Nat := 2

/-- The elapsed time given by a 16-bit number. -/
def ofNumber (n : Nat) : Time16 := ⟨UInt16.ofNat n⟩

/-- The 16-bit number of an elapsed time. -/
def number (t : Time16) : Nat := t.milliseconds.toNat

/-- The two octets of the tag. -/
def octets (t : Time16) : Octets := Octets.ofNat width t.number

/-- The elapsed time in milliseconds. -/
def millis (t : Time16) : Nat := t.milliseconds.toNat

end Time16

end Telecontrol
