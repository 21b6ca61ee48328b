import Telecontrol.Element.Basic
import Telecontrol.Fault

/-!
# Information elements on the wire

An element of fixed width is a row of bit fields in a little-endian number. Reading takes
the number off a string of octets (`ElementKind.decode`) and the fields out of the number
(`ElementKind.ofNumber`); writing puts the fields into a number (`Element.number`) and the
number into octets (`Element.encode`). Only a file segment is not of this form.

Reading drops bits that no field uses, and writing drops bits that exceed a field, except
that step positions, file lengths and segments out of range are refused. Flags are written with
all their bits, but for those of points: a bit that is no flag ends up in the field below.
-/

namespace Telecontrol

/-- The number that marks a test command. -/
def testPattern : Nat := 0x55AA

/-- The quality flags that share an octet with a point; the lowest flag would collide with
the point itself. -/
def pointMask : UInt8 := 0xF0

/-- The octet of a number that starts at bit `low`. -/
def octetAt (n low : Nat) : UInt8 := UInt8.ofNat (bits n low 8)

namespace ElementKind

/-- The element of a kind of fixed width whose octets are a given little-endian number. -/
def ofNumber (kind : ElementKind) (n : Nat) : Except Fault Element :=
  match kind with
  | siq => .ok (.singlePoint (n.testBit 0) (.ofBits (octetAt n 0 &&& pointMask)))
  | diq => .ok (.doublePoint (.ofNumber n) (.ofBits (octetAt n 0 &&& pointMask)))
  | vti => .ok (.stepPosition (Int8.ofInt (Int.bmod n 128)) (n.testBit 7))
  | bsi => .ok (.bitstring (UInt32.ofNat n))
  | nva => .ok (.normalized (Int16.ofNat n))
  | sva => .ok (.scaled (Int16.ofNat n))
  | float => .ok (.shortFloat (UInt32.ofNat n))
  | qds => .ok (.quality (.ofBits (octetAt n 0)))
  | bcr =>
    .ok (.counter (Int32.ofNat n) (UInt8.ofNat (bits n 32 5)) (.ofBits (octetAt n 32)))
  | sep => .ok (.protectionEvent (.ofNumber n) (.ofBits (octetAt n 0)))
  | spe => .ok (.protectionStart (.ofBits (octetAt n 0)))
  | oci => .ok (.outputCircuit (.ofBits (octetAt n 0)))
  | qdp => .ok (.protectionQuality (.ofBits (octetAt n 0)))
  | scd => .ok (.statusChanges (UInt16.ofNat (bits n 0 16)) (UInt16.ofNat (bits n 16 16)))
  | sco => .ok (.singleCommand (n.testBit 0) (UInt8.ofNat (bits n 2 5)) (n.testBit 7))
  | dco => .ok (.doubleCommand (.ofNumber n) (UInt8.ofNat (bits n 2 5)) (n.testBit 7))
  | rco => .ok (.regulatingStep (.ofNumber n) (UInt8.ofNat (bits n 2 5)) (n.testBit 7))
  | qos => .ok (.setpointQualifier (UInt8.ofNat (bits n 0 7)) (n.testBit 7))
  | qoi => .ok (.interrogationQualifier (octetAt n 0))
  | qcc => .ok (.counterQualifier (UInt8.ofNat (bits n 0 6)) (UInt8.ofNat (bits n 6 2)))
  | qpm =>
    .ok (.measuredParameterQualifier (UInt8.ofNat (bits n 0 6)) (n.testBit 6) (n.testBit 7))
  | qpa => .ok (.parameterActivationQualifier (octetAt n 0))
  | qrp => .ok (.resetQualifier (octetAt n 0))
  | coi => .ok (.initializationCause (UInt8.ofNat (bits n 0 7)) (n.testBit 7))
  | fbp =>
    if n = testPattern then .ok .fixedTestPattern
    else .error (.invalidAsdu (.testPattern n))
  | tsc => .ok (.testSequenceCounter (UInt16.ofNat n))
  | time16 => .ok (.time16 (.ofNumber n))
  | time24 => .ok (.time24 (.ofNumber n))
  | time56 => .ok (.time56 (.ofNumber n))
  | nof => .ok (.fileName (UInt16.ofNat n))
  | nos => .ok (.sectionName (octetAt n 0))
  | lof => .ok (.fileLength (UInt32.ofNat n))
  | frq => .ok (.fileReady (UInt8.ofNat (bits n 0 7)) (n.testBit 7))
  | srq => .ok (.sectionReady (UInt8.ofNat (bits n 0 7)) (n.testBit 7))
  | scq => .ok (.selectCall (octetAt n 0))
  | lsq => .ok (.lastSection (octetAt n 0))
  | chs => .ok (.checksum (octetAt n 0))
  | afq => .ok (.acknowledgeFile (UInt8.ofNat (bits n 0 4)) (UInt8.ofNat (bits n 4 4)))
  | sof => .ok (.fileStatus (UInt8.ofNat (bits n 0 5)) (.ofBits (octetAt n 0)))
  | segment => .error (.invalidAsdu .segmentLengthMissing)

/-- The segment at the head of a string of octets, and the octets after it. -/
def decodeSegment : Octets → Except Fault (Element × Octets)
  | [] => .error (.invalidAsdu .segmentLengthMissing)
  | length :: rest =>
    if rest.length < length.toNat then
      .error (.invalidAsdu (.segmentTruncated length.toNat rest.length))
    else .ok (.segment (rest.take length.toNat), rest.drop length.toNat)

/-- The element of a kind at the head of a string of octets, and the octets after it. -/
def decode (kind : ElementKind) (octets : Octets) : Except Fault (Element × Octets) :=
  match kind.width? with
  | none => decodeSegment octets
  | some width =>
    if octets.length < width then
      .error (.invalidAsdu (.elementTruncated kind octets.length))
    else do
      let element ← kind.ofNumber (Octets.toNat (octets.take width))
      return (element, octets.drop width)

end ElementKind

namespace Element

/-- A qualifier of seven bits below a flag. -/
def flagged (qualifier : UInt8) (flag : Bool) : Nat :=
  qualifier.toNat % 128 + 128 * flag.toNat

/-- The state, the five-bit qualifier and the select flag of a command. -/
def commandNumber (state : Nat) (qualifier : UInt8) (select : Bool) : Nat :=
  state + 4 * (qualifier.toNat % 32) + 128 * select.toNat

/-- The little-endian number in the octets of an element of fixed width. -/
def number : Element → Nat
  | singlePoint on flags => on.toNat ||| (flags.bits &&& pointMask).toNat
  | doublePoint state flags => state.number ||| (flags.bits &&& pointMask).toNat
  | stepPosition value transient => (value.toInt % 128).toNat + 128 * transient.toNat
  | bitstring value => value.toNat
  | normalized value | scaled value => value.toUInt16.toNat
  | shortFloat encoding => encoding.toNat
  | quality flags => flags.bits.toNat
  | counter value sequence flags =>
    value.toUInt32.toNat + 0x100000000 * (sequence.toNat % 32 ||| flags.bits.toNat)
  | protectionEvent state flags => state.number ||| flags.bits.toNat
  | protectionStart events => events.bits.toNat
  | outputCircuit circuits => circuits.bits.toNat
  | protectionQuality flags => flags.bits.toNat
  | statusChanges status changes => status.toNat + 0x10000 * changes.toNat
  | singleCommand on qualifier select => commandNumber on.toNat qualifier select
  | doubleCommand state qualifier select => commandNumber state.number qualifier select
  | regulatingStep state qualifier select => commandNumber state.number qualifier select
  | setpointQualifier qualifier select => flagged qualifier select
  | interrogationQualifier value | parameterActivationQualifier value | resetQualifier value
  | sectionName value | selectCall value | lastSection value | checksum value => value.toNat
  | counterQualifier request freeze =>
    request.toNat % 64 + 64 * (freeze.toNat % 4)
  | measuredParameterQualifier kind change notInOperation =>
    kind.toNat % 64 + 64 * change.toNat + 128 * notInOperation.toNat
  | initializationCause cause afterParameterChange => flagged cause afterParameterChange
  | fixedTestPattern => testPattern
  | testSequenceCounter value | fileName value => value.toNat
  | time16 time => time.number
  | time24 time => time.number
  | time56 time => time.number
  | fileLength value => value.toNat
  | fileReady qualifier negative => flagged qualifier negative
  | sectionReady qualifier notReady => flagged qualifier notReady
  | acknowledgeFile action notice => action.toNat % 16 + 16 * (notice.toNat % 16)
  | fileStatus status flags => status.toNat % 32 ||| flags.bits.toNat
  | segment data | raw data => Octets.toNat data

/-- The octets of an element. -/
def encode (e : Element) : Except Fault Octets :=
  match e with
  | segment data =>
    if 255 < data.length then .error (.invalidAsdu .segmentTooLong)
    else .ok (UInt8.ofNat data.length :: data)
  | raw data => .ok data
  | stepPosition value _ =>
    if value < -64 ∨ 63 < value then .error (.invalidAsdu (.stepPosition value))
    else .ok (Octets.ofNat e.encodedLength e.number)
  | fileLength value =>
    if 0xFFFFFF < value then .error (.invalidAsdu (.fileLength value))
    else .ok (Octets.ofNat e.encodedLength e.number)
  | _ => .ok (Octets.ofNat e.encodedLength e.number)

end Element

end Telecontrol
