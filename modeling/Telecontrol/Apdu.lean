import Telecontrol.Fault

/-!
# Application protocol data units

A frame is a start octet, a length octet, the four control octets and, in information
frames, an application service data unit. The length counts the control octets and the
unit.

* `Control.parse` reads control octets and refuses those that `Control.octets` does not
  write;
* `Apdu.parse` reads what follows the length octet of a frame, `Apdu.encode` writes a whole
  frame.
-/

namespace Telecontrol

/-- The first octet of every frame. -/
def startOctet : UInt8 := 0x68

/-- The octets of a control field, the least that a frame holds after its length. -/
def controlLength : Nat := 4

/-- The most octets that a frame holds after its length. -/
def maxLength : Nat := 253

/-- The longest application service data unit that fits a frame. -/
def maxAsduLength : Nat := maxLength - controlLength

/-- The function given by its octet. -/
def LinkFunction.parse (octet : UInt8) : Except Fault LinkFunction :=
  match LinkFunction.ofOctet? octet with
  | some function => .ok function
  | none => .error (.framing (.unknownFunction octet))

namespace Control

/-- The frame number in two control octets. -/
def numberOf (low high : UInt8) : UInt16 := UInt16.ofNat (Octets.toNat [low, high] / 2)

/-- The control field given by its four octets. -/
def parse (first second third fourth : UInt8) : Except Fault Control :=
  if first.toNat % 2 = 0 then
    .ok (.information (numberOf first second) (numberOf third fourth))
  else if first.toNat % 4 = 1 then
    if first = 0x01 ∧ second = 0x00 then .ok (.supervisory (numberOf third fourth))
    else .error (.framing (.supervisoryOctets first second))
  else if second ≠ 0 ∨ third ≠ 0 ∨ fourth ≠ 0 then .error (.framing .trailingControl)
  else (LinkFunction.parse first).map .unnumbered

/-- Start octet, length and control octets of a frame with an application service data unit
of a given length, which only an information frame can carry. -/
def header (c : Control) (asduLength : Nat) : Except Fault Octets :=
  if maxAsduLength < asduLength then .error (.framing (.asduTooLong asduLength))
  else if 0 < asduLength ∧ !c.isInformation then .error (.framing .asduRefused)
  else .ok (startOctet :: UInt8.ofNat (controlLength + asduLength) :: c.octets)

end Control

/-- A frame. -/
structure Apdu where
  control : Control
  /-- The octets of the application service data unit, which only information frames have. -/
  asdu? : Option Octets := none
  deriving DecidableEq, Repr

namespace Apdu

/-- An information frame. -/
def information (send receive : UInt16) (asdu : Octets) : Apdu :=
  ⟨.information send receive, some asdu⟩

/-- A supervisory frame. -/
def supervisory (receive : UInt16) : Apdu := ⟨.supervisory receive, none⟩

/-- An unnumbered frame. -/
def unnumbered (function : LinkFunction) : Apdu := ⟨.unnumbered function, none⟩

/-- The octets of the application service data unit; none if the frame has no unit. -/
def asdu (apdu : Apdu) : Octets := apdu.asdu?.getD []

/-- The frame whose control octets and unit are given, as they follow the length octet. -/
def parse : Octets → Except Fault Apdu
  | first :: second :: third :: fourth :: asdu => do
    let control ← Control.parse first second third fourth
    if control.isInformation then
      if asdu.isEmpty then .error (.framing .asduMissing) else .ok ⟨control, some asdu⟩
    else
      if asdu.isEmpty then .ok ⟨control, none⟩
      else .error (.framing (.unexpectedOctets control asdu.length))
  | octets => .error (.framing (.lengthRange octets.length))

/-- The octets of a whole frame. -/
def encode (apdu : Apdu) : Except Fault Octets := do
  let header ← apdu.control.header apdu.asdu.length
  return header ++ apdu.asdu

/-- The frame in short notation. -/
def text (apdu : Apdu) : String :=
  match apdu.asdu? with
  | some asdu => s!"{apdu.control.text} +{asdu.length}B"
  | none => apdu.control.text

end Apdu

end Telecontrol
