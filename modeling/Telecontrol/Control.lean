import Telecontrol.Octets

/-!
# The control field of a frame

Four control octets say what a frame is for:

* an information frame carries an application service data unit and is numbered;
* a supervisory frame acknowledges information frames;
* an unnumbered frame starts, stops or tests the link (`LinkFunction`).

Frame numbers have 15 bits. `Control.octets` writes a control field; numbers that exceed
15 bits are taken modulo `sequenceModulus`.
-/

namespace Telecontrol

/-- The number of different frame numbers. -/
def sequenceModulus : UInt16 := 32768

/-- The functions of unnumbered frames: an activation and its confirmation for each of
starting, stopping and testing the link. -/
inductive LinkFunction
  | startAct
  | startCon
  | stopAct
  | stopCon
  | testAct
  | testCon
  deriving DecidableEq, Repr

namespace LinkFunction

/-- The first control octet of the function. -/
def octet : LinkFunction → UInt8
  | startAct => 0x07
  | startCon => 0x0B
  | stopAct => 0x13
  | stopCon => 0x23
  | testAct => 0x43
  | testCon => 0x83

/-- The function of a first control octet, in which exactly one function bit is set. -/
def ofOctet? (octet : UInt8) : Option LinkFunction :=
  [startAct, startCon, stopAct, stopCon, testAct, testCon].find? fun f => f.octet == octet

/-- The function is an activation. -/
def isActivation : LinkFunction → Bool
  | startAct | stopAct | testAct => true
  | startCon | stopCon | testCon => false

/-- The confirmation that answers an activation; a confirmation stands for itself. -/
def confirmation : LinkFunction → LinkFunction
  | startAct | startCon => startCon
  | stopAct | stopCon => stopCon
  | testAct | testCon => testCon

/-- The name of the function. -/
def text : LinkFunction → String
  | startAct => "STARTDT act"
  | startCon => "STARTDT con"
  | stopAct => "STOPDT act"
  | stopCon => "STOPDT con"
  | testAct => "TESTFR act"
  | testCon => "TESTFR con"

@[simp] theorem ofOctet?_octet (f : LinkFunction) : ofOctet? f.octet = some f := by
  cases f <;> rfl

theorem octet_of_ofOctet? {octet : UInt8} {f : LinkFunction} (h : ofOctet? octet = some f) :
    f.octet = octet := by
  simpa using List.find?_some h

end LinkFunction

/-- The control field of a frame. -/
inductive Control
  /-- An information frame with its own number and the number of the next frame expected. -/
  | information (send receive : UInt16)
  /-- A supervisory frame with the number of the next frame expected. -/
  | supervisory (receive : UInt16)
  /-- An unnumbered frame. -/
  | unnumbered (function : LinkFunction)
  deriving DecidableEq, Repr

namespace Control

/-- The two octets of a frame number, whose lowest bit is zero. -/
def numberOctets (n : UInt16) : Octets := Octets.ofNat 2 (2 * (n % sequenceModulus).toNat)

/-- The four control octets. -/
def octets : Control → Octets
  | information send receive => numberOctets send ++ numberOctets receive
  | supervisory receive => [0x01, 0x00] ++ numberOctets receive
  | unnumbered function => [function.octet, 0x00, 0x00, 0x00]

@[simp] theorem length_octets (c : Control) : c.octets.length = 4 := by
  cases c <;> simp [octets, numberOctets]

/-- Whether the frame carries an application service data unit. -/
def isInformation : Control → Bool
  | information _ _ => true
  | _ => false

/-- The frame in short notation. -/
def text : Control → String
  | information send receive => s!"I(S={send}, R={receive})"
  | supervisory receive => s!"S(R={receive})"
  | unnumbered function => s!"U({function.text})"

end Control

end Telecontrol
