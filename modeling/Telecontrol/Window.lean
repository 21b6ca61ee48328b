import Telecontrol.Fault

/-!
# Frame numbers and the sliding window

Information frames are numbered modulo `sequenceModulus` in each direction. At most `k` of
the frames sent may be outstanding, and after `w` frames received an acknowledgment is due.

* `Window.nextSend` numbers a frame that is sent, `Window.acknowledgeReceived` one that only
  acknowledges; both cover every frame received;
* `Window.acknowledge` releases the outstanding frames before a given number;
* `Window.accept` accepts the next frame.

`acknowledge` and `accept` refuse a number that is out of order.
-/

namespace Telecontrol

/-- An information frame that was sent and not yet acknowledged. -/
structure SentFrame where
  number : UInt16
  sent : Nat
  deriving DecidableEq, Repr

/-- The state of both directions of numbered frames. -/
structure Window where
  /-- Largest number of outstanding frames. -/
  k : UInt16
  /-- Number of received frames after which an acknowledgment is due. -/
  w : UInt16
  /-- The number of the next frame to be sent. -/
  send : UInt16 := 0
  /-- The number of the next frame to be received. -/
  receive : UInt16 := 0
  /-- The frames sent and not yet acknowledged, oldest first. -/
  outstanding : Array SentFrame := #[]
  /-- How many frames were received since the last acknowledgment of them. -/
  unacknowledged : UInt16 := 0
  deriving DecidableEq, Repr

namespace Window

/-- No further frame may be sent. -/
def isFull (v : Window) : Bool := v.k.toNat ≤ v.outstanding.size

/-- The instant at which the oldest outstanding frame was sent. -/
def oldestSent? (v : Window) : Option Nat := v.outstanding[0]?.map (·.sent)

/-- The number that follows a given one. -/
def successor (n : UInt16) : UInt16 := (n + 1) % sequenceModulus

/-- Number the next frame to be sent: its own number, the number of the next frame expected,
and the state after it. -/
def nextSend (v : Window) (now : Nat) : UInt16 × UInt16 × Window :=
  (v.send, v.receive,
    { v with
      send := successor v.send
      outstanding := v.outstanding.push ⟨v.send, now⟩
      unacknowledged := 0 })

/-- Acknowledge every frame received: the number of the next frame expected, and the state
after it. -/
def acknowledgeReceived (v : Window) : UInt16 × Window :=
  (v.receive, { v with unacknowledged := 0 })

/-- The number of the oldest frame that an acknowledgment may release. -/
def base (v : Window) : UInt16 := (v.outstanding[0]?.map (·.number)).getD v.send

/-- How many frames lie between the oldest outstanding one and a given number. -/
def distance (v : Window) (number : UInt16) : Nat :=
  ((number - v.base) % sequenceModulus).toNat

/-- Release the outstanding frames before a given number: how many they are, and the state
after it. The number must be that of an outstanding frame or of the next one. -/
def acknowledge (v : Window) (number : UInt16) : Except Fault (Nat × Window) :=
  let released := v.distance number
  if sequenceModulus ≤ number ∨ v.outstanding.size < released then
    .error (.sequence v.send number)
  else .ok (released, { v with outstanding := v.outstanding.extract released v.outstanding.size })

/-- Accept the frame with a given number, which must be the next one: whether an
acknowledgment is due, and the state after it. The count of frames stops at its largest
value. -/
def accept (v : Window) (number : UInt16) : Except Fault (Bool × Window) :=
  if number = v.receive then
    let count := if v.unacknowledged = 0xFFFF then 0xFFFF else v.unacknowledged + 1
    .ok (v.w ≤ count, { v with receive := successor number, unacknowledged := count })
  else .error (.sequence v.receive number)

end Window

end Telecontrol
