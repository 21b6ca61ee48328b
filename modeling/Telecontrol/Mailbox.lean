import Telecontrol.Asdu.Basic
import Telecontrol.Fault

/-!
# Delivery of events to listeners

A connection reports what happens to a listener. Events and the registration of listeners
go through one mailbox, whose messages are handled in order:

* an event goes to the listener registered last, and waits if there is none yet;
* the first listener is given the events that have waited;
* the event that the connection has closed is the last one; nothing is delivered after it.
-/

namespace Telecontrol

/-- Whether data transfer is started. -/
inductive LinkState
  /-- Only unnumbered frames are allowed. -/
  | stopped
  /-- All frames are allowed. -/
  | started
  deriving DecidableEq, Repr

/-- What a connection reports. -/
inductive LinkEvent
  /-- A unit was received that confirms no command of this station. -/
  | asdu (asdu : Asdu)
  | stateChanged (state : LinkState)
  | closed (cause : Fault)
  deriving DecidableEq

/-- The event is the last one of its connection. -/
def LinkEvent.isFinal : LinkEvent → Bool
  | closed _ => true
  | _ => false

/-- The identity of a listener. -/
abbrev ListenerId := Nat

/-- What is put into a mailbox. -/
inductive Message
  /-- From now on events go to the listener. -/
  | register (listener : ListenerId)
  | post (event : LinkEvent)
  deriving DecidableEq

/-- An event that was delivered, and to whom. -/
structure Delivery where
  listener : ListenerId
  event : LinkEvent
  deriving DecidableEq

/-- The state of the delivery of events. -/
structure Mailbox where
  /-- The listener registered last. -/
  listener : Option ListenerId := none
  /-- Events that wait for the first listener. -/
  backlog : List LinkEvent := []
  /-- The last event was delivered. -/
  finished : Bool := false
  deriving DecidableEq, Inhabited

namespace Mailbox

/-- The events up to the first final one. -/
def upToFinal : List LinkEvent → List LinkEvent
  | [] => []
  | event :: events => if event.isFinal then [event] else event :: upToFinal events

/-- Handle one message: the state after it and what is delivered. -/
def handle (m : Mailbox) (message : Message) : Mailbox × List Delivery :=
  if m.finished then (m, [])
  else match message with
    | .register listener =>
      (⟨some listener, [], m.backlog.any (·.isFinal)⟩,
        (upToFinal m.backlog).map fun event => ⟨listener, event⟩)
    | .post event =>
      match m.listener with
      | some listener => ({ m with finished := event.isFinal }, [⟨listener, event⟩])
      | none => ({ m with backlog := m.backlog ++ [event] }, [])

/-- Handle messages in order. -/
def run (m : Mailbox) : List Message → Mailbox × List Delivery
  | [] => (m, [])
  | message :: messages =>
    let (m, first) := m.handle message
    let (m, rest) := m.run messages
    (m, first ++ rest)

end Mailbox

end Telecontrol
