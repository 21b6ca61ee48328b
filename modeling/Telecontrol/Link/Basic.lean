import Telecontrol.Apdu
import Telecontrol.Asdu.Codec
import Telecontrol.Mailbox
import Telecontrol.Timers
import Telecontrol.Window

/-!
# The state of a link

`Link` is one end of a connection between two stations: whether data transfer is started,
the window of numbered frames, the timers, and the calls of this station that have not yet
returned. What the link does is recorded in `Link.log`: frames it sends, events it
reports, and calls that return (`Effect`).

A call waits for one of these things:

* the confirmation of an activation that it sent (`Handshake`);
* the activation by which the other station starts data transfer (`StartWaiter`);
* room in the window for a frame (`Sender`);
* the confirmation of a command (`Waiting`), which is recognised by an `Expectation`;
* the end of the connection.
-/

namespace Telecontrol

/-- The identity of a call; calls that are made later have larger ones. -/
abbrev CallId := Nat

/-- How a call returns. -/
inductive Reply
  /-- What was asked for is done. -/
  | done
  | confirmed (confirmation : Asdu)
  | failed (cause : Fault)
  deriving DecidableEq

/-- What a link does. -/
inductive Effect
  | transmit (apdu : Apdu)
  /-- Put a message into the mailbox of the connection. -/
  | notify (message : Message)
  | finish (call : CallId) (reply : Reply)
  deriving DecidableEq

/-- An activation sent by this station and not yet confirmed. -/
structure Handshake where
  /-- Whether data transfer is to be started or stopped. -/
  function : LinkFunction
  sent : Nat
  call : CallId
  /-- The instant until which it waits; without end if it relies on the timer t1. -/
  deadline? : Option Nat
  deriving DecidableEq

/-- A call that waits for the other station to start data transfer. -/
structure StartWaiter where
  call : CallId
  deadline : Nat
  deriving DecidableEq

/-- A command whose confirmation is expected, by the fields that the confirmation
repeats. -/
structure Expectation where
  /-- The number under which the call of the command is known. -/
  ticket : Nat
  type : TypeIdentification
  commonAddress : UInt16
  /-- The address of the first object. -/
  address? : Option UInt32
  deriving DecidableEq

namespace Expectation

/-- The confirmation that a unit sent as a command expects. -/
def ofAsdu (ticket : Nat) (asdu : Asdu) : Expectation :=
  ⟨ticket, asdu.type, asdu.commonAddress, asdu.firstAddress?⟩

/-- A received unit confirms the command. -/
def isMetBy (e : Expectation) (asdu : Asdu) : Bool :=
  (asdu.cause == .activationConfirm || asdu.cause == .deactivationConfirm) &&
    asdu.type == e.type && asdu.commonAddress == e.commonAddress &&
    asdu.firstAddress? == e.address?

end Expectation

/-- A call that waits for room in the window. -/
structure Sender where
  call : CallId
  /-- The octets of its unit. -/
  octets : Octets
  /-- The number of its command, if the call waits for a confirmation afterwards. -/
  ticket? : Option Nat := none
  /-- The confirmation, if it arrived before the command was sent. -/
  confirmation? : Option Asdu := none
  /-- There may be room, or the link may have been stopped or closed, since the call last
  looked. -/
  woken : Bool := false
  deriving DecidableEq

/-- A call that waits for the confirmation of a command that it has sent. -/
structure Waiting where
  call : CallId
  ticket : Nat
  deadline : Nat
  deriving DecidableEq

/-- One end of a connection. -/
structure Link where
  settings : Settings
  /-- Element sets of types outside the standard. -/
  extension : Option Extension := none
  /-- Whether data transfer is started; kept when the connection is closed. -/
  state : LinkState := .stopped
  /-- Why the connection was closed, if it was. -/
  closed : Option Fault := none
  window : Window
  timers : Timers := {}
  /-- The activation of this station that is not yet confirmed. -/
  handshake : Option Handshake := none
  /-- The call that waits for the other station to start data transfer. -/
  startWaiter : Option StartWaiter := none
  /-- The other station asked for the start of data transfer while no call waited for it. -/
  startRequested : Bool := false
  /-- The instant at which a test of the link was sent that is not yet confirmed. -/
  testSent : Option Nat := none
  /-- The commands whose confirmation is expected, oldest first. -/
  expectations : List Expectation := []
  /-- The number of the next command. -/
  nextTicket : Nat := 0
  /-- The calls that wait for room in the window. -/
  senders : List Sender := []
  /-- The calls that wait for the confirmation of a command that was sent. -/
  waiting : List Waiting := []
  /-- The calls that wait for the end of the connection. -/
  watchers : List CallId := []
  /-- What the link has done, oldest first. -/
  log : List Effect := []

namespace Link

/-- A new link, on which data transfer is stopped. -/
def new (settings : Settings) (extension : Option Extension) : Link where
  settings := settings
  extension := extension
  window := { k := settings.k, w := settings.w }

/-- How units are written on the link. -/
def format (l : Link) : AsduFormat := l.settings.format l.extension

/-- The connection is open and data transfer is started. -/
def isStarted (l : Link) : Bool := l.closed.isNone && l.state == .started

/-- Record something that the link does. -/
def emit (l : Link) (effect : Effect) : Link := { l with log := l.log ++ [effect] }

/-- Let a call return. -/
def finish (l : Link) (call : CallId) (reply : Reply) : Link := l.emit (.finish call reply)

/-- Let calls return. -/
def finishAll (l : Link) (calls : List CallId) (reply : Reply) : Link :=
  calls.foldl (fun l call => l.finish call reply) l

/-- Report an event. -/
def report (l : Link) (event : LinkEvent) : Link := l.emit (.notify (.post event))

/-- Let every call that waits for room in the window look again. -/
def wakeSenders (l : Link) : Link :=
  { l with senders := l.senders.map fun s => { s with woken := true } }

/-- The instants until which calls wait, each with its call. -/
def callDeadlines (l : Link) : List (Nat × CallId) :=
  (l.handshake.toList.filterMap fun h => h.deadline?.map fun deadline => (deadline, h.call)) ++
    (l.startWaiter.toList.map fun s => (s.deadline, s.call)) ++
    l.waiting.map fun a => (a.deadline, a.call)

/-- The earliest instant at which a timer expires or a call gives up. -/
def nextDeadline? (l : Link) : Option Nat :=
  (l.timers.deadlines ++ l.callDeadlines.map (·.1)).min?

end Link

end Telecontrol
