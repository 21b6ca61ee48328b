import Telecontrol.Command
import Telecontrol.Framer
import Telecontrol.Link.Step

/-!
# A connection on a clock

A `Session` is a connection as its user and the other station see it: a link, the octets
that have arrived, the mailbox of the listeners, and a clock that moves only when told to.
`Session.perform` carries out one `Action` and everything that follows from it at once, and
tells what came of it (`Report`).

At one instant the octets at hand are used up first. Then the calls that wait for room in
the window go on, in the order in which they were made, and deadlines fire last: the timers
of the link, and then the deadlines of calls, again in the order of the calls. The clock
counts milliseconds: a deadline between two of its ticks fires on the later one.
-/

namespace Telecontrol

/-- What the user of a connection or the other station does. -/
inductive Action
  | receive (octets : Octets)
  /-- The other station ends its direction of the stream. -/
  | endStream
  | sleep (duration : Nat)
  | close
  | call (request : Request)
  | command (command : Command) (commonAddress : UInt16)
  /-- A unit that a listener has received is confirmed; units count from 0. -/
  | confirm (index : Nat) (negative : Bool)
  deriving DecidableEq

/-- What came of an action. -/
structure Report where
  frames : List Apdu := []
  deliveries : List Delivery := []
  returned : List (CallId × Reply) := []

/-- A connection, its mailbox and its clock. -/
structure Session where
  link : Link
  framer : Framer := {}
  /-- The other station has ended its direction of the stream. -/
  ended : Bool := false
  clock : Nat := 0
  mailbox : Mailbox := {}
  /-- The units that listeners have received, oldest first. -/
  received : List Asdu := []
  /-- What came of the present action so far. -/
  report : Report := {}

namespace Session

/-- The length of one tick of the clock. -/
def tick : Nat := Duration.ofMillis 1

/-- The first tick that is not before an instant. -/
def tickFrom (instant : Nat) : Nat := (instant + (tick - 1)) / tick * tick

/-- The units among deliveries. -/
def deliveredUnits (deliveries : List Delivery) : List Asdu :=
  deliveries.filterMap fun d =>
    match d.event with
    | .asdu asdu => some asdu
    | _ => none

/-- Carry out what the link does. -/
def carryOut (s : Session) : Effect → Session
  | .transmit apdu =>
    { s with report := { s.report with frames := s.report.frames ++ [apdu] } }
  | .finish call reply =>
    { s with report := { s.report with returned := s.report.returned ++ [(call, reply)] } }
  | .notify message =>
    let (mailbox, deliveries) := s.mailbox.handle message
    { s with
      mailbox := mailbox
      received := s.received ++ deliveredUnits deliveries
      report := { s.report with deliveries := s.report.deliveries ++ deliveries } }

/-- Let something happen to the link, and carry out what it does then. -/
def input (s : Session) (input : LinkInput) : Session :=
  let link := s.link.step s.clock input
  link.log.foldl carryOut { s with link := { link with log := [] } }

/-- Let the calls that were woken go on. -/
def resumeSenders (s : Session) : Session :=
  (s.link.senders.filter (·.woken)).foldl (fun s sender => s.input (.resume sender.call)) s

/-- The calls that are due to give up, in the order in which they were made. -/
def dueCalls (s : Session) : List CallId :=
  let due := s.link.callDeadlines.filter fun deadline => deadline.1 ≤ s.clock
  (due.map (·.2)).mergeSort fun a b => a ≤ b

/-- Let timers and the deadlines of calls fire that are due. A call that gives up may end the
connection, and with it the calls that are due after it. -/
def fireDeadlines (s : Session) : Session :=
  let s := s.input .timers
  (s.dueCalls.foldl (fun s call => s.input (.expire call)) s).resumeSenders

/-- Everything that can happen at the present instant without the other station. -/
def settle (s : Session) : Session := s.resumeSenders.fireDeadlines

/-- Let the clock run to an instant, stopping for at most `stops` deadlines on the way. -/
def runClock (target : Nat) : (stops : Nat) → Session → Session
  | 0, s => { s with clock := target }
  | stops + 1, s =>
    match s.link.nextDeadline? with
    | some deadline =>
      let stop := max s.clock (tickFrom deadline)
      if stop ≤ target then runClock target stops { s with clock := stop }.settle
      else { s with clock := target }
    | none => { s with clock := target }

/-- Let time pass. No two stops are on the same tick. -/
def sleep (s : Session) (duration : Nat) : Session :=
  s.runClock (s.clock + duration) (duration / tick + 1)

/-- Use the octets at hand. -/
def receive (s : Session) (octets : Octets) : Session :=
  if s.ended || s.link.closed.isSome then s
  else
    let reading := (s.framer.feed octets).drain
    let s := reading.frames.foldl (fun s apdu => s.input (.frame apdu))
      { s with framer := reading.rest }
    match reading.fault? with
    | some cause => s.input (.lost cause)
    | none => s

/-- The stream ends, within a frame or between two. -/
def endStream (s : Session) : Session :=
  if s.ended || s.link.closed.isSome then s
  else
    let s := { s with ended := true }
    match s.framer.finish.2 with
    | .error cause => s.input (.lost cause)
    | .ok _ => s.input (.lost .endOfStream)

/-- The call by which a command is given: it waits for the confirmation, if there is one. -/
def commandRequest (settings : Settings) (command : Command) (commonAddress : UInt16) :
    Request :=
  let asdu := command.asdu settings.originator commonAddress
  if command.isConfirmed then .sendConfirmed asdu else .send asdu

/-- Carry out an action as far as it does not depend on what follows from it. -/
def act (s : Session) (call : CallId) : Action → Session
  | .receive octets => s.receive octets
  | .endStream => s.endStream
  | .sleep duration => s.sleep duration
  | .close => s.input .close
  | .call request => s.input (.call call request)
  | .command command commonAddress =>
    s.input (.call call (commandRequest s.link.settings command commonAddress))
  | .confirm index negative =>
    match s.received[index]? with
    | some asdu => s.input (.call call (.send (asdu.confirmation negative)))
    | none => s

/-- Carry out an action and everything that follows from it at once; a call that is made has
the given identity, which is larger than that of every call before it. -/
def perform (s : Session) (call : CallId) (action : Action) : Session × Report :=
  let s := ({ s with report := {} }.act call action).settle
  (s, { s.report with returned := s.report.returned.mergeSort fun a b => a.1 ≤ b.1 })

/-- A new connection, if its settings can be used. -/
def create (settings : Settings) (extension : Option Extension) : Except Fault Session := do
  settings.validate
  return { link := Link.new settings extension }

end Session

end Telecontrol
