import Telecontrol.Link.Basic

/-!
# The steps of a link

`Link.step` is everything that can happen to a link at an instant: a call of this station, a
frame of the other one, the passing of a deadline, the loss of the stream, and the going on
of a call that found the window full.

A step is what one task does from one point at which it waits to the next, so the orders of
steps are those in which tasks take turns. Some steps do several things of which only each
is indivisible on its own:

* `sendCommand` expects the confirmation, and then sends the unit;
* a call that cannot send its unit finds so, and then forgets its command (`giveUp`);
* `expire` finds that a call has waited too long, and then forgets its command or closes the
  connection;
* a frame that is refused, or t1 when it has expired, is found to be so, and then the connection
  is closed.

Where tasks run on several threads, another one could come in between: a confirmation could be
taken after the deadline of its command has passed and before the command is forgotten. Such
orders are not orders of steps.

The parts of a step:

* `transmit`, `sendInformation` and `sendSupervisory` send frames and keep the timers;
* `close` ends the connection, once and for all;
* `handleFrame` handles a frame of the other station, `handleTimers` expired timers,
  `handleCall` a call, `resume` a waiting sender and `expire` the deadline of a call.
-/

namespace Telecontrol

/-- What a call asks for. -/
inductive Request
  /-- Start data transfer within a time, reporting to a listener. -/
  | start (listener : ListenerId) (timeout : Nat)
  /-- Let the other station start data transfer within a time, reporting to a listener. -/
  | awaitStart (listener : ListenerId) (timeout : Nat)
  | stop
  | send (asdu : Asdu)
  /-- Send a command and wait for its confirmation. -/
  | sendConfirmed (asdu : Asdu)
  | awaitClose
  deriving DecidableEq

/-- What can happen to a link. By `expire` and `timers` the deadlines of a call and of timers are
noticed. -/
inductive LinkInput
  | call (call : CallId) (request : Request)
  /-- A call that waits for room in the window looks again. -/
  | resume (call : CallId)
  | expire (call : CallId)
  | timers
  | frame (apdu : Apdu)
  /-- The stream is at an end or cannot be read further. -/
  | lost (cause : Fault)
  /-- This station closes the connection. -/
  | close
  deriving DecidableEq

namespace Link

/-! ### Sending frames -/

/-- Send a frame; the link is not idle then. -/
def transmit (l : Link) (now : Nat) (apdu : Apdu) : Link :=
  let l := l.emit (.transmit apdu)
  if l.state = .started then { l with timers := l.timers.arm .t3 (now + l.settings.t3) }
  else l

/-- The instants at which the things were sent that t1 supervises: the oldest outstanding
frame, a test of the link, and the activation that stops data transfer. -/
def supervised (l : Link) : List Nat :=
  l.window.oldestSent?.toList ++ l.testSent.toList ++
    l.handshake.toList.filterMap fun h => if h.function = .stopAct then some h.sent else none

/-- Arm t1 for the oldest thing that it supervises; disarm it if there is none. -/
def superviseOldest (l : Link) : Link :=
  { l with timers := l.timers.set .t1 (l.supervised.min?.map (· + l.settings.t1)) }

/-- Send an information frame, which also acknowledges every frame received. -/
def sendInformation (l : Link) (now : Nat) (octets : Octets) : Link :=
  let (send, receive, window) := l.window.nextSend now
  let l := { l with window := window, timers := l.timers.cancel .t2 }
  (l.transmit now (.information send receive octets)).superviseOldest

/-- Acknowledge every frame received by a frame of its own. -/
def sendSupervisory (l : Link) (now : Nat) : Link :=
  let (receive, window) := l.window.acknowledgeReceived
  let l := { l with window := window, timers := l.timers.cancel .t2 }
  l.transmit now (.supervisory receive)

/-! ### The state of data transfer -/

/-- Data transfer is started. -/
def enterStarted (l : Link) (now : Nat) : Link :=
  let l := { l with state := .started, timers := l.timers.arm .t3 (now + l.settings.t3) }
  l.report (.stateChanged .started)

/-- Data transfer is stopped. -/
def enterStopped (l : Link) : Link :=
  let l := { l with state := .stopped, timers := (l.timers.cancel .t2).cancel .t3 }
  l.wakeSenders.report (.stateChanged .stopped)

/-- Confirm that the other station starts data transfer. -/
def confirmStart (l : Link) (now : Nat) : Link :=
  (l.transmit now (.unnumbered .startCon)).enterStarted now

/-- The calls that end when the connection does, apart from those that wait for room in the
window. -/
def pendingCalls (l : Link) : List CallId :=
  l.handshake.toList.map (·.call) ++ l.startWaiter.toList.map (·.call) ++
    l.waiting.map (·.call) ++ l.watchers

/-- Close the connection, unless it is closed already. -/
def close (l : Link) (cause : Fault) : Link :=
  if l.closed.isSome then l
  else
    let pending := l.pendingCalls
    let l := { l with
      closed := some cause
      timers := {}
      handshake := none
      startWaiter := none
      expectations := []
      waiting := []
      watchers := [] }
    (l.finishAll pending (.failed cause)).report (.closed cause) |>.wakeSenders

/-! ### Frames of the other station -/

/-- Release the outstanding frames that are acknowledged. -/
def applyAcknowledgment (l : Link) (number : UInt16) : Except Fault Link := do
  let (released, window) ← l.window.acknowledge number
  let l := { l with window := window }
  return if released = 0 then l else l.superviseOldest.wakeSenders

/-- Hand a confirmation to the call that expects it: it returns, unless its command is not
yet sent. -/
def confirm (l : Link) (ticket : Nat) (confirmation : Asdu) : Link :=
  match l.waiting.find? fun a => a.ticket == ticket with
  | some a =>
    ({ l with waiting := l.waiting.filter fun b => b.ticket != ticket }).finish a.call
      (.confirmed confirmation)
  | none =>
    { l with senders := l.senders.map fun s =>
        if s.ticket? = some ticket then { s with confirmation? := some confirmation } else s }

/-- Hand a received unit to the first command that it confirms, or else to the listener. -/
def handOver (l : Link) (asdu : Asdu) : Link :=
  match l.expectations.find? fun e => e.isMetBy asdu with
  | some e =>
    { l with expectations := l.expectations.filter fun f => f.ticket != e.ticket }.confirm
      e.ticket asdu
  | none => l.report (.asdu asdu)

/-- Handle an information frame: its acknowledgment, its number, and its unit. -/
def handleInformation (l : Link) (now : Nat) (send receive : UInt16)
    (octets? : Option Octets) : Link :=
  if l.state = .stopped then l.close (.protocolState .informationWhileStopped)
  else match l.applyAcknowledgment receive with
    | .error cause => l.close cause
    | .ok l =>
      match l.window.accept send with
      | .error cause => l.close cause
      | .ok (due, window) =>
        let l := { l with window := window }
        match octets? with
        | none => l.close (.framing .asduMissing)
        | some octets =>
          match l.format.decode octets with
          | .error cause => l.close cause
          | .ok asdu =>
            if due then (l.sendSupervisory now).handOver asdu
            else
              { l with timers := l.timers.armIfIdle .t2 (now + l.settings.t2) }.handOver asdu

/-- Handle a supervisory frame. -/
def handleSupervisory (l : Link) (receive : UInt16) : Link :=
  if l.state = .stopped then l.close (.protocolState .supervisoryWhileStopped)
  else match l.applyAcknowledgment receive with
    | .error cause => l.close cause
    | .ok l => l

/-- Handle an unnumbered frame. -/
def handleUnnumbered (l : Link) (now : Nat) (function : LinkFunction) : Link :=
  match function with
  | .testAct => l.transmit now (.unnumbered .testCon)
  | .testCon =>
    if l.testSent.isSome then { l with testSent := none }.superviseOldest
    else l.close (.protocolState (.unsolicited .testCon))
  | .startAct =>
    if l.state = .started then l.transmit now (.unnumbered .startCon)
    else match l.startWaiter with
      | some waiter =>
        ({ l with startWaiter := none }.confirmStart now).finish waiter.call .done
      | none => { l with startRequested := true }
  | .startCon =>
    match l.handshake with
    | some h =>
      if h.function = .startAct then
        ({ l with handshake := none }.enterStarted now).finish h.call .done
      else l.close (.protocolState (.unsolicited .startCon))
    | none => l.close (.protocolState (.unsolicited .startCon))
  | .stopAct =>
    let l := if 0 < l.window.unacknowledged then l.sendSupervisory now else l
    let l := l.transmit now (.unnumbered .stopCon)
    if l.state = .started then l.enterStopped else l
  | .stopCon =>
    match l.handshake with
    | some h =>
      if h.function = .stopAct then
        { l with handshake := none }.enterStopped.superviseOldest.finish h.call .done
      else l.close (.protocolState (.unsolicited .stopCon))
    | none => l.close (.protocolState (.unsolicited .stopCon))

/-- Handle a frame of the other station; the link is not idle then. -/
def handleFrame (l : Link) (now : Nat) (apdu : Apdu) : Link :=
  if l.closed.isSome then l
  else
    let l :=
      if l.state = .started then { l with timers := l.timers.arm .t3 (now + l.settings.t3) }
      else l
    match apdu.control with
    | .information send receive => l.handleInformation now send receive apdu.asdu?
    | .supervisory receive => l.handleSupervisory receive
    | .unnumbered function => l.handleUnnumbered now function

/-! ### Timers -/

/-- Handle expired timers, in order. The first ends the connection; the second acknowledges
what was received; the third tests the link. -/
def handleExpired (l : Link) (now : Nat) : List Timer → Link
  | [] => l
  | .t1 :: _ => l.close (.timeout .acknowledgment)
  | .t2 :: rest =>
    (if 0 < l.window.unacknowledged then l.sendSupervisory now else l).handleExpired now rest
  | .t3 :: rest =>
    (if l.state = .started ∧ l.testSent.isNone then
      ({ l with testSent := some now }.transmit now (.unnumbered .testAct)).superviseOldest
    else l).handleExpired now rest

/-- Handle the timers whose deadline is not after `now`. -/
def handleTimers (l : Link) (now : Nat) : Link :=
  if l.closed.isSome then l
  else
    let (expired, timers) := l.timers.takeExpired now
    { l with timers := timers }.handleExpired now expired

/-! ### Calls -/

/-- Why no activation may be sent and no start awaited now. -/
def handshakeFault? (l : Link) : Option Fault :=
  match l.closed with
  | some cause => some cause
  | none => l.handshake.map fun h => .protocolState (.unconfirmed h.function)

/-- Send an activation, for whose confirmation a call waits. -/
def beginHandshake (l : Link) (now : Nat) (call : CallId) (function : LinkFunction)
    (deadline? : Option Nat) : Link :=
  let l := { l with handshake := some ⟨function, now, call, deadline?⟩ }
  let l := l.transmit now (.unnumbered function)
  if function = .stopAct then l.superviseOldest else l

/-- Start data transfer, unless it is started already. -/
def start (l : Link) (now : Nat) (call : CallId) (listener : ListenerId) (timeout : Nat) :
    Link :=
  match l.handshakeFault? with
  | some cause => l.finish call (.failed cause)
  | none =>
    let l := l.emit (.notify (.register listener))
    if l.state = .started then l.finish call .done
    else l.beginHandshake now call .startAct (some (now + timeout))

/-- Let the other station start data transfer. It may have asked for it before. -/
def awaitStart (l : Link) (now : Nat) (call : CallId) (listener : ListenerId)
    (timeout : Nat) : Link :=
  match l.handshakeFault? with
  | some cause => l.finish call (.failed cause)
  | none =>
    if l.startWaiter.isSome then l.finish call (.failed (.protocolState .alreadyWaiting))
    else
      let l := l.emit (.notify (.register listener))
      if l.state = .started then l.finish call .done
      else if l.startRequested then
        ({ l with startRequested := false }.confirmStart now).finish call .done
      else { l with startWaiter := some ⟨call, now + timeout⟩ }

/-- Stop data transfer, unless it is stopped already. -/
def stop (l : Link) (now : Nat) (call : CallId) : Link :=
  match l.handshakeFault? with
  | some cause => l.finish call (.failed cause)
  | none =>
    if l.state = .stopped then l.finish call .done
    else l.beginHandshake now call .stopAct none

/-- Expect the confirmation of a command no longer. -/
def forget (l : Link) (ticket? : Option Nat) : Link :=
  { l with expectations := l.expectations.filter fun e => ticket? != some e.ticket }

/-- A call cannot send its unit. -/
def giveUp (l : Link) (call : CallId) (ticket? : Option Nat) (cause : Fault) : Link :=
  (l.forget ticket?).finish call (.failed cause)

/-- The unit of a call was sent: it returns, or waits for the confirmation. -/
def afterSending (l : Link) (now : Nat) (s : Sender) : Link :=
  match s.ticket?, s.confirmation? with
  | none, _ => l.finish s.call .done
  | some _, some confirmation => l.finish s.call (.confirmed confirmation)
  | some ticket, none =>
    { l with waiting := l.waiting ++ [⟨s.call, ticket, now + l.settings.responseTimeout⟩] }

/-- Send the unit of a call if the window has room; else the call waits. -/
def attempt (l : Link) (now : Nat) (s : Sender) : Link :=
  match l.closed with
  | some cause => l.giveUp s.call s.ticket? cause
  | none =>
    if l.state = .stopped then l.giveUp s.call s.ticket? .notStarted
    else if l.window.isFull then
      { l with senders := l.senders ++ [{ s with woken := false }] }
    else (l.sendInformation now s.octets).afterSending now s

/-- Send a unit, which must fit a frame. -/
def sendUnit (l : Link) (now : Nat) (call : CallId) (ticket? : Option Nat) (asdu : Asdu) :
    Link :=
  match l.format.encode asdu with
  | .error cause => l.giveUp call ticket? cause
  | .ok octets =>
    if maxAsduLength < octets.length then
      l.giveUp call ticket? (.framing (.asduTooLong octets.length))
    else l.attempt now { call := call, octets := octets, ticket? := ticket? }

/-- Expect the confirmation of a command, and send it. -/
def sendCommand (l : Link) (now : Nat) (call : CallId) (asdu : Asdu) : Link :=
  let ticket := l.nextTicket
  let l := { l with
    nextTicket := ticket + 1
    expectations := l.expectations ++ [Expectation.ofAsdu ticket asdu] }
  l.sendUnit now call (some ticket) asdu

/-- Wait for the end of the connection. -/
def awaitClose (l : Link) (call : CallId) : Link :=
  match l.closed with
  | some cause => l.finish call (.failed cause)
  | none => { l with watchers := l.watchers ++ [call] }

/-- Handle a call. -/
def handleCall (l : Link) (now : Nat) (call : CallId) : Request → Link
  | .start listener timeout => l.start now call listener timeout
  | .awaitStart listener timeout => l.awaitStart now call listener timeout
  | .stop => l.stop now call
  | .send asdu => l.sendUnit now call none asdu
  | .sendConfirmed asdu => l.sendCommand now call asdu
  | .awaitClose => l.awaitClose call

/-- Let a call that was woken look again whether it can send its unit. -/
def resume (l : Link) (now : Nat) (call : CallId) : Link :=
  match l.senders.find? fun s => s.call == call && s.woken with
  | some s =>
    { l with senders := l.senders.filter fun other => other.call != call }.attempt now s
  | none => l

/-- The activation or the start for which a call waits is overdue. -/
def handshakeOverdue (l : Link) (now : Nat) (call : CallId) : Bool :=
  (l.handshake.any fun h => h.call == call && h.deadline?.any (· ≤ now)) ||
    l.startWaiter.any fun s => s.call == call && decide (s.deadline ≤ now)

/-- Let a call give up if its deadline is not after `now`. A start that takes too long ends
the connection; a missing confirmation does not. -/
def expire (l : Link) (now : Nat) (call : CallId) : Link :=
  if l.handshakeOverdue now call then l.close (.timeout .start)
  else match l.waiting.find? fun a => a.call == call && decide (a.deadline ≤ now) with
    | some a =>
      { l with waiting := l.waiting.filter fun b => b.call != call }.giveUp call
        (some a.ticket) .responseTimeout
    | none => l

/-- What happens to a link at an instant. -/
def step (l : Link) (now : Nat) : LinkInput → Link
  | .call call request => l.handleCall now call request
  | .resume call => l.resume now call
  | .expire call => l.expire now call
  | .timers => l.handleTimers now
  | .frame apdu => l.handleFrame now apdu
  | .lost cause => l.close cause
  | .close => l.close .connectionClosed

/-- What happens to a link at one instant after the other. -/
def run (l : Link) (inputs : List (Nat × LinkInput)) : Link :=
  inputs.foldl (fun l input => l.step input.1 input.2) l

@[simp] theorem run_nil (l : Link) : l.run [] = l := rfl

@[simp] theorem run_cons (l : Link) (input : Nat × LinkInput)
    (inputs : List (Nat × LinkInput)) :
    l.run (input :: inputs) = (l.step input.1 input.2).run inputs := rfl

theorem run_append (l : Link) (first rest : List (Nat × LinkInput)) :
    l.run (first ++ rest) = (l.run first).run rest := by
  simp [run, List.foldl_append]

end Link

end Telecontrol
