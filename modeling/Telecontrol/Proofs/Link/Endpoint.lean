import Telecontrol.Link.Step

/-!
# What the other station can tell of a link

The frames that a link sends depend only on a part of its state, its `Endpoint`: the state of
data transfer, the window, and what is outstanding. Calls, listeners and deadlines do not
matter for it. Whatever happens to a link, its endpoint changes in one of a few ways:

* `Endpoint.Act` lists them for what happens at the station itself (`endpoint_step`);
* `Endpoint.Receive` lists them for a frame of the other station (`endpoint_handleFrame`).

Every invariant of one link, and of two links that are connected, is proved from these lists.
-/

namespace Telecontrol

/-- The frame that a link sends, if it sends one. -/
def Effect.frame? : Effect → Option Apdu
  | transmit apdu => some apdu
  | _ => none

/-- The part of a link on which its frames depend. -/
structure Endpoint where
  settings : Settings
  extension : Option Extension
  state : LinkState
  closed : Option Fault
  window : Window
  /-- An acknowledgment of received frames is scheduled: t2 is armed. -/
  scheduled : Bool
  pending : Option LinkFunction
  /-- The other station asked for the start of data transfer while no call waited for it. -/
  requested : Bool
  /-- A test of the link is not yet confirmed. -/
  testing : Bool
  frames : List Apdu

/-- The endpoint of a link. -/
def Link.endpoint (l : Link) : Endpoint where
  settings := l.settings
  extension := l.extension
  state := l.state
  closed := l.closed
  window := l.window
  scheduled := l.timers.t2.isSome
  pending := l.handshake.map (·.function)
  requested := l.startRequested
  testing := l.testSent.isSome
  frames := l.log.filterMap Effect.frame?

namespace Endpoint

/-- How units are written on the link. -/
def format (e : Endpoint) : AsduFormat := e.settings.format e.extension

/-- Send a frame. -/
def transmit (e : Endpoint) (apdu : Apdu) : Endpoint := { e with frames := e.frames ++ [apdu] }

/-- Send an information frame. -/
def sendInformation (e : Endpoint) (now : Nat) (octets : Octets) : Endpoint :=
  let (send, receive, window) := e.window.nextSend now
  { e with window := window, scheduled := false }.transmit (.information send receive octets)

/-- Acknowledge every frame received by a frame of its own. -/
def sendSupervisory (e : Endpoint) : Endpoint :=
  let (receive, window) := e.window.acknowledgeReceived
  { e with window := window, scheduled := false }.transmit (.supervisory receive)

/-- Data transfer is stopped. -/
def enterStopped (e : Endpoint) : Endpoint := { e with state := .stopped, scheduled := false }

/-- Close the connection. -/
def close (e : Endpoint) (cause : Fault) : Endpoint :=
  { e with closed := some cause, scheduled := false, pending := none }

/-- Why the unit of a received information frame cannot be read, if it cannot. -/
def unitFault? (e : Endpoint) : Option Octets → Option Fault
  | none => some (.framing .asduMissing)
  | some octets =>
    match e.format.decode octets with
    | .error cause => some cause
    | .ok _ => none

end Endpoint

/-- The cause with which something that happens at a station may close the connection. -/
def LinkInput.closesWith : LinkInput → Fault → Prop
  | .close, cause => cause = .connectionClosed
  | .lost stream, cause => cause = stream
  | .timers, cause => cause = .timeout .acknowledgment
  | .expire _, cause => cause = .timeout .start
  | _, _ => False

namespace Endpoint

/-- What the passing of t2 does: an acknowledgment is sent if one is owed. -/
inductive Owed (e : Endpoint) : Endpoint → Prop
  | waits : Owed e e
  | lapses : e.window.unacknowledged = 0 → Owed e { e with scheduled := false }
  | acknowledges : e.scheduled = true → 0 < e.window.unacknowledged → Owed e e.sendSupervisory

/-- What the passing of t3 does: the link is tested unless a test is under way. -/
inductive Tested (e : Endpoint) : Endpoint → Prop
  | waits : Tested e e
  | tests : e.state = .started → e.testing = false →
      Tested e ({ e with testing := true }.transmit (.unnumbered .testAct))

/-- What something that happens at the station itself can do to an endpoint. -/
inductive Act (e : Endpoint) (now : Nat) : LinkInput → Endpoint → Prop
  /-- Nothing of it shows. -/
  | silent {input} : Act e now input e
  | closes {input cause} : e.closed = none → input.closesWith cause →
      Act e now input (e.close cause)
  | sends {input octets} : e.closed = none → e.state = .started → e.window.isFull = false →
      Act e now input (e.sendInformation now octets)
  | asksStart {input} : e.closed = none → e.state = .stopped → e.pending = none →
      Act e now input
        ({ e with pending := some .startAct }.transmit (.unnumbered .startAct))
  | asksStop {input} : e.closed = none → e.state = .started → e.pending = none →
      Act e now input ({ e with pending := some .stopAct }.transmit (.unnumbered .stopAct))
  /-- A request of the other station to start data transfer is confirmed. -/
  | confirmsStart {input} : e.closed = none → e.state = .stopped → e.pending = none →
      e.requested = true →
      Act e now input
        ({ e with requested := false, state := .started }.transmit (.unnumbered .startCon))
  /-- Deadlines pass. -/
  | passes {input owed tested} : e.closed = none → Owed e owed → Tested owed tested →
      Act e now input tested

/-- What a frame of the other station can do to an endpoint that is not closed. -/
inductive Receive (e : Endpoint) : Apdu → Endpoint → Prop
  /-- An information frame while data transfer is stopped. -/
  | informationStopped {send receive octets?} : e.state = .stopped →
      Receive e ⟨.information send receive, octets?⟩
        (e.close (.protocolState .informationWhileStopped))
  /-- A supervisory frame while data transfer is stopped. -/
  | supervisoryStopped {receive octets?} : e.state = .stopped →
      Receive e ⟨.supervisory receive, octets?⟩
        (e.close (.protocolState .supervisoryWhileStopped))
  /-- A supervisory frame that acknowledges what was not sent. -/
  | supervisoryRefused {receive octets? cause} : e.state = .started →
      e.window.acknowledge receive = .error cause →
      Receive e ⟨.supervisory receive, octets?⟩ (e.close cause)
  /-- A supervisory frame. -/
  | supervisory {receive octets? released window} : e.state = .started →
      e.window.acknowledge receive = .ok (released, window) →
      Receive e ⟨.supervisory receive, octets?⟩ { e with window := window }
  /-- An information frame that acknowledges what was not sent. -/
  | informationRefused {send receive octets? cause} : e.state = .started →
      e.window.acknowledge receive = .error cause →
      Receive e ⟨.information send receive, octets?⟩ (e.close cause)
  /-- An information frame out of order. -/
  | numberRefused {send receive octets? released window cause} : e.state = .started →
      e.window.acknowledge receive = .ok (released, window) →
      window.accept send = .error cause →
      Receive e ⟨.information send receive, octets?⟩ ({ e with window := window }.close cause)
  /-- An information frame whose unit cannot be read. -/
  | unitRefused {send receive octets? released window due accepted cause} :
      e.state = .started →
      e.window.acknowledge receive = .ok (released, window) →
      window.accept send = .ok (due, accepted) → e.unitFault? octets? = some cause →
      Receive e ⟨.information send receive, octets?⟩ ({ e with window := accepted }.close cause)
  /-- An information frame after which an acknowledgment is not yet due. -/
  | information {send receive octets? released window accepted} : e.state = .started →
      e.window.acknowledge receive = .ok (released, window) →
      window.accept send = .ok (false, accepted) → e.unitFault? octets? = none →
      Receive e ⟨.information send receive, octets?⟩
        { e with window := accepted, scheduled := true }
  /-- An information frame after which an acknowledgment is due. -/
  | informationDue {send receive octets? released window accepted} : e.state = .started →
      e.window.acknowledge receive = .ok (released, window) →
      window.accept send = .ok (true, accepted) → e.unitFault? octets? = none →
      Receive e ⟨.information send receive, octets?⟩
        { e with window := accepted }.sendSupervisory
  /-- A test of the link. -/
  | test {octets?} :
      Receive e ⟨.unnumbered .testAct, octets?⟩ (e.transmit (.unnumbered .testCon))
  /-- The confirmation of a test. -/
  | tested {octets?} : e.testing = true →
      Receive e ⟨.unnumbered .testCon, octets?⟩ { e with testing := false }
  /-- A request to start data transfer that is started already. -/
  | startedAlready {octets?} : e.state = .started →
      Receive e ⟨.unnumbered .startAct, octets?⟩ (e.transmit (.unnumbered .startCon))
  /-- A request to start data transfer for which a call waited. -/
  | startedByOther {octets?} : e.state = .stopped →
      Receive e ⟨.unnumbered .startAct, octets?⟩
        ({ e with state := .started }.transmit (.unnumbered .startCon))
  /-- A request to start data transfer for which no call waited. -/
  | startRequested {octets?} : e.state = .stopped →
      Receive e ⟨.unnumbered .startAct, octets?⟩ { e with requested := true }
  /-- The confirmation that data transfer is started. -/
  | startConfirmed {octets?} : e.pending = some .startAct →
      Receive e ⟨.unnumbered .startCon, octets?⟩
        { e with pending := none, state := .started }
  /-- A request to stop data transfer. -/
  | stoppedByOther {octets? owed} : e.state = .started →
      owed = (if 0 < e.window.unacknowledged then e.sendSupervisory else e) →
      Receive e ⟨.unnumbered .stopAct, octets?⟩
        (owed.transmit (.unnumbered .stopCon)).enterStopped
  /-- A request to stop data transfer that is stopped already. -/
  | stoppedAlready {octets? owed} : e.state = .stopped →
      owed = (if 0 < e.window.unacknowledged then e.sendSupervisory else e) →
      Receive e ⟨.unnumbered .stopAct, octets?⟩ (owed.transmit (.unnumbered .stopCon))
  /-- The confirmation that data transfer is stopped. -/
  | stopConfirmed {octets?} : e.pending = some .stopAct →
      Receive e ⟨.unnumbered .stopCon, octets?⟩ { e with pending := none }.enterStopped
  /-- The confirmation of a test that was not sent. -/
  | testUnsolicited {octets?} : e.testing = false →
      Receive e ⟨.unnumbered .testCon, octets?⟩
        (e.close (.protocolState (.unsolicited .testCon)))
  /-- A confirmation of a start that was not asked for. -/
  | startUnsolicited {octets?} : e.pending ≠ some .startAct →
      Receive e ⟨.unnumbered .startCon, octets?⟩
        (e.close (.protocolState (.unsolicited .startCon)))
  /-- A confirmation of an end that was not asked for. -/
  | stopUnsolicited {octets?} : e.pending ≠ some .stopAct →
      Receive e ⟨.unnumbered .stopCon, octets?⟩
        (e.close (.protocolState (.unsolicited .stopCon)))

end Endpoint

theorem LinkState.eq_stopped_of_ne {s : LinkState} (h : s ≠ .started) : s = .stopped := by
  cases s
  · rfl
  · exact absurd rfl h

theorem LinkState.eq_started_of_ne {s : LinkState} (h : s ≠ .stopped) : s = .started := by
  cases s
  · exact absurd rfl h
  · rfl

/-! ### The endpoint after each operation of a link -/

namespace Link

@[simp] theorem endpoint_finish (l : Link) (call : CallId) (reply : Reply) :
    (l.finish call reply).endpoint = l.endpoint := by
  simp [endpoint, finish, emit, Effect.frame?]

@[simp] theorem endpoint_finishAll (l : Link) (calls : List CallId) (reply : Reply) :
    (l.finishAll calls reply).endpoint = l.endpoint := by
  unfold finishAll
  induction calls generalizing l with
  | nil => rfl
  | cons call calls ih => rw [List.foldl_cons, ih, endpoint_finish]

@[simp] theorem endpoint_notify (l : Link) (message : Message) :
    (l.emit (.notify message)).endpoint = l.endpoint := by
  simp [endpoint, emit, Effect.frame?]

@[simp] theorem endpoint_report (l : Link) (event : LinkEvent) :
    (l.report event).endpoint = l.endpoint := endpoint_notify l _

@[simp] theorem endpoint_wakeSenders (l : Link) : l.wakeSenders.endpoint = l.endpoint := rfl

@[simp] theorem endpoint_superviseOldest (l : Link) :
    l.superviseOldest.endpoint = l.endpoint := rfl

@[simp] theorem endpoint_forget (l : Link) (ticket? : Option Nat) :
    (l.forget ticket?).endpoint = l.endpoint := rfl

@[simp] theorem endpoint_giveUp (l : Link) (call : CallId) (ticket? : Option Nat)
    (cause : Fault) : (l.giveUp call ticket? cause).endpoint = l.endpoint := by
  simp [giveUp]

@[simp] theorem endpoint_afterSending (l : Link) (now : Nat) (s : Sender) :
    (l.afterSending now s).endpoint = l.endpoint := by
  unfold afterSending
  split
  · exact endpoint_finish _ _ _
  · exact endpoint_finish _ _ _
  · rfl

@[simp] theorem endpoint_confirm (l : Link) (ticket : Nat) (confirmation : Asdu) :
    (l.confirm ticket confirmation).endpoint = l.endpoint := by
  unfold confirm
  split
  · exact endpoint_finish _ _ _
  · rfl

@[simp] theorem endpoint_handOver (l : Link) (asdu : Asdu) :
    (l.handOver asdu).endpoint = l.endpoint := by
  unfold handOver
  split
  · exact endpoint_confirm _ _ _
  · exact endpoint_report _ _

@[simp] theorem endpoint_transmit (l : Link) (now : Nat) (apdu : Apdu) :
    (l.transmit now apdu).endpoint = l.endpoint.transmit apdu := by
  unfold transmit
  simp only
  split <;> simp [endpoint, emit, Effect.frame?, Endpoint.transmit, Timers.arm, Timers.set]

@[simp] theorem endpoint_sendInformation (l : Link) (now : Nat) (octets : Octets) :
    (l.sendInformation now octets).endpoint = l.endpoint.sendInformation now octets := by
  simp only [sendInformation, endpoint_superviseOldest, endpoint_transmit]
  rfl

@[simp] theorem endpoint_sendSupervisory (l : Link) (now : Nat) :
    (l.sendSupervisory now).endpoint = l.endpoint.sendSupervisory := by
  simp only [sendSupervisory, endpoint_transmit]
  rfl

@[simp] theorem endpoint_enterStarted (l : Link) (now : Nat) :
    (l.enterStarted now).endpoint = { l.endpoint with state := .started } := by
  simp only [enterStarted, endpoint_report]
  rfl

@[simp] theorem endpoint_enterStopped (l : Link) :
    l.enterStopped.endpoint = l.endpoint.enterStopped := by
  simp only [enterStopped, endpoint_report, endpoint_wakeSenders]
  rfl

@[simp] theorem endpoint_confirmStart (l : Link) (now : Nat) :
    (l.confirmStart now).endpoint =
      { l.endpoint with state := .started }.transmit (.unnumbered .startCon) := by
  simp only [confirmStart, endpoint_enterStarted, endpoint_transmit]
  rfl

theorem endpoint_close {l : Link} (h : l.closed = none) (cause : Fault) :
    (l.close cause).endpoint = l.endpoint.close cause := by
  simp only [close, h, Option.isSome_none, Bool.false_eq_true, if_false, endpoint_wakeSenders,
    endpoint_report, endpoint_finishAll]
  rfl

/-- A closed connection stays as it is. -/
theorem close_of_closed {l : Link} (h : l.closed ≠ none) (cause : Fault) :
    l.close cause = l := by
  unfold close
  rw [if_pos (Option.isSome_iff_ne_none.mpr h)]

/-! ### What happens at the station itself -/

theorem handshakeFault?_eq_none_iff {l : Link} :
    l.handshakeFault? = none ↔ l.closed = none ∧ l.handshake = none := by
  unfold handshakeFault?
  cases l.closed <;> simp

theorem handshakeFault?_eq_none {l : Link} (h : l.handshakeFault? = none) :
    l.closed = none ∧ l.endpoint.pending = none :=
  (handshakeFault?_eq_none_iff.mp h).imp_right Option.map_eq_none_iff.mpr

variable (l : Link) (now : Nat) (call : CallId) (input : LinkInput)

theorem endpoint_start (listener : ListenerId) (timeout : Nat) :
    l.endpoint.Act now input (l.start now call listener timeout).endpoint := by
  unfold start
  split
  · simpa using Endpoint.Act.silent
  · next h =>
    obtain ⟨hclosed, hpending⟩ := handshakeFault?_eq_none h
    simp only
    split
    · simpa using Endpoint.Act.silent
    · next hstate =>
      have hstate : l.state = .stopped := LinkState.eq_stopped_of_ne hstate
      simp only [beginHandshake, reduceCtorEq, if_false, endpoint_transmit]
      rw [← endpoint_notify l (.register listener)]
      exact Endpoint.Act.asksStart hclosed hstate hpending

theorem endpoint_awaitStart (listener : ListenerId) (timeout : Nat) :
    l.endpoint.Act now input (l.awaitStart now call listener timeout).endpoint := by
  unfold awaitStart
  split
  · simpa using Endpoint.Act.silent
  · next h =>
    obtain ⟨hclosed, hpending⟩ := handshakeFault?_eq_none h
    split
    · simpa using Endpoint.Act.silent
    · simp only
      split
      · simpa using Endpoint.Act.silent
      · next hstate =>
        have hstate : l.state = .stopped := LinkState.eq_stopped_of_ne hstate
        rw [← endpoint_notify l (.register listener)]
        split
        · next hrequested =>
          simp only [endpoint_finish, endpoint_confirmStart]
          exact Endpoint.Act.confirmsStart hclosed hstate hpending hrequested
        · exact Endpoint.Act.silent

theorem endpoint_stop : l.endpoint.Act now input (l.stop now call).endpoint := by
  unfold stop
  split
  · simpa using Endpoint.Act.silent
  · next h =>
    obtain ⟨hclosed, hpending⟩ := handshakeFault?_eq_none h
    split
    · simpa using Endpoint.Act.silent
    · next hstate =>
      have hstate : l.state = .started := LinkState.eq_started_of_ne hstate
      simp only [beginHandshake, if_true, endpoint_superviseOldest, endpoint_transmit]
      exact Endpoint.Act.asksStop hclosed hstate hpending

theorem endpoint_attempt (s : Sender) :
    l.endpoint.Act now input (l.attempt now s).endpoint := by
  unfold attempt
  split
  · simpa using Endpoint.Act.silent
  · next hclosed =>
    split
    · simpa using Endpoint.Act.silent
    · next hstate =>
      split
      · exact Endpoint.Act.silent
      · next hfull =>
        simp only [endpoint_afterSending, endpoint_sendInformation]
        exact Endpoint.Act.sends hclosed (LinkState.eq_started_of_ne hstate)
          (Bool.eq_false_iff.mpr hfull)

theorem endpoint_sendUnit (ticket? : Option Nat) (asdu : Asdu) :
    l.endpoint.Act now input (l.sendUnit now call ticket? asdu).endpoint := by
  unfold sendUnit
  split
  · simpa using Endpoint.Act.silent
  · split
    · simpa using Endpoint.Act.silent
    · exact endpoint_attempt _ _ _ _

theorem endpoint_sendCommand (asdu : Asdu) :
    l.endpoint.Act now input (l.sendCommand now call asdu).endpoint :=
  endpoint_sendUnit
    { l with
      nextTicket := l.nextTicket + 1
      expectations := l.expectations ++ [Expectation.ofAsdu l.nextTicket asdu] }
    now call input (some l.nextTicket) asdu

theorem endpoint_handleCall (request : Request) :
    l.endpoint.Act now input (l.handleCall now call request).endpoint := by
  cases request with
  | start listener timeout => exact endpoint_start ..
  | awaitStart listener timeout => exact endpoint_awaitStart ..
  | stop => exact endpoint_stop ..
  | send asdu => exact endpoint_sendUnit ..
  | sendConfirmed asdu => exact endpoint_sendCommand ..
  | awaitClose =>
    simp only [handleCall, awaitClose]
    split
    · simpa using Endpoint.Act.silent
    · exact Endpoint.Act.silent

theorem endpoint_resume : l.endpoint.Act now input (l.resume now call).endpoint := by
  unfold resume
  split
  · next s _ =>
    exact endpoint_attempt
      { l with senders := l.senders.filter fun other => other.call != call } now input s
  · exact Endpoint.Act.silent

theorem endpoint_closing {cause : Fault} (h : input.closesWith cause) :
    l.endpoint.Act now input (l.close cause).endpoint := by
  by_cases hclosed : l.closed = none
  · rw [endpoint_close hclosed]
    exact Endpoint.Act.closes hclosed h
  · rw [close_of_closed hclosed]
    exact Endpoint.Act.silent

theorem endpoint_expire : l.endpoint.Act now (.expire call) (l.expire now call).endpoint := by
  unfold expire
  split
  · exact endpoint_closing _ _ _ rfl
  · split
    · rw [endpoint_giveUp]
      exact Endpoint.Act.silent
    · exact Endpoint.Act.silent

theorem endpoint_handleIdle {rest : List Timer} (h : rest = [] ∨ rest = [.t3]) :
    l.endpoint.Tested (l.handleExpired now rest).endpoint := by
  rcases h with rfl | rfl
  · exact Endpoint.Tested.waits
  · simp only [handleExpired]
    split
    · next h =>
      have htesting : l.endpoint.testing = false := by simpa [endpoint] using h.2
      simp only [endpoint_superviseOldest, endpoint_transmit]
      exact Endpoint.Tested.tests h.1 htesting
    · exact Endpoint.Tested.waits

theorem endpoint_acknowledgeOwed {timers : Timers} (h : l.timers.isExpired now .t2)
    (ht2 : timers.t2 = none) :
    l.endpoint.Owed
      (let l := { l with timers := timers }
        if 0 < l.window.unacknowledged then l.sendSupervisory now else l).endpoint := by
  -- Only a timer that is armed expires.
  have hscheduled : l.endpoint.scheduled = true := by
    simp only [Timers.isExpired, Timers.deadline?, Option.any_eq_true] at h
    obtain ⟨deadline, hdeadline, -⟩ := h
    simp [endpoint, hdeadline]
  simp only
  split
  · next howed =>
    rw [endpoint_sendSupervisory]
    exact Endpoint.Owed.acknowledges hscheduled howed
  · next howed =>
    have hzero : l.window.unacknowledged = 0 :=
      UInt16.le_antisymm (UInt16.not_lt.mp howed) UInt16.zero_le
    have hidle := Endpoint.Owed.lapses (e := l.endpoint) hzero
    simpa [endpoint, ht2] using hidle

theorem endpoint_handleTimers : l.endpoint.Act now .timers (l.handleTimers now).endpoint := by
  unfold handleTimers
  split
  · exact Endpoint.Act.silent
  · next hclosed =>
    have hclosed : l.closed = none := by simpa using hclosed
    simp only [Timers.takeExpired, Timer.all]
    -- If t1 has expired, the connection is closed, whatever else has.
    by_cases h1 : l.timers.isExpired now .t1
    · rw [List.filter_cons_of_pos h1]
      simp only [handleExpired]
      rw [endpoint_close (by exact hclosed)]
      exact Endpoint.Act.closes hclosed rfl
    · rw [List.filter_cons_of_neg h1]
      have hrest : [Timer.t3].filter (l.timers.isExpired now) = [] ∨
          [Timer.t3].filter (l.timers.isExpired now) = [.t3] := by
        by_cases h3 : l.timers.isExpired now .t3
        · exact .inr (List.filter_cons_of_pos h3)
        · exact .inl (List.filter_cons_of_neg h3)
      by_cases h2 : l.timers.isExpired now .t2
      · rw [List.filter_cons_of_pos h2]
        refine Endpoint.Act.passes hclosed (endpoint_acknowledgeOwed l now h2 ?_)
          (endpoint_handleIdle _ now hrest)
        rcases hrest with hrest | hrest <;> rw [hrest] <;> rfl
      · rw [List.filter_cons_of_neg h2]
        refine Endpoint.Act.passes hclosed Endpoint.Owed.waits ?_
        rcases hrest with hrest | hrest <;> rw [hrest]
        · exact endpoint_handleIdle l now (.inl rfl)
        · exact endpoint_handleIdle { l with timers := l.timers.cancel .t3 } now (.inr rfl)

/-- What happens at the station itself changes the endpoint in one of the ways listed. -/
theorem endpoint_step (hinput : ∀ apdu, input ≠ .frame apdu) :
    l.endpoint.Act now input (l.step now input).endpoint := by
  cases input with
  | call call request => exact endpoint_handleCall ..
  | resume call => exact endpoint_resume ..
  | expire call => exact endpoint_expire ..
  | timers => exact endpoint_handleTimers ..
  | frame apdu => exact absurd rfl (hinput apdu)
  | lost cause => exact endpoint_closing _ _ _ rfl
  | close => exact endpoint_closing _ _ _ rfl

/-! ### Frames of the other station -/

variable {l}

theorem applyAcknowledgment_eq_ok {released : Nat} {number : UInt16} {window : Window}
    (h : l.window.acknowledge number = .ok (released, window)) :
    ∃ l' : Link, l.applyAcknowledgment number = .ok l' ∧ l'.window = window ∧
      l'.closed = l.closed ∧ l'.endpoint = { l.endpoint with window := window } := by
  simp only [applyAcknowledgment, h]
  refine ⟨_, rfl, ?_⟩
  split <;> exact ⟨rfl, rfl, rfl⟩

theorem applyAcknowledgment_eq_error {number : UInt16} {cause : Fault}
    (h : l.window.acknowledge number = .error cause) :
    l.applyAcknowledgment number = .error cause := by
  simp only [applyAcknowledgment, h]
  rfl

theorem endpoint_schedule (l : Link) (deadline : Nat) :
    ({ l with timers := l.timers.armIfIdle .t2 deadline } : Link).endpoint =
      { l.endpoint with scheduled := true } := by
  have hset : (l.timers.armIfIdle .t2 deadline).t2.isSome = true := by
    rw [Timers.armIfIdle_eq]
    split
    · next h => exact h
    · rfl
  show { l.endpoint with scheduled := (l.timers.armIfIdle .t2 deadline).t2.isSome } = _
  rw [hset]

theorem endpoint_handleSupervisory (hclosed : l.closed = none) (receive : UInt16)
    (octets? : Option Octets) :
    l.endpoint.Receive ⟨.supervisory receive, octets?⟩
      (l.handleSupervisory receive).endpoint := by
  unfold handleSupervisory
  split
  · next hstate =>
    rw [endpoint_close hclosed]
    exact .supervisoryStopped hstate
  · next hstate =>
    have hstate : l.state = .started := LinkState.eq_started_of_ne hstate
    rcases hack : l.window.acknowledge receive with cause | ⟨released, window⟩
    · rw [applyAcknowledgment_eq_error hack]
      simp only
      rw [endpoint_close hclosed]
      exact .supervisoryRefused hstate hack
    · obtain ⟨l', happly, -, -, hl'⟩ := applyAcknowledgment_eq_ok hack
      rw [happly]
      simp only [hl']
      exact .supervisory hstate hack

theorem endpoint_handleInformation (hclosed : l.closed = none) (send receive : UInt16)
    (octets? : Option Octets) :
    l.endpoint.Receive ⟨.information send receive, octets?⟩
      (l.handleInformation now send receive octets?).endpoint := by
  unfold handleInformation
  split
  · next hstate =>
    rw [endpoint_close hclosed]
    exact .informationStopped hstate
  · next hstate =>
    have hstate : l.state = .started := LinkState.eq_started_of_ne hstate
    rcases hack : l.window.acknowledge receive with cause | ⟨released, window⟩
    · rw [applyAcknowledgment_eq_error hack]
      simp only
      rw [endpoint_close hclosed]
      exact .informationRefused hstate hack
    · obtain ⟨l', happly, rfl, hclosed', hl'⟩ := applyAcknowledgment_eq_ok hack
      rw [hclosed] at hclosed'
      rw [happly]
      simp only
      rcases haccept : l'.window.accept send with cause | ⟨due, accepted⟩
      · simp only
        rw [endpoint_close hclosed', hl']
        exact .numberRefused hstate hack haccept
      · have hwith : ({ l' with window := accepted } : Link).endpoint =
            { l.endpoint with window := accepted } := by
          show { l'.endpoint with window := accepted } = _
          rw [hl']
        have hformat : l'.format = l.endpoint.format := congrArg Endpoint.format hl'
        -- The unit is read only now that both numbers are accepted.
        cases octets? with
        | none =>
          simp only
          rw [endpoint_close (by exact hclosed'), hwith]
          exact .unitRefused hstate hack haccept rfl
        | some octets =>
          simp only
          rcases hdecode : ({ l' with window := accepted } : Link).format.decode octets with
            cause | asdu
          · have hfault : l.endpoint.unitFault? (some octets) = some cause := by
              simp only [Endpoint.unitFault?, ← hformat]
              rw [show l'.format.decode octets = .error cause from hdecode]
            simp only
            rw [endpoint_close (by exact hclosed'), hwith]
            exact .unitRefused hstate hack haccept hfault
          · have hfault : l.endpoint.unitFault? (some octets) = none := by
              simp only [Endpoint.unitFault?, ← hformat]
              rw [show l'.format.decode octets = .ok asdu from hdecode]
            cases due with
            | true =>
              simp only [if_true, endpoint_handOver, endpoint_sendSupervisory, hwith]
              exact .informationDue hstate hack haccept hfault
            | false =>
              simp only [Bool.false_eq_true, if_false, endpoint_handOver]
              rw [endpoint_schedule { l' with window := accepted }, hwith]
              exact .information hstate hack haccept hfault

theorem endpoint_handleUnnumbered (hclosed : l.closed = none) (function : LinkFunction)
    (octets? : Option Octets) :
    l.endpoint.Receive ⟨.unnumbered function, octets?⟩
      (l.handleUnnumbered now function).endpoint := by
  cases function with
  | testAct =>
    simp only [handleUnnumbered, endpoint_transmit]
    exact .test
  | testCon =>
    simp only [handleUnnumbered]
    split
    · next h => exact .tested h
    · next h =>
      rw [endpoint_close hclosed]
      exact .testUnsolicited (Bool.eq_false_iff.mpr h)
  | startAct =>
    simp only [handleUnnumbered]
    split
    · next hstate =>
      rw [endpoint_transmit]
      exact .startedAlready hstate
    · next hstate =>
      have hstate : l.state = .stopped := LinkState.eq_stopped_of_ne hstate
      split
      · simp only [endpoint_finish, endpoint_confirmStart]
        exact .startedByOther hstate
      · exact .startRequested hstate
  | startCon =>
    simp only [handleUnnumbered]
    split
    · next h hhandshake =>
      have hpending : l.endpoint.pending = some h.function := by simp [endpoint, hhandshake]
      split
      · next hfunction =>
        rw [hfunction] at hpending
        simp only [endpoint_finish, endpoint_enterStarted]
        exact .startConfirmed hpending
      · next hfunction =>
        rw [endpoint_close hclosed]
        exact .startUnsolicited (by simpa [hpending] using hfunction)
    · next hhandshake =>
      rw [endpoint_close hclosed]
      exact .startUnsolicited (by simp [endpoint, hhandshake])
  | stopAct =>
    simp only [handleUnnumbered]
    -- What is owed is acknowledged before the state is looked at.
    generalize howed : (if 0 < l.window.unacknowledged then l.sendSupervisory now else l) = owed
    have hendpoint : owed.endpoint =
        if 0 < l.endpoint.window.unacknowledged then l.endpoint.sendSupervisory
        else l.endpoint := by
      rw [← howed, apply_ite Link.endpoint, endpoint_sendSupervisory]
      rfl
    have hstate : (owed.transmit now (.unnumbered .stopCon)).state = l.state := by
      show (owed.transmit now (.unnumbered .stopCon)).endpoint.state = l.endpoint.state
      rw [endpoint_transmit, hendpoint]
      split <;> rfl
    rw [hstate]
    split
    · next hstarted =>
      rw [endpoint_enterStopped, endpoint_transmit]
      exact .stoppedByOther hstarted hendpoint
    · next hstarted =>
      rw [endpoint_transmit]
      exact .stoppedAlready (LinkState.eq_stopped_of_ne hstarted) hendpoint
  | stopCon =>
    simp only [handleUnnumbered]
    split
    · next h hhandshake =>
      have hpending : l.endpoint.pending = some h.function := by simp [endpoint, hhandshake]
      split
      · next hfunction =>
        rw [hfunction] at hpending
        simp only [endpoint_finish, endpoint_superviseOldest, endpoint_enterStopped]
        exact .stopConfirmed hpending
      · next hfunction =>
        rw [endpoint_close hclosed]
        exact .stopUnsolicited (by simpa [hpending] using hfunction)
    · next hhandshake =>
      rw [endpoint_close hclosed]
      exact .stopUnsolicited (by simp [endpoint, hhandshake])

/-- Restart the timer t3 of a link on which data transfer is started. -/
def rearmIdle (l : Link) (now : Nat) : Link :=
  if l.state = .started then { l with timers := l.timers.arm .t3 (now + l.settings.t3) } else l

@[simp] theorem endpoint_rearmIdle (l : Link) (now : Nat) :
    (l.rearmIdle now).endpoint = l.endpoint := by
  unfold rearmIdle
  split <;> rfl

@[simp] theorem closed_rearmIdle (l : Link) (now : Nat) : (l.rearmIdle now).closed = l.closed :=
  congrArg Endpoint.closed (endpoint_rearmIdle l now)

/-- An open link restarts t3 and then handles the frame. -/
theorem handleFrame_of_open (hclosed : l.closed = none) (apdu : Apdu) :
    l.handleFrame now apdu = match apdu.control with
      | .information send receive =>
        (l.rearmIdle now).handleInformation now send receive apdu.asdu?
      | .supervisory receive => (l.rearmIdle now).handleSupervisory receive
      | .unnumbered function => (l.rearmIdle now).handleUnnumbered now function := by
  unfold handleFrame
  rw [if_neg (by simp [hclosed])]
  rfl

/-- A frame of the other station changes the endpoint in one of the ways listed. -/
theorem endpoint_handleFrame (hclosed : l.closed = none) (apdu : Apdu) :
    l.endpoint.Receive apdu (l.handleFrame now apdu).endpoint := by
  obtain ⟨control, octets?⟩ := apdu
  have hclosed' : (l.rearmIdle now).closed = none := by simp [hclosed]
  rw [handleFrame_of_open now hclosed, ← endpoint_rearmIdle l now]
  cases control with
  | information send receive => exact endpoint_handleInformation now hclosed' ..
  | supervisory receive => exact endpoint_handleSupervisory hclosed' ..
  | unnumbered function => exact endpoint_handleUnnumbered now hclosed' ..

/-- A closed connection takes no notice of frames. -/
theorem handleFrame_of_closed (hclosed : l.closed ≠ none) (apdu : Apdu) :
    l.handleFrame now apdu = l := by
  unfold handleFrame
  rw [if_pos (Option.isSome_iff_ne_none.mpr hclosed)]

/-- A step is one of those at the station itself, or a frame that an open connection handles,
or a frame of which a closed one takes no notice. -/
theorem step_cases (l : Link) (now : Nat) (input : LinkInput) :
    ((∀ apdu, input ≠ .frame apdu) ∧ l.endpoint.Act now input (l.step now input).endpoint) ∨
      (∃ apdu, input = .frame apdu ∧ l.closed = none ∧
        l.endpoint.Receive apdu (l.step now input).endpoint) ∨
      ∃ apdu, input = .frame apdu ∧ l.closed ≠ none ∧ l.step now input = l := by
  by_cases hinput : ∃ apdu, input = .frame apdu
  · obtain ⟨apdu, rfl⟩ := hinput
    by_cases hclosed : l.closed = none
    · exact .inr (.inl ⟨apdu, rfl, hclosed, endpoint_handleFrame now hclosed apdu⟩)
    · exact .inr (.inr ⟨apdu, rfl, hclosed, handleFrame_of_closed now hclosed apdu⟩)
  · have hinput : ∀ apdu, input ≠ .frame apdu := fun apdu h => hinput ⟨apdu, h⟩
    exact .inl ⟨hinput, endpoint_step l now input hinput⟩

end Link

/-! ### What does not change -/

namespace Endpoint

/-- The settings and the extension are those with which the connection began. -/
def SameSetup (e e' : Endpoint) : Prop :=
  e'.settings = e.settings ∧ e'.extension = e.extension

variable {e e' : Endpoint} {now : Nat} {input : LinkInput} {apdu : Apdu}

theorem Owed.sameSetup (h : e.Owed e') : e.SameSetup e' := by
  cases h <;> exact ⟨rfl, rfl⟩

theorem Act.sameSetup (h : e.Act now input e') : e.SameSetup e' := by
  cases h with
  | passes _ howed htested =>
    have hsetup := howed.sameSetup
    cases htested <;> exact hsetup
  | _ => exact ⟨rfl, rfl⟩

theorem Receive.sameSetup (h : e.Receive apdu e') : e.SameSetup e' := by
  cases h with
  | stoppedByOther _ howed | stoppedAlready _ howed =>
    subst howed
    split <;> exact ⟨rfl, rfl⟩
  | _ => exact ⟨rfl, rfl⟩

/-- To acknowledge what is owed closes nothing. -/
theorem closed_of_owed {owed : Endpoint}
    (howed : owed = if 0 < e.window.unacknowledged then e.sendSupervisory else e) :
    owed.closed = e.closed := by
  rw [howed]
  split <;> rfl

/-- A closed connection stays closed for the same cause. -/
theorem Act.closed_of_closed {cause : Fault} (h : e.Act now input e')
    (hclosed : e.closed = some cause) : e'.closed = some cause := by
  cases h with
  | silent => exact hclosed
  | closes hopen | sends hopen | asksStart hopen | asksStop hopen | confirmsStart hopen
  | passes hopen => cases hopen.symm.trans hclosed

end Endpoint

theorem Link.sameSetup_step (l : Link) (now : Nat) (input : LinkInput) :
    l.endpoint.SameSetup (l.step now input).endpoint := by
  rcases l.step_cases now input with ⟨-, hact⟩ | ⟨apdu, -, -, hreceive⟩ | ⟨apdu, -, -, heq⟩
  · exact hact.sameSetup
  · exact hreceive.sameSetup
  · rw [heq]
    exact ⟨rfl, rfl⟩

theorem Link.sameSetup_run (l : Link) (inputs : List (Nat × LinkInput)) :
    l.endpoint.SameSetup (l.run inputs).endpoint := by
  induction inputs generalizing l with
  | nil => exact ⟨rfl, rfl⟩
  | cons input inputs ih =>
    obtain ⟨hsettings, hextension⟩ := l.sameSetup_step input.1 input.2
    obtain ⟨hsettings', hextension'⟩ := ih (l.step input.1 input.2)
    exact ⟨hsettings'.trans hsettings, hextension'.trans hextension⟩

theorem Link.format_run (l : Link) (inputs : List (Nat × LinkInput)) :
    (l.run inputs).format = l.format := by
  obtain ⟨hsettings, hextension⟩ := l.sameSetup_run inputs
  have hsettings : (l.run inputs).settings = l.settings := hsettings
  have hextension : (l.run inputs).extension = l.extension := hextension
  rw [format, format, hsettings, hextension]

end Telecontrol
