import Telecontrol.Proofs.Link.Ledger

/-!
# What the calls of a station see of a link

Calls and listeners depend on another part of a link than its frames do, its `Desk`: the calls
that wait and for what, the confirmations that are expected, the events reported and the calls
that have returned. Whatever happens to a link, its desk changes in one of a few ways, which
`Desk.Move` lists (`Link.desk_step`). Every invariant of calls is proved from this list.
-/

namespace Telecontrol

/-- The unit that a link sends, if it sends one. -/
def Effect.unit? : Effect → Option Octets
  | transmit apdu => if apdu.control.isInformation then some apdu.asdu else none
  | _ => none

/-- The event that a link reports, if it reports one. -/
def Effect.event? : Effect → Option LinkEvent
  | notify (.post event) => some event
  | _ => none

/-- The call that a link lets return, if it does. -/
def Effect.return? : Effect → Option (CallId × Reply)
  | finish call reply => some (call, reply)
  | _ => none

/-- The unit that a call returns as a confirmation. -/
def Reply.unit? : Reply → Option Asdu
  | confirmed confirmation => some confirmation
  | _ => none

/-- The unit that a call is to send. -/
def Request.unit? : Request → Option Asdu
  | send asdu | sendConfirmed asdu => some asdu
  | _ => none

/-- The call that is made. -/
def LinkInput.call? : LinkInput → Option CallId
  | .call id _ => some id
  | _ => none

/-- The call that is made or goes on. -/
def LinkInput.caller? : LinkInput → Option CallId
  | .call id _ | .resume id => some id
  | _ => none

/-- The octets of a unit that fits a frame. -/
def AsduFormat.frameOctets (f : AsduFormat) (asdu : Asdu) : Except Fault Octets :=
  match f.encode asdu with
  | .error cause => .error cause
  | .ok octets =>
    if maxAsduLength < octets.length then .error (.framing (.asduTooLong octets.length))
    else .ok octets

/-- The part of a link that calls and listeners see. -/
structure Desk where
  format : AsduFormat
  closed : Option Fault
  /-- The call that waits for the confirmation of an activation. -/
  activator : Option CallId
  /-- The call that waits for the other station to start data transfer. -/
  starter : Option CallId
  expectations : List Expectation
  nextTicket : Nat
  senders : List Sender
  waiting : List Waiting
  watchers : List CallId
  /-- The units sent, oldest first. -/
  units : List Octets
  events : List LinkEvent
  returns : List (CallId × Reply)

/-- The desk of a link. -/
def Link.desk (l : Link) : Desk where
  format := l.format
  closed := l.closed
  activator := l.handshake.map (·.call)
  starter := l.startWaiter.map (·.call)
  expectations := l.expectations
  nextTicket := l.nextTicket
  senders := l.senders
  waiting := l.waiting
  watchers := l.watchers
  units := l.log.filterMap Effect.unit?
  events := l.log.filterMap Effect.event?
  returns := l.log.filterMap Effect.return?

namespace Desk

/-- Let a call return. -/
def answer (d : Desk) (call : CallId) (reply : Reply) : Desk :=
  { d with returns := d.returns ++ [(call, reply)] }

/-- Report an event. -/
def post (d : Desk) (event : LinkEvent) : Desk := { d with events := d.events ++ [event] }

/-- Let every call that waits for room in the window look again. -/
def wake (d : Desk) : Desk :=
  { d with senders := d.senders.map fun s => { s with woken := true } }

/-- The calls that end when the connection does, apart from those that wait for room in the
window. -/
def pendingCalls (d : Desk) : List CallId :=
  d.activator.toList ++ d.starter.toList ++ d.waiting.map (·.call) ++ d.watchers

/-- Close the connection. -/
def close (d : Desk) (cause : Fault) : Desk :=
  { d.wake with
    closed := some cause
    activator := none
    starter := none
    expectations := []
    waiting := []
    watchers := []
    events := d.events ++ [.closed cause]
    returns := d.returns ++ d.pendingCalls.map fun call => (call, .failed cause) }

/-- Send a unit. -/
def send (d : Desk) (octets : Octets) : Desk := { d with units := d.units ++ [octets] }

/-- Expect the confirmation of a command. -/
def expect (d : Desk) (asdu : Asdu) : Desk :=
  { d with
    nextTicket := d.nextTicket + 1
    expectations := d.expectations ++ [.ofAsdu d.nextTicket asdu] }

/-- Expect the confirmation of a command no longer. -/
def forget (d : Desk) (ticket? : Option Nat) : Desk :=
  { d with expectations := d.expectations.filter fun e => ticket? != some e.ticket }

/-- A call fails. -/
def giveUp (d : Desk) (call : CallId) (ticket? : Option Nat) (cause : Fault) : Desk :=
  (d.forget ticket?).answer call (.failed cause)

/-- The unit of a call was sent: it returns, or waits for the confirmation until a deadline. -/
def afterSending (d : Desk) (deadline : Nat) (s : Sender) : Desk :=
  match s.ticket?, s.confirmation? with
  | none, _ => d.answer s.call .done
  | some _, some confirmation => d.answer s.call (.confirmed confirmation)
  | some ticket, none => { d with waiting := d.waiting ++ [⟨s.call, ticket, deadline⟩] }

/-- Hand a confirmation to the call that expects it. -/
def confirm (d : Desk) (ticket : Nat) (confirmation : Asdu) : Desk :=
  match d.waiting.find? fun a => a.ticket == ticket with
  | some a =>
    ({ d with waiting := d.waiting.filter fun b => b.ticket != ticket }).answer a.call
      (.confirmed confirmation)
  | none =>
    { d with senders := d.senders.map fun s =>
        if s.ticket? = some ticket then { s with confirmation? := some confirmation } else s }

/-- Hand a received unit to the first command that it confirms, or else to the listener. -/
def handOver (d : Desk) (asdu : Asdu) : Desk :=
  match d.expectations.find? fun e => e.isMetBy asdu with
  | some e =>
    { d with expectations := d.expectations.filter fun f => f.ticket != e.ticket }.confirm
      e.ticket asdu
  | none => d.post (.asdu asdu)

/-- What the attempt to send the unit of a call can do. -/
inductive Attempt (d : Desk) (s : Sender) : Desk → Prop
  /-- The call fails, because the connection is closed or data transfer is stopped. -/
  | fails (cause : Fault) : d.closed = some cause ∨ d.closed = none ∧ cause = .notStarted →
      Attempt d s (d.giveUp s.call s.ticket? cause)
  /-- The call waits for room in the window. -/
  | waits : d.closed = none →
      Attempt d s { d with senders := d.senders ++ [{ s with woken := false }] }
  | sends (deadline : Nat) : d.closed = none →
      Attempt d s ((d.send s.octets).afterSending deadline s)

/-- What a call that is to send a unit can do. -/
inductive Submission (d : Desk) (call : CallId) (ticket? : Option Nat) (asdu : Asdu) :
    Desk → Prop
  /-- The unit does not fit a frame. -/
  | unfit (cause : Fault) : d.format.frameOctets asdu = .error cause →
      Submission d call ticket? asdu (d.giveUp call ticket? cause)
  /-- The call attempts to send the unit. -/
  | fits {d'} (octets : Octets) : d.format.frameOctets asdu = .ok octets →
      Attempt d { call := call, octets := octets, ticket? := ticket? } d' →
      Submission d call ticket? asdu d'

/-- What a step can do to a desk, in which a received unit may be accepted. -/
inductive Move (d : Desk) : LinkInput → Option Asdu → Desk → Prop
  /-- Nothing of it shows. -/
  | idle {input} : input.caller? = none → Move d input none d
  /-- No call that could look again is meant. -/
  | sleeps {call} : (∀ s ∈ d.senders, s.call = call → s.woken = false) →
      Move d (.resume call) none d
  | closes {input} (cause : Fault) : input.caller? = none → d.closed = none →
      Move d input none (d.close cause)
  /-- A call that is made returns at once. -/
  | answers {call request} (reply : Reply) : request.unit? = none → reply.unit? = none →
      (∀ cause, d.closed = some cause → reply = .failed cause) →
      Move d (.call call request) none (d.answer call reply)
  /-- A call that is made finds that the other station has asked for the start. -/
  | starts {call request} : request.unit? = none → d.closed = none →
      Move d (.call call request) none ((d.post (.stateChanged .started)).answer call .done)
  /-- A call that is made waits for the confirmation of an activation. -/
  | activates {call request} : request.unit? = none → d.closed = none → d.activator = none →
      Move d (.call call request) none { d with activator := some call }
  /-- A call that is made waits for the other station to start data transfer. -/
  | awaits {call request} : request.unit? = none → d.closed = none → d.starter = none →
      Move d (.call call request) none { d with starter := some call }
  /-- A call that is made waits for the end of the connection. -/
  | watches {call request} : request.unit? = none → d.closed = none →
      Move d (.call call request) none { d with watchers := d.watchers ++ [call] }
  | sends {call asdu d'} : d.Submission call none asdu d' →
      Move d (.call call (.send asdu)) none d'
  | commands {call asdu d'} : (d.expect asdu).Submission call (some d.nextTicket) asdu d' →
      Move d (.call call (.sendConfirmed asdu)) none d'
  /-- A call that waits for room in the window looks again. -/
  | resumes {s d'} : s ∈ d.senders → s.woken = true →
      Attempt { d with senders := d.senders.filter fun other => other.call != s.call } s d' →
      Move d (.resume s.call) none d'
  | expires {a} : a ∈ d.waiting →
      Move d (.expire a.call) none
        ({ d with waiting := d.waiting.filter fun b => b.call != a.call }.giveUp a.call
          (some a.ticket) .responseTimeout)
  /-- Frames are acknowledged. -/
  | wakes {apdu} : d.closed = none → Move d (.frame apdu) none d.wake
  /-- Data transfer is started by the other station while a call waits for it. -/
  | startsWaiter {apdu call} : d.closed = none → d.starter = some call →
      Move d (.frame apdu) none
        (({ d with starter := none }.post (.stateChanged .started)).answer call .done)
  | confirmsStart {apdu call} : d.closed = none → d.activator = some call →
      Move d (.frame apdu) none
        (({ d with activator := none }.post (.stateChanged .started)).answer call .done)
  | stops {apdu} : d.closed = none →
      Move d (.frame apdu) none (d.wake.post (.stateChanged .stopped))
  | confirmsStop {apdu call} : d.closed = none → d.activator = some call →
      Move d (.frame apdu) none
        (({ d with activator := none }.wake.post (.stateChanged .stopped)).answer call .done)
  /-- A unit is accepted, and frames may be acknowledged with it. -/
  | hands {apdu d₁} (asdu : Asdu) : d.closed = none → d₁ = d ∨ d₁ = d.wake →
      Move d (.frame apdu) (some asdu) (d₁.handOver asdu)

theorem Attempt.sameEvents {d d' : Desk} {s : Sender} (h : d.Attempt s d') :
    d'.closed = d.closed ∧ d'.events = d.events := by
  cases h with
  | fails | waits => exact ⟨rfl, rfl⟩
  | sends =>
    unfold afterSending
    split <;> exact ⟨rfl, rfl⟩

theorem Submission.sameEvents {d d' : Desk} {call : CallId} {ticket? : Option Nat} {asdu : Asdu}
    (h : d.Submission call ticket? asdu d') : d'.closed = d.closed ∧ d'.events = d.events := by
  cases h with
  | unfit => exact ⟨rfl, rfl⟩
  | fits _ _ hattempt => exact hattempt.sameEvents

end Desk

/-! ### The desk after each operation of a link -/

namespace Link

@[simp] theorem desk_finish (l : Link) (call : CallId) (reply : Reply) :
    (l.finish call reply).desk = l.desk.answer call reply := by
  simp [desk, format, finish, emit, Desk.answer, Effect.unit?, Effect.event?, Effect.return?]

theorem desk_finishAll (l : Link) (calls : List CallId) (reply : Reply) :
    (l.finishAll calls reply).desk =
      { l.desk with returns := l.desk.returns ++ calls.map fun call => (call, reply) } := by
  unfold finishAll
  induction calls generalizing l with
  | nil => simp
  | cons call calls ih =>
    rw [List.foldl_cons, ih, desk_finish]
    simp [Desk.answer]

@[simp] theorem desk_report (l : Link) (event : LinkEvent) :
    (l.report event).desk = l.desk.post event := by
  simp [desk, format, report, emit, Desk.post, Effect.unit?, Effect.event?, Effect.return?]

@[simp] theorem desk_register (l : Link) (listener : ListenerId) :
    (l.emit (.notify (.register listener))).desk = l.desk := by
  simp [desk, format, emit, Effect.unit?, Effect.event?, Effect.return?]

@[simp] theorem desk_wakeSenders (l : Link) : l.wakeSenders.desk = l.desk.wake := rfl

@[simp] theorem desk_superviseOldest (l : Link) : l.superviseOldest.desk = l.desk := rfl

theorem desk_transmit (l : Link) (now : Nat) (apdu : Apdu) :
    (l.transmit now apdu).desk =
      if apdu.control.isInformation then l.desk.send apdu.asdu else l.desk := by
  unfold transmit
  simp only
  split <;> split <;>
    simp_all [desk, format, emit, Desk.send, Effect.unit?, Effect.event?, Effect.return?]

@[simp] theorem desk_transmit_unnumbered (l : Link) (now : Nat) (function : LinkFunction) :
    (l.transmit now (.unnumbered function)).desk = l.desk := desk_transmit l now _

@[simp] theorem desk_sendInformation (l : Link) (now : Nat) (octets : Octets) :
    (l.sendInformation now octets).desk = l.desk.send octets := by
  simp only [sendInformation, desk_superviseOldest, desk_transmit]
  rfl

@[simp] theorem desk_sendSupervisory (l : Link) (now : Nat) :
    (l.sendSupervisory now).desk = l.desk := by
  simp only [sendSupervisory, desk_transmit]
  rfl

@[simp] theorem desk_enterStarted (l : Link) (now : Nat) :
    (l.enterStarted now).desk = l.desk.post (.stateChanged .started) := by
  simp only [enterStarted, desk_report]
  rfl

@[simp] theorem desk_enterStopped (l : Link) :
    l.enterStopped.desk = l.desk.wake.post (.stateChanged .stopped) := by
  simp only [enterStopped, desk_report, desk_wakeSenders]
  rfl

@[simp] theorem desk_confirmStart (l : Link) (now : Nat) :
    (l.confirmStart now).desk = l.desk.post (.stateChanged .started) := by
  simp only [confirmStart, desk_enterStarted, desk_transmit_unnumbered]

theorem desk_close {l : Link} (h : l.closed = none) (cause : Fault) :
    (l.close cause).desk = l.desk.close cause := by
  have hpending : l.pendingCalls = l.desk.pendingCalls := by
    simp [pendingCalls, Desk.pendingCalls, desk, Option.toList_map]
  simp only [close, h, Option.isSome_none, Bool.false_eq_true, if_false, desk_wakeSenders,
    desk_report, desk_finishAll, hpending]
  rfl

@[simp] theorem desk_giveUp (l : Link) (call : CallId) (ticket? : Option Nat) (cause : Fault) :
    (l.giveUp call ticket? cause).desk = l.desk.giveUp call ticket? cause := by
  simp only [giveUp, desk_finish]
  rfl

theorem desk_afterSending (l : Link) (now : Nat) (s : Sender) :
    (l.afterSending now s).desk =
      l.desk.afterSending (now + l.settings.responseTimeout) s := by
  cases hticket : s.ticket? with
  | none => simp only [afterSending, Desk.afterSending, hticket, desk_finish]
  | some ticket =>
    cases hconfirmation : s.confirmation? with
    | none =>
      simp only [afterSending, Desk.afterSending, hticket, hconfirmation]
      rfl
    | some confirmation =>
      simp only [afterSending, Desk.afterSending, hticket, hconfirmation, desk_finish]

theorem desk_confirm (l : Link) (ticket : Nat) (confirmation : Asdu) :
    (l.confirm ticket confirmation).desk = l.desk.confirm ticket confirmation := by
  have hdesk : l.desk.waiting = l.waiting := rfl
  cases hfind : l.waiting.find? fun a => a.ticket == ticket with
  | none =>
    simp only [confirm, Desk.confirm, hdesk, hfind]
    rfl
  | some a =>
    simp only [confirm, Desk.confirm, hdesk, hfind, desk_finish]
    rfl

@[simp] theorem desk_handOver (l : Link) (asdu : Asdu) :
    (l.handOver asdu).desk = l.desk.handOver asdu := by
  have hdesk : l.desk.expectations = l.expectations := rfl
  cases hfind : l.expectations.find? fun e => e.isMetBy asdu with
  | none => simp only [handOver, Desk.handOver, hdesk, hfind, desk_report]
  | some e =>
    simp only [handOver, Desk.handOver, hdesk, hfind, desk_confirm]
    rfl

/-! ### What happens at the station itself -/

theorem handshake_eq_none {l : Link} (h : l.handshakeFault? = none) :
    l.desk.closed = none ∧ l.desk.activator = none :=
  (handshakeFault?_eq_none_iff.mp h).imp_right Option.map_eq_none_iff.mpr

variable (l : Link) (now : Nat) (call : CallId)

theorem desk_beginHandshake (function : LinkFunction) (deadline? : Option Nat) :
    (l.beginHandshake now call function deadline?).desk =
      { l.desk with activator := some call } := by
  unfold beginHandshake
  simp only
  split <;> simp only [desk_superviseOldest, desk_transmit_unnumbered] <;> rfl

/-- A call that cannot begin a handshake fails at once. -/
theorem desk_finish_of_fault {cause : Fault} {request : Request}
    (h : l.handshakeFault? = some cause) (hrequest : request.unit? = none) :
    l.desk.Move (.call call request) none (l.finish call (.failed cause)).desk := by
  rw [desk_finish]
  refine .answers _ hrequest rfl fun closing hclosed => ?_
  have hclosed : l.closed = some closing := hclosed
  simp only [handshakeFault?, hclosed, Option.some.injEq] at h
  rw [h]

theorem desk_finish_of_open {request : Request} (hclosed : l.closed = none)
    (hrequest : request.unit? = none) (reply : Reply) (hreply : reply.unit? = none) :
    l.desk.Move (.call call request) none (l.finish call reply).desk := by
  rw [desk_finish]
  exact .answers _ hrequest hreply fun _ h => nomatch hclosed.symm.trans h

theorem desk_start (listener : ListenerId) (timeout : Nat) :
    l.desk.Move (.call call (.start listener timeout)) none
      (l.start now call listener timeout).desk := by
  unfold start
  split
  · next h => exact desk_finish_of_fault l call h rfl
  · next h =>
    obtain ⟨hclosed, hactivator⟩ := handshake_eq_none h
    simp only
    rw [← desk_register l listener]
    split
    · exact desk_finish_of_open (l.emit _) call hclosed rfl _ rfl
    · rw [desk_beginHandshake, desk_register]
      exact .activates rfl hclosed hactivator

theorem desk_awaitStart (listener : ListenerId) (timeout : Nat) :
    l.desk.Move (.call call (.awaitStart listener timeout)) none
      (l.awaitStart now call listener timeout).desk := by
  unfold awaitStart
  split
  · next h => exact desk_finish_of_fault l call h rfl
  · next h =>
    obtain ⟨hclosed, -⟩ := handshake_eq_none h
    split
    · exact desk_finish_of_open _ call hclosed rfl _ rfl
    · next hstarter =>
      simp only
      rw [← desk_register l listener]
      split
      · exact desk_finish_of_open (l.emit _) call hclosed rfl _ rfl
      · split
        · rw [desk_finish, desk_confirmStart]
          exact .starts rfl hclosed
        · have hstarter : (l.emit (.notify (.register listener))).desk.starter = none := by
            rw [desk_register]
            simpa [desk] using hstarter
          exact @Desk.Move.awaits _ call (.awaitStart listener timeout) rfl hclosed hstarter

theorem desk_stop : l.desk.Move (.call call .stop) none (l.stop now call).desk := by
  unfold stop
  split
  · next h => exact desk_finish_of_fault l call h rfl
  · next h =>
    obtain ⟨hclosed, hactivator⟩ := handshake_eq_none h
    split
    · exact desk_finish_of_open _ call hclosed rfl _ rfl
    · rw [desk_beginHandshake]
      exact .activates rfl hclosed hactivator

theorem desk_attempt (s : Sender) : l.desk.Attempt s (l.attempt now s).desk := by
  unfold attempt
  split
  · next hclosed =>
    rw [desk_giveUp]
    exact .fails _ (.inl hclosed)
  · next hclosed =>
    split
    · rw [desk_giveUp]
      exact .fails _ (.inr ⟨hclosed, rfl⟩)
    · split
      · exact .waits hclosed
      · rw [desk_afterSending, desk_sendInformation]
        exact .sends _ hclosed

theorem desk_sendUnit (ticket? : Option Nat) (asdu : Asdu) :
    l.desk.Submission call ticket? asdu (l.sendUnit now call ticket? asdu).desk := by
  have hformat : l.desk.format = l.format := rfl
  cases hencode : l.format.encode asdu with
  | error cause =>
    simp only [sendUnit, hencode, desk_giveUp]
    exact .unfit cause (by simp only [hformat, AsduFormat.frameOctets, hencode])
  | ok octets =>
    simp only [sendUnit, hencode]
    split
    · next hlong =>
      rw [desk_giveUp]
      exact .unfit _ (by simp only [hformat, AsduFormat.frameOctets, hencode, if_pos hlong])
    · next hfits =>
      exact .fits octets (by simp only [hformat, AsduFormat.frameOctets, hencode, if_neg hfits])
        (desk_attempt _ _ _)

theorem desk_handleCall (request : Request) :
    l.desk.Move (.call call request) none (l.handleCall now call request).desk := by
  cases request with
  | start listener timeout => exact desk_start ..
  | awaitStart listener timeout => exact desk_awaitStart ..
  | stop => exact desk_stop ..
  | send asdu => exact .sends (desk_sendUnit ..)
  | sendConfirmed asdu =>
    exact .commands (desk_sendUnit
      { l with
        nextTicket := l.nextTicket + 1
        expectations := l.expectations ++ [Expectation.ofAsdu l.nextTicket asdu] } ..)
  | awaitClose =>
    simp only [handleCall, awaitClose]
    split
    · next cause hclosed =>
      rw [desk_finish]
      refine .answers _ rfl rfl fun closing hclosing => ?_
      rw [Option.some.inj (hclosed.symm.trans hclosing)]
    · next hclosed => exact .watches rfl hclosed

theorem desk_resume : l.desk.Move (.resume call) none (l.resume now call).desk := by
  unfold resume
  split
  · next s hfind =>
    have hs := List.find?_some hfind
    obtain ⟨hcall, hwoken⟩ : s.call = call ∧ s.woken = true := by simpa using hs
    subst hcall
    exact .resumes (List.mem_of_find?_eq_some hfind) hwoken
      (desk_attempt { l with senders := l.senders.filter fun other => other.call != s.call } now s)
  · next hfind =>
    refine .sleeps fun s hs hcall => ?_
    have hnot := List.find?_eq_none.mp hfind s hs
    simpa [hcall] using hnot

theorem desk_closing {input : LinkInput} (hinput : input.caller? = none) (cause : Fault) :
    l.desk.Move input none (l.close cause).desk := by
  by_cases hclosed : l.closed = none
  · rw [desk_close hclosed]
    exact .closes cause hinput hclosed
  · rw [close_of_closed hclosed]
    exact .idle hinput

theorem desk_expire : l.desk.Move (.expire call) none (l.expire now call).desk := by
  unfold expire
  split
  · exact desk_closing _ rfl _
  · split
    · next a hfind =>
      have ha := List.find?_some hfind
      obtain ⟨hcall, -⟩ : a.call = call ∧ a.deadline ≤ now := by simpa using ha
      subst hcall
      rw [desk_giveUp]
      exact .expires (List.mem_of_find?_eq_some hfind)
    · exact .idle rfl

/-- Expired timers close the connection, or nothing of them shows. -/
theorem desk_handleExpired (hclosed : l.closed = none) (expired : List Timer) :
    (l.handleExpired now expired).desk = l.desk ∨
      ∃ cause, (l.handleExpired now expired).desk = l.desk.close cause := by
  induction expired generalizing l with
  | nil => exact .inl rfl
  | cons timer rest ih =>
    have hrest : ∀ m : Link, m.desk = l.desk →
        (m.handleExpired now rest).desk = l.desk ∨
          ∃ cause, (m.handleExpired now rest).desk = l.desk.close cause := by
      intro m hm
      rw [← hm]
      exact ih m ((congrArg Desk.closed hm).trans hclosed)
    cases timer with
    | t1 => exact .inr ⟨_, desk_close hclosed _⟩
    | t2 =>
      refine hrest _ ?_
      split
      · exact desk_sendSupervisory l now
      · rfl
    | t3 =>
      refine hrest _ ?_
      split
      · rw [desk_superviseOldest, desk_transmit_unnumbered]
        rfl
      · rfl

theorem desk_handleTimers : l.desk.Move .timers none (l.handleTimers now).desk := by
  unfold handleTimers
  split
  · exact .idle rfl
  · next hclosed =>
    have hclosed : l.closed = none := by simpa using hclosed
    simp only
    rcases desk_handleExpired { l with timers := (l.timers.takeExpired now).2 } now hclosed
      (l.timers.takeExpired now).1 with hdesk | ⟨cause, hdesk⟩
    · rw [hdesk]
      exact .idle rfl
    · rw [hdesk]
      exact .closes cause rfl hclosed

end Link

/-! ### Frames of the other station -/

/-- The unit that is handed over: that of a received information frame that is accepted and can
be read. -/
def Link.unit? (l : Link) : LinkInput → Option Asdu
  | .frame apdu =>
    (l.endpoint.accepts? apdu).bind fun octets => (l.format.decode octets).toOption
  | _ => none

theorem AsduFormat.toOption_decode_nil (f : AsduFormat) : (f.decode []).toOption = none := by
  have hshort : ([] : Octets).length < f.headerLength := by
    rw [headerLength, List.length_nil]
    omega
  unfold decode
  simp only
  rw [if_pos hshort]
  rfl

theorem Desk.close_wake (d : Desk) (cause : Fault) : d.wake.close cause = d.close cause := by
  simp [close, wake, pendingCalls]

namespace Link

variable {l : Link}

section Unit

variable {send number : UInt16} {octets? : Option Octets} {released : Nat}
  {window accepted : Window} {due : Bool} {cause : Fault}

theorem unit?_of_not_information {apdu : Apdu} (h : apdu.control.isInformation = false) :
    l.unit? (.frame apdu) = none := by
  rcases l.endpoint.accepts?_eq_or apdu with hnone | ⟨-, hinformation, -⟩
  · rw [unit?, hnone]
    rfl
  · cases hinformation.symm.trans h

theorem unit?_of_stopped (h : l.state = .stopped) (apdu : Apdu) :
    l.unit? (.frame apdu) = none := by
  have hstate : l.endpoint.state = .stopped := h
  simp [unit?, Endpoint.accepts?, hstate]

theorem unit?_of_refused (h : l.window.acknowledge number = .error cause) :
    l.unit? (.frame ⟨.information send number, octets?⟩) = none := by
  have hack : l.endpoint.window.acknowledge number = .error cause := h
  simp [unit?, Endpoint.accepts?, hack]

theorem unit?_of_number_refused (h : l.window.acknowledge number = .ok (released, window))
    (haccept : window.accept send = .error cause) :
    l.unit? (.frame ⟨.information send number, octets?⟩) = none := by
  have hack : l.endpoint.window.acknowledge number = .ok (released, window) := h
  simp [unit?, Endpoint.accepts?, hack, haccept, Except.toOption]

theorem unit?_of_accepted (hclosed : l.closed = none) (hstate : l.state = .started)
    (h : l.window.acknowledge number = .ok (released, window))
    (haccept : window.accept send = .ok (due, accepted)) :
    l.unit? (.frame ⟨.information send number, octets?⟩) =
      (l.format.decode (octets?.getD [])).toOption := by
  have hclosed : l.endpoint.closed = none := hclosed
  have hstate : l.endpoint.state = .started := hstate
  have hack : l.endpoint.window.acknowledge number = .ok (released, window) := h
  simp [unit?, Endpoint.accepts?, hclosed, hstate, hack, haccept, Except.toOption, Apdu.asdu]

end Unit

variable (now : Nat)

theorem desk_applyAcknowledgment {l' : Link} {number : UInt16}
    (h : l.applyAcknowledgment number = .ok l') : l'.desk = l.desk ∨ l'.desk = l.desk.wake := by
  rcases hack : l.window.acknowledge number with cause | ⟨released, window⟩
  · rw [applyAcknowledgment_eq_error hack] at h
    cases h
  · simp only [applyAcknowledgment, hack] at h
    cases h
    by_cases hreleased : released = 0
    · exact .inl (by simp only [hreleased, if_true]; rfl)
    · exact .inr (by simp only [hreleased, if_false]; rfl)

theorem desk_handleSupervisory (hclosed : l.closed = none) (receive : UInt16)
    (octets? : Option Octets) :
    l.desk.Move (.frame ⟨.supervisory receive, octets?⟩) none
      (l.handleSupervisory receive).desk := by
  unfold handleSupervisory
  split
  · exact desk_closing _ rfl _
  · split
    · exact desk_closing _ rfl _
    · next h =>
      rcases desk_applyAcknowledgment h with hdesk | hdesk <;> rw [hdesk]
      · exact .idle rfl
      · exact .wakes hclosed

theorem desk_handleInformation (hclosed : l.closed = none) (send receive : UInt16)
    (octets? : Option Octets) :
    l.desk.Move (.frame ⟨.information send receive, octets?⟩)
      (l.unit? (.frame ⟨.information send receive, octets?⟩))
      (l.handleInformation now send receive octets?).desk := by
  unfold handleInformation
  split
  · next hstate =>
    rw [unit?_of_stopped hstate]
    exact desk_closing _ rfl _
  · next hstate =>
    have hstate : l.state = .started := LinkState.eq_started_of_ne hstate
    rcases hack : l.window.acknowledge receive with cause | ⟨released, window⟩
    · rw [unit?_of_refused hack, applyAcknowledgment_eq_error hack]
      exact desk_closing _ rfl _
    · obtain ⟨l', happly, rfl, hclosed', hendpoint⟩ := applyAcknowledgment_eq_ok hack
      rw [hclosed] at hclosed'
      have hdesk := desk_applyAcknowledgment happly
      have hformat : l'.format = l.format := congrArg Endpoint.format hendpoint
      rw [happly]
      simp only
      -- A link that closes has woken the calls already.
      have hcloses : ∀ {m : Link} (cause : Fault), m.desk = l'.desk →
          l.desk.Move (.frame ⟨.information send receive, octets?⟩) none (m.close cause).desk := by
        intro m cause hm
        rw [desk_close ((congrArg Desk.closed hm).trans hclosed'), hm]
        rcases hdesk with hdesk | hdesk <;> rw [hdesk]
        · exact .closes cause rfl hclosed
        · rw [Desk.close_wake]
          exact .closes cause rfl hclosed
      rcases haccept : l'.window.accept send with cause | ⟨due, accepted⟩
      · rw [unit?_of_number_refused hack haccept]
        exact hcloses cause rfl
      · rw [unit?_of_accepted hclosed hstate hack haccept]
        cases octets? with
        | none =>
          rw [Option.getD_none, AsduFormat.toOption_decode_nil]
          exact hcloses _ rfl
        | some octets =>
          simp only [Option.getD_some]
          rw [show ({ l' with window := accepted } : Link).format.decode octets =
            l.format.decode octets from congrArg (AsduFormat.decode · octets) hformat]
          rcases l.format.decode octets with cause | asdu
          · exact hcloses cause rfl
          · have hwith : ({ l' with window := accepted } : Link).desk = l'.desk := rfl
            cases due with
            | true =>
              simp only [if_true, desk_handOver, desk_sendSupervisory, hwith]
              exact .hands asdu hclosed hdesk
            | false =>
              simp only [Bool.false_eq_true, if_false, desk_handOver]
              exact .hands asdu hclosed hdesk

theorem desk_handleUnnumbered (hclosed : l.closed = none) (function : LinkFunction)
    (octets? : Option Octets) :
    l.desk.Move (.frame ⟨.unnumbered function, octets?⟩) none
      (l.handleUnnumbered now function).desk := by
  cases function with
  | testAct =>
    simp only [handleUnnumbered, desk_transmit_unnumbered]
    exact .idle rfl
  | testCon =>
    simp only [handleUnnumbered]
    split
    · exact .idle rfl
    · exact desk_closing _ rfl _
  | startAct =>
    simp only [handleUnnumbered]
    split
    · rw [desk_transmit_unnumbered]
      exact .idle rfl
    · split
      · next waiter hwaiter =>
        have hstarter : l.desk.starter = some waiter.call := by simp [desk, hwaiter]
        rw [desk_finish, desk_confirmStart]
        exact .startsWaiter hclosed hstarter
      · exact .idle rfl
  | startCon =>
    simp only [handleUnnumbered]
    split
    · next h hhandshake =>
      have hactivator : l.desk.activator = some h.call := by simp [desk, hhandshake]
      split
      · rw [desk_finish, desk_enterStarted]
        exact .confirmsStart hclosed hactivator
      · exact desk_closing _ rfl _
    · exact desk_closing _ rfl _
  | stopAct =>
    simp only [handleUnnumbered]
    -- What is owed is acknowledged before the state is looked at.
    generalize howed : (if 0 < l.window.unacknowledged then l.sendSupervisory now else l) = owed
    have hdesk : owed.desk = l.desk := by
      rw [← howed]
      split
      · exact desk_sendSupervisory l now
      · rfl
    split
    · rw [desk_enterStopped, desk_transmit_unnumbered, hdesk]
      exact .stops hclosed
    · rw [desk_transmit_unnumbered, hdesk]
      exact .idle rfl
  | stopCon =>
    simp only [handleUnnumbered]
    split
    · next h hhandshake =>
      have hactivator : l.desk.activator = some h.call := by simp [desk, hhandshake]
      split
      · rw [desk_finish, desk_superviseOldest, desk_enterStopped]
        exact .confirmsStop hclosed hactivator
      · exact desk_closing _ rfl _
    · exact desk_closing _ rfl _

@[simp] theorem desk_rearmIdle (l : Link) (now : Nat) : (l.rearmIdle now).desk = l.desk := by
  unfold rearmIdle
  split <;> rfl

theorem desk_handleFrame (apdu : Apdu) :
    l.desk.Move (.frame apdu) (l.unit? (.frame apdu)) (l.handleFrame now apdu).desk := by
  obtain ⟨control, octets?⟩ := apdu
  by_cases hclosed : l.closed = none
  · have hunit : (l.rearmIdle now).unit? = l.unit? := by
      unfold rearmIdle
      split <;> rfl
    rw [handleFrame_of_open now hclosed, ← desk_rearmIdle l now, ← hunit]
    have hclosed : (l.rearmIdle now).closed = none := by simp [hclosed]
    cases control with
    | information send receive => exact desk_handleInformation now hclosed send receive octets?
    | supervisory receive =>
      rw [unit?_of_not_information rfl]
      exact desk_handleSupervisory hclosed receive octets?
    | unnumbered function =>
      rw [unit?_of_not_information rfl]
      exact desk_handleUnnumbered now hclosed function octets?
  · have hunit : l.unit? (.frame ⟨control, octets?⟩) = none := by
      have hclosed : l.endpoint.closed ≠ none := hclosed
      simp [unit?, Endpoint.accepts?, hclosed]
    rw [hunit, handleFrame_of_closed now hclosed]
    exact .idle rfl

/-- Whatever happens to a link changes its desk in one of the ways listed. -/
theorem desk_step (l : Link) (now : Nat) (input : LinkInput) :
    l.desk.Move input (l.unit? input) (l.step now input).desk := by
  cases input with
  | call call request => exact desk_handleCall ..
  | resume call => exact desk_resume ..
  | expire call => exact desk_expire ..
  | timers => exact desk_handleTimers ..
  | frame apdu => exact desk_handleFrame ..
  | lost cause => exact desk_closing _ rfl _
  | close => exact desk_closing _ rfl _

end Link

end Telecontrol
