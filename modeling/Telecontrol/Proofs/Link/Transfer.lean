import Telecontrol.Proofs.Link.Journal
import Telecontrol.Proofs.Link.Teardown

/-!
# The start and the end of data transfer

What asks for the start or the end of data transfer, and what is reported of it, is a small part
of a link, its `Transfer`: the state, the activation that is not yet confirmed, the call that
waits for the other station, and the states reported. Each of them changes only in one of a few
ways (`Transfer.Move`); `Link.transfer_step` says so of everything that can happen to a link. An
activation of an open link is confirmed whatever the state is (`Link.transfer_confirmed`), and
one is sent whether a call waits for the other station or not (`Link.transfer_start`).

`Transfer.Sound` is what every move preserves: above all, the state that was reported last is
the state.
-/

namespace Telecontrol

/-- The activation that asks for a state of data transfer. -/
def LinkState.activation : LinkState → LinkFunction
  | stopped => .stopAct
  | started => .startAct

/-- The state that an event reports, if it reports one. -/
def LinkEvent.change? : LinkEvent → Option LinkState
  | stateChanged state => some state
  | _ => none

/-- The states of data transfer that a link has reported, oldest first. -/
def Link.changes (l : Link) : List LinkState :=
  (l.log.filterMap Effect.event?).filterMap LinkEvent.change?

/-- The part of a link on which the start and the end of data transfer depend. -/
structure Transfer where
  state : LinkState
  closed : Option Fault
  handshake : Option Handshake
  startWaiter : Option StartWaiter
  /-- The states reported, oldest first. -/
  changes : List LinkState

/-- The transfer of a link. -/
def Link.transfer (l : Link) : Transfer where
  state := l.state
  closed := l.closed
  handshake := l.handshake
  startWaiter := l.startWaiter
  changes := l.changes

namespace Transfer

/-- Enter a state of data transfer, and report it. -/
def enter (t : Transfer) (state : LinkState) : Transfer :=
  { t with state := state, changes := t.changes ++ [state] }

/-- Close the connection. -/
def close (t : Transfer) (cause : Fault) : Transfer :=
  { t with closed := some cause, handshake := none, startWaiter := none }

/-- What a step can do to the start and the end of data transfer. -/
inductive Move (t : Transfer) (now : Nat) : LinkInput → Transfer → Prop
  | stays {input} : Move t now input t
  | closes {input} (cause : Fault) : t.closed = none → Move t now input (t.close cause)
  | asksStart {call listener timeout} : t.closed = none → t.state = .stopped →
      t.handshake = none →
      Move t now (.call call (.start listener timeout))
        { t with handshake := some ⟨.startAct, now, call, some (now + timeout)⟩ }
  | asksStop {call} : t.closed = none → t.state = .started → t.handshake = none →
      Move t now (.call call .stop) { t with handshake := some ⟨.stopAct, now, call, none⟩ }
  /-- A call waits for the other station to start data transfer. -/
  | awaitsStart {call listener timeout} : t.closed = none → t.state = .stopped →
      t.handshake = none → t.startWaiter = none →
      Move t now (.call call (.awaitStart listener timeout))
        { t with startWaiter := some ⟨call, now + timeout⟩ }
  /-- The other station had asked for the start of data transfer before a call waited for it. -/
  | grantsStart {call listener timeout} : t.closed = none → t.state = .stopped →
      t.handshake = none → t.startWaiter = none →
      Move t now (.call call (.awaitStart listener timeout)) (t.enter .started)
  /-- The other station asks for the start of data transfer for which a call waits. -/
  | startedByOther {apdu waiter} : t.closed = none → t.state = .stopped →
      t.startWaiter = some waiter →
      Move t now (.frame apdu) ({ t with startWaiter := none }.enter .started)
  /-- The other station asks for the end of data transfer. -/
  | stoppedByOther {apdu} : t.closed = none → t.state = .started →
      Move t now (.frame apdu) (t.enter .stopped)
  /-- The other station confirms an activation. -/
  | confirmed {input handshake} (goal : LinkState) : t.closed = none →
      t.handshake = some handshake → handshake.function = goal.activation →
      input.confirms goal.activation = true →
      Move t now input ({ t with handshake := none }.enter goal)

/-- The state that was reported last is the state; a closed connection waits for nothing; and only
an activation that starts data transfer has a deadline. -/
structure Sound (t : Transfer) : Prop where
  reported : t.changes.getLastD .stopped = t.state
  closed : t.closed ≠ none → t.handshake = none ∧ t.startWaiter = none
  deadline : ∀ h, t.handshake = some h → h.function = .startAct ∨ h.deadline? = none

variable {t t' : Transfer} {now : Nat} {input : LinkInput}

theorem Sound.enter (h : t.Sound) (state : LinkState) : (t.enter state).Sound :=
  ⟨List.getLastD_concat, h.closed, h.deadline⟩

/-- While the connection is open, it may wait for something else. -/
theorem Sound.awaits (h : t.Sound) (hopen : t.closed = none) {handshake : Option Handshake}
    {startWaiter : Option StartWaiter}
    (hdeadline : ∀ h, handshake = some h → h.function = .startAct ∨ h.deadline? = none) :
    Sound { t with handshake := handshake, startWaiter := startWaiter } :=
  ⟨h.reported, fun hclosed => absurd hopen hclosed, hdeadline⟩

theorem Move.of_eq (h : t' = t) : t.Move now input t' := by
  rw [h]
  exact .stays

theorem Move.sound (hmove : t.Move now input t') (h : t.Sound) : t'.Sound := by
  cases hmove with
  | stays => exact h
  | closes =>
    refine ⟨h.reported, fun _ => ⟨rfl, rfl⟩, fun handshake hhandshake => ?_⟩
    cases hhandshake
  | asksStart hopen =>
    refine h.awaits hopen fun handshake hhandshake => .inl ?_
    cases hhandshake
    rfl
  | asksStop hopen =>
    refine h.awaits hopen fun handshake hhandshake => .inr ?_
    cases hhandshake
    rfl
  | awaitsStart hopen => exact h.awaits hopen h.deadline
  | grantsStart | stoppedByOther => exact h.enter _
  | startedByOther hopen => exact (h.awaits hopen h.deadline).enter _
  | confirmed goal hopen =>
    refine Sound.enter (h.awaits hopen fun handshake hhandshake => ?_) goal
    cases hhandshake

/-- A connection that is open was open before. -/
theorem Move.open_before (hmove : t.Move now input t') (hopen : t'.closed = none) :
    t.closed = none := by
  cases hmove with
  | closes => cases hopen
  | _ => exact hopen

end Transfer

/-! ### The transfer after each operation of a link -/

namespace Link

theorem transfer_emit (l : Link) {effect : Effect} (h : effect.event? = none) :
    (l.emit effect).transfer = l.transfer := by
  simp [transfer, changes, emit, h]

@[simp] theorem transfer_finish (l : Link) (call : CallId) (reply : Reply) :
    (l.finish call reply).transfer = l.transfer := transfer_emit l rfl

@[simp] theorem transfer_finishAll (l : Link) (calls : List CallId) (reply : Reply) :
    (l.finishAll calls reply).transfer = l.transfer := by
  unfold finishAll
  induction calls generalizing l with
  | nil => rfl
  | cons call calls ih => rw [List.foldl_cons, ih, transfer_finish]

@[simp] theorem transfer_register (l : Link) (listener : ListenerId) :
    (l.emit (.notify (.register listener))).transfer = l.transfer := transfer_emit l rfl

theorem transfer_report (l : Link) (event : LinkEvent) :
    (l.report event).transfer =
      { l.transfer with changes := l.transfer.changes ++ event.change?.toList } := by
  cases event <;> simp [transfer, changes, report, emit, Effect.event?, LinkEvent.change?]

@[simp] theorem transfer_wakeSenders (l : Link) : l.wakeSenders.transfer = l.transfer := rfl

@[simp] theorem transfer_superviseOldest (l : Link) :
    l.superviseOldest.transfer = l.transfer := rfl

@[simp] theorem transfer_giveUp (l : Link) (call : CallId) (ticket? : Option Nat)
    (cause : Fault) : (l.giveUp call ticket? cause).transfer = l.transfer := by
  rw [giveUp, transfer_finish]
  rfl

@[simp] theorem transfer_afterSending (l : Link) (now : Nat) (s : Sender) :
    (l.afterSending now s).transfer = l.transfer := by
  unfold afterSending
  split
  · exact transfer_finish ..
  · exact transfer_finish ..
  · rfl

@[simp] theorem transfer_confirm (l : Link) (ticket : Nat) (confirmation : Asdu) :
    (l.confirm ticket confirmation).transfer = l.transfer := by
  unfold confirm
  split
  · exact transfer_finish ..
  · rfl

@[simp] theorem transfer_handOver (l : Link) (asdu : Asdu) :
    (l.handOver asdu).transfer = l.transfer := by
  unfold handOver
  split
  · exact transfer_confirm ..
  · rw [transfer_report]
    exact congrArg (fun changes => { l.transfer with changes := changes }) (List.append_nil _)

@[simp] theorem transfer_transmit (l : Link) (now : Nat) (apdu : Apdu) :
    (l.transmit now apdu).transfer = l.transfer := by
  unfold transmit
  simp only
  split <;> exact transfer_emit l rfl

@[simp] theorem transfer_sendInformation (l : Link) (now : Nat) (octets : Octets) :
    (l.sendInformation now octets).transfer = l.transfer := by
  simp only [sendInformation, transfer_superviseOldest, transfer_transmit]
  rfl

@[simp] theorem transfer_sendSupervisory (l : Link) (now : Nat) :
    (l.sendSupervisory now).transfer = l.transfer := by
  simp only [sendSupervisory, transfer_transmit]
  rfl

@[simp] theorem transfer_enterStarted (l : Link) (now : Nat) :
    (l.enterStarted now).transfer = l.transfer.enter .started := by
  simp only [enterStarted, transfer_report]
  rfl

@[simp] theorem transfer_enterStopped (l : Link) :
    l.enterStopped.transfer = l.transfer.enter .stopped := by
  simp only [enterStopped, transfer_report]
  rfl

@[simp] theorem transfer_confirmStart (l : Link) (now : Nat) :
    (l.confirmStart now).transfer = l.transfer.enter .started := by
  simp only [confirmStart, transfer_enterStarted, transfer_transmit]

theorem transfer_close {l : Link} (h : l.closed = none) (cause : Fault) :
    (l.close cause).transfer = l.transfer.close cause := by
  simp only [close, h, Option.isSome_none, Bool.false_eq_true, if_false, transfer_wakeSenders,
    transfer_report, transfer_finishAll, LinkEvent.change?, Option.toList_none, List.append_nil]
  rfl

/-! ### One step -/

variable {l : Link} {now : Nat} {input : LinkInput}

theorem transfer_closing (l : Link) (now : Nat) (input : LinkInput) (cause : Fault) :
    l.transfer.Move now input (l.close cause).transfer := by
  by_cases h : l.closed = none
  · rw [transfer_close h]
    exact .closes cause h
  · rw [close_of_closed h]
    exact .stays

@[simp] theorem transfer_beginHandshake (l : Link) (now : Nat) (call : CallId)
    (function : LinkFunction) (deadline? : Option Nat) :
    (l.beginHandshake now call function deadline?).transfer =
      { l.transfer with handshake := some ⟨function, now, call, deadline?⟩ } := by
  unfold beginHandshake
  simp only
  split
  · rw [transfer_superviseOldest, transfer_transmit]
    rfl
  · rw [transfer_transmit]
    rfl

/-- The start of data transfer is asked for unless an activation is not yet confirmed, whether a
call waits for the other station to start it or not. -/
theorem transfer_start (hopen : l.closed = none) (hstate : l.state = .stopped)
    (hhandshake : l.handshake = none) (call : CallId) (listener : ListenerId) (timeout : Nat) :
    (l.start now call listener timeout).transfer =
      { l.transfer with handshake := some ⟨.startAct, now, call, some (now + timeout)⟩ } := by
  unfold start
  simp only [handshakeFault?_eq_none_iff.mpr ⟨hopen, hhandshake⟩]
  rw [if_neg (by simp [emit, hstate]), transfer_beginHandshake, transfer_register]

theorem move_start (call : CallId) (listener : ListenerId) (timeout : Nat) :
    l.transfer.Move now (.call call (.start listener timeout))
      (l.start now call listener timeout).transfer := by
  cases hfault : l.handshakeFault? with
  | some cause =>
    simp only [start, hfault, transfer_finish]
    exact .stays
  | none =>
    obtain ⟨hopen, hhandshake⟩ := handshakeFault?_eq_none_iff.mp hfault
    by_cases hstate : l.state = .started
    · simp only [start, hfault]
      rw [if_pos (by exact hstate), transfer_finish, transfer_register]
      exact .stays
    · have hstate : l.state = .stopped := LinkState.eq_stopped_of_ne hstate
      rw [transfer_start hopen hstate hhandshake]
      exact .asksStart hopen hstate hhandshake

theorem move_awaitStart (call : CallId) (listener : ListenerId) (timeout : Nat) :
    l.transfer.Move now (.call call (.awaitStart listener timeout))
      (l.awaitStart now call listener timeout).transfer := by
  unfold awaitStart
  split
  · exact .of_eq (transfer_finish ..)
  · next hfault =>
    obtain ⟨hopen, hhandshake⟩ := handshakeFault?_eq_none_iff.mp hfault
    split
    · exact .of_eq (transfer_finish ..)
    · next hwaiter =>
      have hwaiter : l.startWaiter = none := by simpa using hwaiter
      rw [← transfer_register l listener]
      simp only
      split
      · exact .of_eq (transfer_finish ..)
      · next hstate =>
        have hstate : l.state = .stopped := LinkState.eq_stopped_of_ne hstate
        split
        · rw [transfer_finish, transfer_confirmStart]
          exact .grantsStart hopen hstate hhandshake hwaiter
        · exact .awaitsStart hopen hstate hhandshake hwaiter

theorem move_stop (call : CallId) :
    l.transfer.Move now (.call call .stop) (l.stop now call).transfer := by
  unfold stop
  split
  · exact .of_eq (transfer_finish ..)
  · next hfault =>
    obtain ⟨hopen, hhandshake⟩ := handshakeFault?_eq_none_iff.mp hfault
    split
    · exact .of_eq (transfer_finish ..)
    · next hstate =>
      rw [transfer_beginHandshake]
      exact .asksStop hopen (LinkState.eq_started_of_ne hstate) hhandshake

@[simp] theorem transfer_attempt (l : Link) (now : Nat) (s : Sender) :
    (l.attempt now s).transfer = l.transfer := by
  unfold attempt
  split
  · exact transfer_giveUp ..
  · split
    · exact transfer_giveUp ..
    · split
      · rfl
      · rw [transfer_afterSending, transfer_sendInformation]

@[simp] theorem transfer_sendUnit (l : Link) (now : Nat) (call : CallId) (ticket? : Option Nat)
    (asdu : Asdu) : (l.sendUnit now call ticket? asdu).transfer = l.transfer := by
  unfold sendUnit
  split
  · exact transfer_giveUp ..
  · split
    · exact transfer_giveUp ..
    · exact transfer_attempt ..

theorem move_handleCall (call : CallId) (request : Request) :
    l.transfer.Move now (.call call request) (l.handleCall now call request).transfer := by
  cases request with
  | start => exact move_start ..
  | awaitStart => exact move_awaitStart ..
  | stop => exact move_stop ..
  | send | sendConfirmed => exact .of_eq (transfer_sendUnit ..)
  | awaitClose =>
    simp only [handleCall, awaitClose]
    split
    · exact .of_eq (transfer_finish ..)
    · exact .stays

@[simp] theorem transfer_resume (l : Link) (now : Nat) (call : CallId) :
    (l.resume now call).transfer = l.transfer := by
  unfold resume
  split
  · exact transfer_attempt ..
  · rfl

theorem move_expire (call : CallId) : l.transfer.Move now input (l.expire now call).transfer := by
  unfold expire
  split
  · exact transfer_closing ..
  · split
    · exact .of_eq (transfer_giveUp ..)
    · exact .stays

theorem move_handleExpired (expired : List Timer) :
    l.transfer.Move now input (l.handleExpired now expired).transfer := by
  induction expired generalizing l with
  | nil => exact .stays
  | cons timer rest ih =>
    cases timer with
    | t1 => exact transfer_closing ..
    | t2 =>
      rw [handleExpired]
      split
      · rw [← transfer_sendSupervisory l now]
        exact ih
      · exact ih
    | t3 =>
      rw [handleExpired]
      split
      · have htested : (({ l with testSent := some now }.transmit now
            (.unnumbered .testAct)).superviseOldest).transfer = l.transfer := by
          rw [transfer_superviseOldest, transfer_transmit]
          rfl
        rw [← htested]
        exact ih
      · exact ih

theorem move_handleTimers : l.transfer.Move now input (l.handleTimers now).transfer := by
  unfold handleTimers
  split
  · exact .stays
  · exact move_handleExpired (l := { l with timers := (l.timers.takeExpired now).2 }) _

theorem transfer_applyAcknowledgment {number : UInt16} {l' : Link}
    (h : l.applyAcknowledgment number = .ok l') : l'.transfer = l.transfer := by
  unfold applyAcknowledgment at h
  cases hack : l.window.acknowledge number with
  | error cause =>
    rw [hack] at h
    cases h
  | ok released =>
    rw [hack] at h
    obtain rfl := Except.ok.inj h
    split <;> rfl

theorem move_handleSupervisory (receive : UInt16) :
    l.transfer.Move now input (l.handleSupervisory receive).transfer := by
  unfold handleSupervisory
  split
  · exact transfer_closing ..
  · split
    · exact transfer_closing ..
    · next hack => exact .of_eq (transfer_applyAcknowledgment hack)

theorem move_handleInformation (send receive : UInt16) (octets? : Option Octets) :
    l.transfer.Move now input (l.handleInformation now send receive octets?).transfer := by
  unfold handleInformation
  split
  · exact transfer_closing ..
  · split
    · exact transfer_closing ..
    · next l' hack =>
      rw [← transfer_applyAcknowledgment hack]
      split
      · exact transfer_closing ..
      · next due window _ =>
        have hwindow : ({ l' with window := window } : Link).transfer = l'.transfer := rfl
        rw [← hwindow]
        simp only
        split
        · exact transfer_closing ..
        · split
          · exact transfer_closing ..
          · split
            · rw [transfer_handOver, transfer_sendSupervisory]
              exact .stays
            · exact .of_eq (transfer_handOver ..)

/-- The confirmation of an activation is obeyed whatever the state of data transfer is. -/
theorem transfer_handleConfirmation {handshake : Handshake} {goal : LinkState}
    (hhandshake : l.handshake = some handshake) (hfunction : handshake.function = goal.activation) :
    (l.handleUnnumbered now goal.activation.confirmation).transfer =
      { l.transfer with handshake := none }.enter goal := by
  cases goal with
  | started =>
    have hfunction : handshake.function = .startAct := hfunction
    simp only [LinkState.activation, LinkFunction.confirmation, handleUnnumbered, hhandshake]
    rw [if_pos hfunction, transfer_finish, transfer_enterStarted]
    rfl
  | stopped =>
    have hfunction : handshake.function = .stopAct := hfunction
    simp only [LinkState.activation, LinkFunction.confirmation, handleUnnumbered, hhandshake]
    rw [if_pos hfunction, transfer_finish, transfer_superviseOldest, transfer_enterStopped]
    rfl

theorem move_handleUnnumbered (hopen : l.closed = none) {apdu : Apdu} {function : LinkFunction}
    (hcontrol : apdu.control = .unnumbered function) :
    l.transfer.Move now (.frame apdu) (l.handleUnnumbered now function).transfer := by
  have hconfirms (activation : LinkFunction) (hfunction : function = activation.confirmation) :
      (LinkInput.frame apdu).confirms activation = true := by
    simp [LinkInput.confirms, hcontrol, hfunction]
  cases function with
  | testAct => exact .of_eq (transfer_transmit ..)
  | testCon =>
    simp only [handleUnnumbered]
    split
    · exact .stays
    · exact transfer_closing ..
  | startAct =>
    simp only [handleUnnumbered]
    split
    · exact .of_eq (transfer_transmit ..)
    · next hstate =>
      have hstate : l.state = .stopped := LinkState.eq_stopped_of_ne hstate
      split
      · next hwaiter =>
        rw [transfer_finish, transfer_confirmStart]
        exact .startedByOther hopen hstate hwaiter
      · exact .stays
  | startCon =>
    simp only [handleUnnumbered]
    split
    · next handshake hhandshake =>
      split
      · next hfunction =>
        rw [transfer_finish, transfer_enterStarted]
        exact .confirmed .started hopen hhandshake hfunction (hconfirms _ rfl)
      · exact transfer_closing ..
    · exact transfer_closing ..
  | stopAct =>
    simp only [handleUnnumbered]
    generalize howed : (if 0 < l.window.unacknowledged then l.sendSupervisory now else l) = owed
    have htransfer : (owed.transmit now (.unnumbered .stopCon)).transfer = l.transfer := by
      rw [← howed, transfer_transmit]
      split
      · exact transfer_sendSupervisory ..
      · rfl
    split
    · next hstate =>
      have hstate : l.state = .started := (congrArg Transfer.state htransfer).symm.trans hstate
      rw [transfer_enterStopped, htransfer]
      exact .stoppedByOther hopen hstate
    · exact .of_eq htransfer
  | stopCon =>
    simp only [handleUnnumbered]
    split
    · next handshake hhandshake =>
      split
      · next hfunction =>
        rw [transfer_finish, transfer_superviseOldest, transfer_enterStopped]
        exact .confirmed .stopped hopen hhandshake hfunction (hconfirms _ rfl)
      · exact transfer_closing ..
    · exact transfer_closing ..

@[simp] theorem transfer_rearmIdle (l : Link) (now : Nat) :
    (l.rearmIdle now).transfer = l.transfer := by
  unfold rearmIdle
  split <;> rfl

theorem move_handleFrame (apdu : Apdu) :
    l.transfer.Move now (.frame apdu) (l.handleFrame now apdu).transfer := by
  by_cases hopen : l.closed = none
  · rw [handleFrame_of_open now hopen, ← transfer_rearmIdle l now]
    split
    · exact move_handleInformation ..
    · exact move_handleSupervisory ..
    · next hcontrol => exact move_handleUnnumbered (by simp [hopen]) hcontrol
  · exact .of_eq (congrArg Link.transfer (handleFrame_of_closed now hopen apdu))

/-- A step changes the transfer in one of the ways listed. -/
theorem transfer_step (l : Link) (now : Nat) (input : LinkInput) :
    l.transfer.Move now input (l.step now input).transfer := by
  cases input with
  | call => exact move_handleCall ..
  | resume => exact .of_eq (transfer_resume ..)
  | expire => exact move_expire ..
  | timers => exact move_handleTimers
  | frame => exact move_handleFrame ..
  | lost | close => exact transfer_closing ..

/-- The confirmation of an activation that is awaited is obeyed, whatever the state is. -/
theorem transfer_confirmed (hopen : l.closed = none) {handshake : Handshake} {goal : LinkState}
    (hhandshake : l.handshake = some handshake) (hfunction : handshake.function = goal.activation)
    (hconfirms : input.confirms goal.activation = true) :
    (l.step now input).transfer = { l.transfer with handshake := none }.enter goal := by
  obtain ⟨apdu, rfl, hcontrol⟩ := LinkInput.confirms_iff.mp hconfirms
  have hsame := transfer_rearmIdle l now
  have hhandshake : (l.rearmIdle now).handshake = some handshake :=
    (congrArg Transfer.handshake hsame).trans hhandshake
  rw [step, handleFrame_of_open now hopen, hcontrol]
  exact (transfer_handleConfirmation hhandshake hfunction).trans (by rw [hsame])

/-! ### Runs -/

theorem transfer_new (settings : Settings) (extension : Option Extension) :
    (new settings extension).transfer.Sound :=
  ⟨rfl, fun hclosed => absurd rfl hclosed, nofun⟩

theorem transfer_run (h : l.transfer.Sound) (inputs : List (Nat × LinkInput)) :
    (l.run inputs).transfer.Sound := by
  induction inputs generalizing l with
  | nil => exact h
  | cons input inputs ih => exact ih ((l.transfer_step input.1 input.2).sound h)

/-- At every step of a run, something holds of the link before the step, the instant, and what
happens. -/
def Throughout (P : Link → Nat → LinkInput → Prop) (l : Link) : List (Nat × LinkInput) → Prop
  | [] => True
  | input :: inputs =>
    P l input.1 input.2 ∧ (l.step input.1 input.2).Throughout P inputs

theorem throughout_concat {P : Link → Nat → LinkInput → Prop} (l : Link)
    (inputs : List (Nat × LinkInput)) (now : Nat) (input : LinkInput) :
    l.Throughout P (inputs ++ [(now, input)]) ↔
      l.Throughout P inputs ∧ P (l.run inputs) now input := by
  induction inputs generalizing l with
  | nil => simp [Throughout]
  | cons first inputs ih => simp only [List.cons_append, Throughout, ih, run_cons, and_assoc]

instance decidableThroughout {P : Link → Nat → LinkInput → Prop}
    [∀ l now input, Decidable (P l now input)] (l : Link) :
    (inputs : List (Nat × LinkInput)) → Decidable (l.Throughout P inputs)
  | [] => .isTrue trivial
  | input :: inputs =>
    have := decidableThroughout (P := P) (l.step input.1 input.2) inputs
    inferInstanceAs (Decidable (_ ∧ _))

end Link

end Telecontrol
