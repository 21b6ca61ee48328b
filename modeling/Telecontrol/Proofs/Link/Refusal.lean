import Telecontrol.Command
import Telecontrol.Proofs.Link.Stopped

/-!
# Calls that are refused at once

Some calls fail in the step in which they are made: their unit does not fit a frame, data transfer
is stopped or the connection closed, an activation is not yet confirmed, or another call waits for
the other station to start data transfer. `Link.refusal?` says which calls these are and why they
fail. Nothing of the link changes then, except that the number of a command is used up
(`Link.handleCall_of_refusal`); no other call fails when it is made (`Link.spares_handleCall`).

A unit that does not fit a frame is refused in every state. So the units of the calls that wait for
room in the window fit a frame (`Desk.Bounded`), and every frame that a link sends can be written
(`Link.encode_sent`).
-/

namespace Telecontrol

theorem AsduFormat.length_frameOctets {f : AsduFormat} {asdu : Asdu} {octets : Octets}
    (h : f.frameOctets asdu = .ok octets) : octets.length ≤ maxAsduLength := by
  unfold frameOctets at h
  split at h
  · cases h
  · split at h
    · cases h
    · next hfits =>
      cases h
      exact Nat.not_lt.mp hfits

namespace Link

/-! ### Which calls are refused -/

/-- Why a unit is neither sent now nor waits for room in the window. -/
def unsent? (l : Link) (asdu : Asdu) : Option Fault :=
  match l.format.frameOctets asdu with
  | .error cause => some cause
  | .ok _ => l.closed.or (if l.state = .stopped then some .notStarted else none)

/-- Why a call is refused at once, if it is. -/
def refusal? (l : Link) : Request → Option Fault
  | .start .. | .stop => l.handshakeFault?
  | .awaitStart .. =>
    l.handshakeFault?.or
      (if l.startWaiter.isSome then some (.protocolState .alreadyWaiting) else none)
  | .send asdu | .sendConfirmed asdu => l.unsent? asdu
  | .awaitClose => l.closed

variable {l m : Link} {now : Nat} {call : CallId} {ticket? : Option Nat} {request : Request}
  {asdu : Asdu} {cause : Fault}

/-- A unit that does not fit a frame is refused, whatever the state of the link is. -/
theorem refusal?_of_unfit (hrequest : request.unit? = some asdu)
    (h : l.format.frameOctets asdu = .error cause) : l.refusal? request = some cause := by
  cases request with
  | send | sendConfirmed =>
    cases hrequest
    rw [refusal?, unsent?, h]
  | start | awaitStart | stop | awaitClose => cases hrequest

theorem sendUnit_eq (l : Link) (now : Nat) (call : CallId) (ticket? : Option Nat) (asdu : Asdu) :
    l.sendUnit now call ticket? asdu =
      match l.format.frameOctets asdu with
      | .error cause => l.giveUp call ticket? cause
      | .ok octets => l.attempt now { call := call, octets := octets, ticket? := ticket? } := by
  unfold sendUnit
  cases hencode : l.format.encode asdu with
  | error cause => simp only [AsduFormat.frameOctets, hencode]
  | ok octets =>
    simp only [AsduFormat.frameOctets, hencode]
    split <;> rfl

/-! ### What a refused call leaves -/

theorem sendUnit_of_unsent? (h : l.unsent? asdu = some cause) :
    l.sendUnit now call ticket? asdu = l.giveUp call ticket? cause := by
  rw [sendUnit_eq]
  unfold unsent? at h
  split at h
  · exact congrArg _ (Option.some.inj h)
  · simp only [attempt]
    cases hclosed : l.closed with
    | some closing =>
      rw [hclosed, Option.some_or] at h
      exact congrArg (l.giveUp call ticket?) (Option.some.inj h)
    | none =>
      rw [hclosed, Option.none_or] at h
      split at h
      · next hstopped =>
        simp only [if_pos hstopped]
        exact congrArg (l.giveUp call ticket?) (Option.some.inj h)
      · cases h

theorem forget_none (l : Link) : l.forget none = l := by
  have hall : (l.expectations.filter fun e => (none : Option Nat) != some e.ticket) =
      l.expectations := List.filter_eq_self.mpr fun _ _ => rfl
  rw [forget, hall]

/-- To expect a confirmation and then no longer uses up a number, and changes nothing else. -/
theorem forget_expected (h : ∀ e ∈ l.expectations, e.ticket < l.nextTicket) (asdu : Asdu) :
    ({ l with
      nextTicket := l.nextTicket + 1
      expectations := l.expectations ++ [.ofAsdu l.nextTicket asdu] } : Link).forget
        (some l.nextTicket) = { l with nextTicket := l.nextTicket + 1 } := by
  have holder : (l.expectations.filter fun e => some l.nextTicket != some e.ticket) =
      l.expectations := by
    refine List.filter_eq_self.mpr fun e he => bne_iff_ne.mpr fun heq => ?_
    exact (h e he).ne' (Option.some.inj heq)
  simp [forget, List.filter_append, holder, Expectation.ofAsdu]

/-- A call that is refused returns, and uses up the number of its command, if it is to send one. -/
theorem handleCall_of_refusal (hnumbers : ∀ e ∈ l.expectations, e.ticket < l.nextTicket)
    (h : l.refusal? request = some cause) (now : Nat) (call : CallId) :
    ∃ ticket, l.handleCall now call request =
      { l with nextTicket := ticket, log := l.log ++ [.finish call (.failed cause)] } := by
  cases request with
  | start listener timeout =>
    have h : l.handshakeFault? = some cause := h
    exact ⟨l.nextTicket, by simp only [handleCall, start, h, finish, emit]⟩
  | awaitStart listener timeout =>
    refine ⟨l.nextTicket, ?_⟩
    simp only [handleCall, awaitStart]
    rw [refusal?] at h
    cases hfault : l.handshakeFault? with
    | some fault =>
      rw [hfault] at h
      cases h
      rfl
    | none =>
      rw [hfault, Option.none_or] at h
      split at h
      · next hwaits =>
        cases h
        exact if_pos hwaits
      · cases h
  | stop =>
    have h : l.handshakeFault? = some cause := h
    exact ⟨l.nextTicket, by simp only [handleCall, stop, h, finish, emit]⟩
  | send asdu =>
    refine ⟨l.nextTicket, ?_⟩
    rw [handleCall, sendUnit_of_unsent? h, giveUp, forget_none]
    rfl
  | sendConfirmed asdu =>
    refine ⟨l.nextTicket + 1, ?_⟩
    rw [handleCall, sendCommand, sendUnit_of_unsent? (by exact h), giveUp, forget_expected hnumbers]
    rfl
  | awaitClose =>
    have h : l.closed = some cause := h
    exact ⟨l.nextTicket, by simp only [handleCall, awaitClose, h, finish, emit]⟩

/-! ### What other calls do when they are made -/

/-- What one link has done and another not lets no call fail. -/
def Spares (l m : Link) : Prop :=
  ∃ added, m.log = l.log ++ added ∧ ∀ call cause, Effect.finish call (.failed cause) ∉ added

theorem Spares.refl (l : Link) : l.Spares l := ⟨[], (List.append_nil _).symm, fun _ _ => nofun⟩

theorem Spares.emit (h : l.Spares m) {effect : Effect}
    (heffect : ∀ call cause, effect ≠ .finish call (.failed cause)) : l.Spares (m.emit effect) := by
  obtain ⟨added, hlog, hadded⟩ := h
  refine ⟨added ++ [effect], by rw [Link.emit, hlog, List.append_assoc], fun call cause hmem => ?_⟩
  rcases List.mem_append.mp hmem with hmem | hmem
  · exact hadded call cause hmem
  · exact heffect call cause (List.mem_singleton.mp hmem).symm

theorem Spares.done (h : l.Spares m) (call : CallId) : l.Spares (m.finish call .done) :=
  h.emit nofun

theorem Spares.transmit (h : l.Spares m) (now : Nat) (apdu : Apdu) :
    l.Spares (m.transmit now apdu) := by
  have hsent : l.Spares (m.emit (.transmit apdu)) := h.emit nofun
  obtain ⟨added, hlog, hadded⟩ := hsent
  exact ⟨added, (log_transmit ..).trans hlog, hadded⟩

theorem Spares.sendInformation (h : l.Spares m) (now : Nat) (octets : Octets) :
    l.Spares (m.sendInformation now octets) := by
  obtain ⟨added, hlog, hadded⟩ :=
    h.transmit now (.information m.window.send m.window.receive octets)
  exact ⟨added, (log_transmit ..).trans (by rw [← hlog, log_transmit]), hadded⟩

theorem Spares.confirmStart (h : l.Spares m) (now : Nat) : l.Spares (m.confirmStart now) := by
  have hreported :
      l.Spares ((m.transmit now (.unnumbered .startCon)).report (.stateChanged .started)) :=
    (h.transmit now (.unnumbered .startCon)).emit nofun
  exact hreported

theorem Spares.beginHandshake (h : l.Spares m) (now : Nat) (call : CallId)
    (function : LinkFunction) (deadline? : Option Nat) :
    l.Spares (m.beginHandshake now call function deadline?) := by
  have hsent : l.Spares
      ({ m with handshake := some ⟨function, now, call, deadline?⟩ }.transmit now
        (.unnumbered function)) := Spares.transmit (by exact h) ..
  unfold Link.beginHandshake
  simp only
  split <;> exact hsent

theorem spares_sendUnit (h : l.unsent? asdu = none) :
    l.Spares (l.sendUnit now call ticket? asdu) := by
  rw [sendUnit_eq]
  unfold unsent? at h
  split at h
  · cases h
  · next octets _ =>
    obtain ⟨hclosed, hstarted⟩ := Option.or_eq_none_iff.mp h
    have hstarted : ¬l.state = .stopped := fun hstopped => by
      rw [if_pos hstopped] at hstarted
      cases hstarted
    simp only [attempt, hclosed, if_neg hstarted]
    split
    · exact Spares.refl l
    · have hsent := (Spares.refl l).sendInformation now octets
      cases ticket? with
      | none => exact hsent.done call
      | some ticket => exact hsent

/-- A call that is not refused does not fail when it is made. -/
theorem spares_handleCall (h : l.refusal? request = none) (now : Nat) (call : CallId) :
    l.Spares (l.handleCall now call request) := by
  have hregister (listener : ListenerId) : l.Spares (l.emit (.notify (.register listener))) :=
    (Spares.refl l).emit nofun
  cases request with
  | start listener timeout =>
    have h : l.handshakeFault? = none := h
    simp only [handleCall, start, h]
    split
    · exact (hregister listener).done call
    · exact (hregister listener).beginHandshake ..
  | awaitStart listener timeout =>
    obtain ⟨hfault, hwaits⟩ := Option.or_eq_none_iff.mp h
    have hwaits : ¬l.startWaiter.isSome := fun hsome => by
      rw [if_pos hsome] at hwaits
      cases hwaits
    simp only [handleCall, awaitStart, hfault, if_neg hwaits]
    split
    · exact (hregister listener).done call
    · split
      · exact (Spares.confirmStart (by exact hregister listener) now).done call
      · exact hregister listener
  | stop =>
    have h : l.handshakeFault? = none := h
    simp only [handleCall, stop, h]
    split
    · exact (Spares.refl l).done call
    · exact (Spares.refl l).beginHandshake ..
  | send asdu => exact spares_sendUnit h
  | sendConfirmed asdu =>
    exact spares_sendUnit
      (l := { l with
        nextTicket := l.nextTicket + 1
        expectations := l.expectations ++ [.ofAsdu l.nextTicket asdu] }) h
  | awaitClose =>
    have h : l.closed = none := h
    simp only [handleCall, awaitClose, h]
    exact Spares.refl l

/-- A call fails when it is made exactly if it is refused, and no other call does then. -/
theorem failed_handleCall_iff (hnumbers : ∀ e ∈ l.expectations, e.ticket < l.nextTicket)
    (now : Nat) (call : CallId) (request : Request) :
    ∃ added, (l.handleCall now call request).log = l.log ++ added ∧ ∀ other cause,
      .finish other (.failed cause) ∈ added ↔ other = call ∧ l.refusal? request = some cause := by
  cases hrefusal : l.refusal? request with
  | none =>
    obtain ⟨added, hlog, hadded⟩ := spares_handleCall hrefusal now call
    refine ⟨added, hlog, fun other cause => ⟨fun hmem => (hadded other cause hmem).elim, ?_⟩⟩
    rintro ⟨-, ⟨⟩⟩
  | some fault =>
    obtain ⟨ticket, hleaves⟩ := handleCall_of_refusal hnumbers hrefusal now call
    refine ⟨[.finish call (.failed fault)], by rw [hleaves], fun other cause => ?_⟩
    simp [eq_comm]

end Link

/-! ### What waits and what is sent fits a frame -/

namespace Desk

/-- The units sent and those that wait for room in the window fit a frame, and no command has the
number of the next one. -/
structure Bounded (d : Desk) : Prop where
  numbers : ∀ e ∈ d.expectations, e.ticket < d.nextTicket
  senders : ∀ s ∈ d.senders, s.octets.length ≤ maxAsduLength
  units : ∀ octets ∈ d.units, octets.length ≤ maxAsduLength

namespace Bounded

variable {d d' : Desk}

theorem answer (h : d.Bounded) (call : CallId) (reply : Reply) : (d.answer call reply).Bounded :=
  ⟨h.numbers, h.senders, h.units⟩

theorem post (h : d.Bounded) (event : LinkEvent) : (d.post event).Bounded :=
  ⟨h.numbers, h.senders, h.units⟩

theorem wake (h : d.Bounded) : d.wake.Bounded where
  numbers := h.numbers
  senders := List.forall_mem_map.mpr h.senders
  units := h.units

theorem close (h : d.Bounded) (cause : Fault) : (d.close cause).Bounded where
  numbers := nofun
  senders := h.wake.senders
  units := h.units

theorem expect (h : d.Bounded) (asdu : Asdu) : (d.expect asdu).Bounded where
  numbers e he := by
    rcases List.mem_append.mp he with he | he
    · exact Nat.lt_succ_of_lt (h.numbers e he)
    · rw [List.mem_singleton.mp he]
      exact Nat.lt_succ_self _
  senders := h.senders
  units := h.units

theorem giveUp (h : d.Bounded) (call : CallId) (ticket? : Option Nat) (cause : Fault) :
    (d.giveUp call ticket? cause).Bounded where
  numbers e he := h.numbers e (List.mem_of_mem_filter he)
  senders := h.senders
  units := h.units

theorem attempt {s : Sender} (h : d.Bounded) (hs : s.octets.length ≤ maxAsduLength)
    (hattempt : d.Attempt s d') : d'.Bounded := by
  cases hattempt with
  | fails cause => exact h.giveUp ..
  | waits =>
    refine ⟨h.numbers, fun other hother => ?_, h.units⟩
    rcases List.mem_append.mp hother with hother | hother
    · exact h.senders other hother
    · rw [List.mem_singleton.mp hother]
      exact hs
  | sends deadline =>
    have hsent : (d.send s.octets).Bounded := by
      refine ⟨h.numbers, h.senders, fun octets hoctets => ?_⟩
      rcases List.mem_append.mp hoctets with hoctets | hoctets
      · exact h.units octets hoctets
      · rwa [List.mem_singleton.mp hoctets]
    unfold afterSending
    split
    · exact hsent.answer ..
    · exact hsent.answer ..
    · exact ⟨hsent.numbers, hsent.senders, hsent.units⟩

theorem submission {call : CallId} {ticket? : Option Nat} {asdu : Asdu} (h : d.Bounded)
    (hsubmission : d.Submission call ticket? asdu d') : d'.Bounded := by
  cases hsubmission with
  | unfit cause => exact h.giveUp ..
  | fits octets hfits hattempt => exact h.attempt (AsduFormat.length_frameOctets hfits) hattempt

theorem handOver (h : d.Bounded) (asdu : Asdu) : (d.handOver asdu).Bounded := by
  unfold Desk.handOver confirm
  split
  · have hleft {e : Expectation} :
        ∀ f ∈ d.expectations.filter fun f => f.ticket != e.ticket, f.ticket < d.nextTicket :=
      fun f hf => h.numbers f (List.mem_of_mem_filter hf)
    split
    · exact ⟨hleft, h.senders, h.units⟩
    · refine ⟨hleft, List.forall_mem_map.mpr fun s hs => ?_, h.units⟩
      split <;> exact h.senders s hs
  · exact h.post _

/-- Who else waits does not matter. -/
theorem seat (h : d.Bounded) {senders : List Sender} (hsenders : senders ⊆ d.senders)
    (activator starter : Option CallId) (waiting : List Waiting) (watchers : List CallId) :
    ({ d with activator, starter, senders, waiting, watchers } : Desk).Bounded :=
  ⟨h.numbers, fun s hs => h.senders s (hsenders hs), h.units⟩

theorem move {input : LinkInput} {unit? : Option Asdu} (h : d.Bounded)
    (hmove : d.Move input unit? d') : d'.Bounded := by
  cases hmove with
  | idle | sleeps => exact h
  | closes cause => exact h.close cause
  | answers reply => exact h.answer ..
  | starts => exact (h.post _).answer ..
  | activates | awaits | watches => exact h.seat (List.Subset.refl _) ..
  | sends hsubmission => exact h.submission hsubmission
  | commands hsubmission => exact (h.expect _).submission hsubmission
  | resumes hs _ hattempt =>
    exact (h.seat (List.filter_subset_self _) _ _ _ _).attempt (h.senders _ hs) hattempt
  | expires => exact (h.seat (List.Subset.refl _) _ _ _ _).giveUp ..
  | wakes => exact h.wake
  | startsWaiter | confirmsStart =>
    exact ((h.seat (List.Subset.refl _) _ _ _ _).post _).answer ..
  | stops => exact h.wake.post _
  | confirmsStop => exact ((h.seat (List.Subset.refl _) _ _ _ _).wake.post _).answer ..
  | hands asdu _ hd₁ =>
    rcases hd₁ with rfl | rfl
    · exact h.handOver asdu
    · exact h.wake.handOver asdu

end Bounded

end Desk

namespace Endpoint

variable {e e' : Endpoint} {now : Nat} {input : LinkInput} {apdu : Apdu}

/-- Only information frames have a unit. -/
def Bare (e : Endpoint) : Prop :=
  ∀ sent ∈ e.frames, sent.control.isInformation = false → sent.asdu = []

theorem Bare.transmit (h : e.Bare) (hsent : apdu.control.isInformation = false → apdu.asdu = []) :
    (e.transmit apdu).Bare := by
  intro sent hmem
  rcases List.mem_append.mp hmem with hmem | hmem
  · exact h sent hmem
  · rwa [List.mem_singleton.mp hmem]

theorem Bare.sendSupervisory (h : e.Bare) : e.sendSupervisory.Bare :=
  Bare.transmit (by exact h) fun _ => rfl

theorem Act.bare (hact : e.Act now input e') (h : e.Bare) : e'.Bare := by
  cases hact with
  | silent | closes => exact h
  | sends => exact Bare.transmit (by exact h) nofun
  | asksStart | asksStop | confirmsStart => exact Bare.transmit (by exact h) fun _ => rfl
  | @passes owed _ _ howed htested =>
    have howed : owed.Bare := by
      cases howed with
      | waits | lapses => exact h
      | acknowledges => exact h.sendSupervisory
    cases htested with
    | waits => exact howed
    | tests => exact Bare.transmit (by exact howed) fun _ => rfl

theorem Receive.bare (hreceive : e.Receive apdu e') (h : e.Bare) : e'.Bare := by
  cases hreceive with
  | informationDue => exact Bare.sendSupervisory (by exact h)
  | test | startedAlready | startedByOther => exact Bare.transmit (by exact h) fun _ => rfl
  | @stoppedByOther _ owed _ howed | @stoppedAlready _ owed _ howed =>
    have howed : owed.Bare := by
      rw [howed]
      split
      · exact h.sendSupervisory
      · exact h
    exact howed.transmit fun _ => rfl
  | _ => exact h

end Endpoint

/-- A frame can be written if its unit fits and is that of an information frame. -/
theorem Apdu.exists_encode {apdu : Apdu} (hfits : apdu.asdu.length ≤ maxAsduLength)
    (hcontrol : apdu.control.isInformation = false → apdu.asdu = []) :
    ∃ octets, apdu.encode = .ok octets := by
  have hrefused : ¬(0 < apdu.asdu.length ∧ !apdu.control.isInformation) := by
    rintro ⟨hpos, hother⟩
    rw [hcontrol (by simpa using hother)] at hpos
    cases hpos
  rw [encode, Control.header, if_neg (Nat.not_lt.mpr hfits), if_neg hrefused]
  exact ⟨_, rfl⟩

namespace Link

theorem bounded_run {l : Link} (h : l.desk.Bounded) (inputs : List (Nat × LinkInput)) :
    (l.run inputs).desk.Bounded := by
  induction inputs generalizing l with
  | nil => exact h
  | cons input inputs ih => exact ih (h.move (l.desk_step input.1 input.2))

theorem bare_run {l : Link} (h : l.endpoint.Bare) (inputs : List (Nat × LinkInput)) :
    (l.run inputs).endpoint.Bare := by
  induction inputs generalizing l with
  | nil => exact h
  | cons input inputs ih =>
    rw [run_cons]
    refine ih ?_
    rcases l.step_cases input.1 input.2 with ⟨-, hact⟩ | ⟨apdu, -, -, hreceive⟩ | ⟨apdu, -, -, heq⟩
    · exact hact.bare h
    · exact hreceive.bare h
    · rwa [heq]

theorem bounded_new (settings : Settings) (extension : Option Extension) :
    (new settings extension).desk.Bounded :=
  ⟨List.forall_mem_nil _, List.forall_mem_nil _, List.forall_mem_nil _⟩

/-- Every frame that a link sends can be written. -/
theorem encode_sent (settings : Settings) (extension : Option Extension)
    (inputs : List (Nat × LinkInput)) {apdu : Apdu}
    (h : .transmit apdu ∈ ((new settings extension).run inputs).log) :
    ∃ octets, apdu.encode = .ok octets := by
  have hbare := bare_run (l := new settings extension) (List.forall_mem_nil _) inputs apdu
    (List.mem_filterMap.mpr ⟨_, h, rfl⟩)
  refine Apdu.exists_encode ?_ hbare
  cases hcontrol : apdu.control.isInformation with
  | false =>
    rw [hbare hcontrol]
    exact Nat.zero_le _
  | true =>
    refine (bounded_run (bounded_new settings extension) inputs).units _ ?_
    exact List.mem_filterMap.mpr ⟨_, h, if_pos hcontrol⟩

/-- Whatever has happened to a link, a call fails when it is made exactly if it is refused; then
nothing changes but the number of the next command, and nothing is done but to let the call return:
no frame is sent and no listener registered. A unit that cannot be written, or is too long for a
frame, is refused for that reason in every state, and every frame that is sent can be written. -/
theorem refused_call_changes_nothing (settings : Settings) (extension : Option Extension)
    (inputs : List (Nat × LinkInput)) (now : Nat) (call : CallId) (request : Request) :
    let l := (new settings extension).run inputs
    let l' := l.step now (.call call request)
    (∃ added, l'.log = l.log ++ added ∧ ∀ other cause,
        .finish other (.failed cause) ∈ added ↔
          other = call ∧ l.refusal? request = some cause) ∧
      (∀ cause, l.refusal? request = some cause → ∃ ticket, l' =
        { l with nextTicket := ticket, log := l.log ++ [.finish call (.failed cause)] }) ∧
      (∀ asdu, request.unit? = some asdu →
        (∀ cause, l.format.encode asdu = .error cause → l.refusal? request = some cause) ∧
          ∀ octets, l.format.encode asdu = .ok octets → maxAsduLength < octets.length →
            l.refusal? request = some (.framing (.asduTooLong octets.length))) ∧
      ∀ apdu, .transmit apdu ∈ l'.log → ∃ octets, apdu.encode = .ok octets := by
  intro l l'
  have hnumbers := (bounded_run (bounded_new settings extension) inputs).numbers
  refine ⟨failed_handleCall_iff hnumbers now call request,
    fun cause hrefusal => handleCall_of_refusal hnumbers hrefusal now call,
    fun asdu hasdu => ⟨fun cause hcause => ?_, ?_⟩, fun apdu happdu => ?_⟩
  · exact refusal?_of_unfit hasdu (by rw [AsduFormat.frameOctets, hcause])
  · intro octets hoctets hlong
    exact refusal?_of_unfit hasdu (by simp only [AsduFormat.frameOctets, hoctets, if_pos hlong])
  · refine encode_sent settings extension (inputs ++ [(now, .call call request)]) ?_
    rwa [run_append]

/-- A command is sent and not yet confirmed. -/
def commandSent : List (Nat × LinkInput) :=
  [(0, .call 0 (.start 0 9)), (1, .frame (.unnumbered .startCon)),
    (2, .call 1 (.sendConfirmed ((Command.interrogation 20).asdu 0 1)))]

/-- A command for an address that has no three octets is refused; the confirmation of the other one
is still expected. -/
theorem unfit_command_refused :
    let l := (new {} none).run commandSent
    let l' := l.step 3 (.call 2 (.sendConfirmed ((Command.single 16777216 true {}).asdu 0 1)))
    l.expectations.length = 1 ∧ ∃ ticket, l' = { l with
      nextTicket := ticket
      log := l.log ++ [.finish 2 (.failed (.invalidAsdu (.objectAddressRange 16777216 3)))] } :=
  ⟨rfl, (refused_call_changes_nothing {} none commandSent 3 2 _).2.1 _ rfl⟩

end Link

end Telecontrol
