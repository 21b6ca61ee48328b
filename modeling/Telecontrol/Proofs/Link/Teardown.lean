import Telecontrol.Proofs.Link.Record

/-!
# The end of a connection

A connection is closed once, for one cause (`Link.teardown`). The calls that wait end with it,
those that wait for room in the window as soon as they look again; later calls fail for the same
cause. No frame is sent and no event reported any longer, and no timer is armed.
-/

namespace Telecontrol

/-- The unit that a call is to send, if any, fits a frame. -/
def Request.Fits (format : AsduFormat) (request : Request) : Prop :=
  ∀ asdu, request.unit? = some asdu →
    ∃ octets, format.encode asdu = .ok octets ∧ octets.length ≤ maxAsduLength

theorem Request.fits_of_unit?_eq_none {request : Request} (h : request.unit? = none)
    (format : AsduFormat) : request.Fits format := by
  intro asdu hasdu
  cases h.symm.trans hasdu

theorem AsduFormat.frameOctets_eq_ok {f : AsduFormat} {asdu : Asdu} {octets : Octets}
    (h : f.encode asdu = .ok octets) (hfits : octets.length ≤ maxAsduLength) :
    f.frameOctets asdu = .ok octets := by
  simp only [frameOctets, h]
  exact if_neg (Nat.not_lt.mpr hfits)

namespace Desk

/-- What holds of a desk after the connection was closed. -/
structure Closed (d : Desk) (cause : Fault) : Prop where
  closed : d.closed = some cause
  activator : d.activator = none
  starter : d.starter = none
  expectations : d.expectations = []
  waiting : d.waiting = []
  watchers : d.watchers = []
  woken : ∀ s ∈ d.senders, s.woken = true

theorem Closed.close (d : Desk) (cause : Fault) : (d.close cause).Closed cause := by
  refine ⟨rfl, rfl, rfl, rfl, rfl, rfl, fun s hs => ?_⟩
  obtain ⟨s, -, rfl⟩ := List.mem_map.mp hs
  rfl

/-- What a step can do to a desk after the connection was closed. -/
inductive Aftermath (d : Desk) (cause : Fault) : LinkInput → Desk → Prop
  /-- Nothing happens. -/
  | idle {input} : input.caller? = none → Aftermath d cause input d
  /-- No call is meant that waits. -/
  | missing {call} : (∀ s ∈ d.senders, s.call ≠ call) → Aftermath d cause (.resume call) d
  /-- A call that is made fails. -/
  | refuses {call request} (fault : Fault) (nextTicket : Nat) :
      (request.Fits d.format → fault = cause) →
      Aftermath d cause (.call call request)
        ({ d with nextTicket := nextTicket }.answer call (.failed fault))
  /-- A call that waits for room in the window fails. -/
  | ends {s} : s ∈ d.senders →
      Aftermath d cause (.resume s.call)
        ({ d with senders := d.senders.filter fun other => other.call != s.call }.answer s.call
          (.failed cause))

section Aftermath

variable {d d' : Desk} {cause : Fault} {input : LinkInput} {unit? : Option Asdu}

theorem Closed.attempt {s : Sender} (h : d.closed = some cause) (hattempt : d.Attempt s d') :
    d' = d.giveUp s.call s.ticket? cause := by
  cases hattempt with
  | fails fault hfault =>
    rcases hfault with hclosed | ⟨hopen, -⟩
    · cases hclosed.symm.trans h
      rfl
    · cases hopen.symm.trans h
  | waits hopen | sends _ hopen => cases hopen.symm.trans h

theorem Closed.submission {call : CallId} {ticket? : Option Nat} {asdu : Asdu}
    (h : d.closed = some cause) (hsubmission : d.Submission call ticket? asdu d') :
    ∃ fault, d' = d.giveUp call ticket? fault ∧
      ((∃ octets, d.format.encode asdu = .ok octets ∧ octets.length ≤ maxAsduLength) →
        fault = cause) := by
  cases hsubmission with
  | unfit fault hunfit =>
    refine ⟨fault, rfl, ?_⟩
    rintro ⟨octets, hencode, hlength⟩
    cases hunfit.symm.trans (AsduFormat.frameOctets_eq_ok hencode hlength)
  | fits octets _ hattempt => exact ⟨cause, Closed.attempt h hattempt, fun _ => rfl⟩

theorem Closed.move (h : d.Closed cause) (hmove : d.Move input unit? d') :
    d.Aftermath cause input d' := by
  have hclosed := h.closed
  cases hmove with
  | idle hinput => exact .idle hinput
  | sleeps hsleep =>
    refine .missing fun s hs hcall => ?_
    cases (hsleep s hs hcall).symm.trans (h.woken s hs)
  | answers reply _ _ hreply =>
    cases hreply cause hclosed
    exact .refuses cause d.nextTicket fun _ => rfl
  | sends hsubmission =>
    obtain ⟨fault, rfl, hfault⟩ := Closed.submission hclosed hsubmission
    have hforget : d.forget none = d := by
      rw [forget, h.expectations, List.filter_nil, ← h.expectations]
    rw [giveUp, hforget]
    exact .refuses fault d.nextTicket fun hfits => hfault (hfits _ rfl)
  | @commands call asdu _ hsubmission =>
    obtain ⟨fault, rfl, hfault⟩ := Closed.submission (d := d.expect asdu) hclosed hsubmission
    have hforget : (d.expect asdu).forget (some d.nextTicket) =
        { d with nextTicket := d.nextTicket + 1 } := by
      simp [forget, expect, h.expectations, Expectation.ofAsdu]
    rw [giveUp, hforget]
    exact .refuses fault (d.nextTicket + 1) fun hfits => hfault (hfits _ rfl)
  | @resumes s _ hs _ hattempt =>
    have hforget (rest : List Sender) :
        ({ d with senders := rest } : Desk).forget s.ticket? = { d with senders := rest } := by
      simp [forget, h.expectations]
    have hfails := Closed.attempt
      (d := { d with senders := d.senders.filter fun other => other.call != s.call }) hclosed
      hattempt
    rw [hfails, giveUp, hforget]
    exact .ends hs
  | expires ha =>
    rw [h.waiting] at ha
    cases ha
  | closes _ _ hopen | starts _ hopen | activates _ hopen | awaits _ hopen | watches _ hopen
  | wakes hopen | startsWaiter hopen | confirmsStart hopen | stops hopen | confirmsStop hopen
  | hands _ hopen => cases hopen.symm.trans hclosed

namespace Aftermath

theorem closed (ha : d.Aftermath cause input d') (h : d.Closed cause) : d'.Closed cause := by
  cases ha with
  | idle | missing => exact h
  | refuses =>
    exact ⟨h.closed, h.activator, h.starter, h.expectations, h.waiting, h.watchers, h.woken⟩
  | ends =>
    exact ⟨h.closed, h.activator, h.starter, h.expectations, h.waiting, h.watchers,
      fun s hs => h.woken s (List.mem_of_mem_filter hs)⟩

theorem events_eq (ha : d.Aftermath cause input d') : d'.events = d.events := by
  cases ha <;> rfl

theorem returns_subset (ha : d.Aftermath cause input d') : d.returns ⊆ d'.returns := by
  cases ha with
  | idle | missing => exact List.Subset.refl _
  | refuses | ends => exact List.subset_append_left _ _

/-- A call that waits for room in the window fails as soon as it looks again. -/
theorem sender (ha : d.Aftermath cause input d') {s : Sender} (hs : s ∈ d.senders) :
    input = .resume s.call ∧ (s.call, .failed cause) ∈ d'.returns ∨
      input ≠ .resume s.call ∧ s ∈ d'.senders := by
  cases ha with
  | idle hinput =>
    refine .inr ⟨?_, hs⟩
    rintro rfl
    cases hinput
  | missing hmissing =>
    refine .inr ⟨?_, hs⟩
    rintro ⟨⟩
    exact hmissing s hs rfl
  | refuses => exact .inr ⟨nofun, hs⟩
  | @ends t ht =>
    by_cases hcall : s.call = t.call
    · rw [hcall]
      exact .inl ⟨rfl, List.mem_append_right _ (List.mem_singleton_self _)⟩
    · refine .inr ⟨fun hequal => hcall ?_, List.mem_filter.mpr ⟨hs, bne_iff_ne.mpr hcall⟩⟩
      exact (LinkInput.resume.inj hequal).symm

theorem refused {call : CallId} {request : Request}
    (ha : d.Aftermath cause (.call call request) d') (hfits : request.Fits d.format) :
    (call, .failed cause) ∈ d'.returns := by
  cases ha with
  | idle hinput => cases hinput
  | refuses fault _ hfault =>
    rw [hfault hfits]
    exact List.mem_append_right _ (List.mem_singleton_self _)

end Aftermath

end Aftermath

/-! ### The step that closes the connection -/

theorem handOver_events (d : Desk) (asdu : Asdu) :
    (d.handOver asdu).closed = d.closed ∧ ((d.handOver asdu).events = d.events ∨
      (d.handOver asdu).events = d.events ++ [.asdu asdu]) := by
  unfold handOver
  split
  · unfold confirm
    split <;> exact ⟨rfl, .inl rfl⟩
  · exact ⟨rfl, .inr rfl⟩

/-- A step closes the connection, or reports at most one event, and that is not the last. -/
theorem Move.closes_or {d d' : Desk} {input : LinkInput} {unit? : Option Asdu}
    (h : d.Move input unit? d') :
    (d.closed = none ∧ input.caller? = none ∧ ∃ cause, d' = d.close cause) ∨
      d'.closed = d.closed ∧ (d'.events = d.events ∨
        ∃ event : LinkEvent, event.isFinal = false ∧ d'.events = d.events ++ [event]) := by
  cases h with
  | closes cause hinput hopen => exact .inl ⟨hopen, hinput, cause, rfl⟩
  | starts | startsWaiter | confirmsStart | stops | confirmsStop =>
    exact .inr ⟨rfl, .inr ⟨_, rfl, rfl⟩⟩
  | sends hsubmission => exact .inr (hsubmission.sameEvents.imp_right .inl)
  | commands hsubmission =>
    exact .inr (Submission.sameEvents (d := d.expect _) hsubmission |>.imp_right .inl)
  | resumes _ _ hattempt =>
    exact .inr (Attempt.sameEvents (d := { d with senders := _ }) hattempt |>.imp_right .inl)
  | hands asdu hopen hwoken =>
    refine .inr ?_
    have hsame : ∀ m : Desk, m.closed = d.closed → m.events = d.events →
        (m.handOver asdu).closed = d.closed ∧ ((m.handOver asdu).events = d.events ∨
          ∃ event : LinkEvent, event.isFinal = false ∧
            (m.handOver asdu).events = d.events ++ [event]) := by
      intro m hclosed hevents
      obtain ⟨hm, hor⟩ := m.handOver_events asdu
      rw [hclosed] at hm
      rw [hevents] at hor
      exact ⟨hm, hor.imp_right fun h => ⟨_, rfl, h⟩⟩
    rcases hwoken with rfl | rfl <;> exact hsame _ rfl rfl
  | _ => exact .inr ⟨rfl, .inl rfl⟩

end Desk

namespace Link

/-! ### The timers -/

section Closed

variable (l : Link) (now : Nat)

@[simp] theorem closed_transmit (apdu : Apdu) : (l.transmit now apdu).closed = l.closed :=
  congrArg Endpoint.closed (endpoint_transmit l now apdu)

@[simp] theorem closed_sendSupervisory : (l.sendSupervisory now).closed = l.closed :=
  congrArg Endpoint.closed (endpoint_sendSupervisory l now)

@[simp] theorem closed_enterStarted : (l.enterStarted now).closed = l.closed :=
  congrArg Endpoint.closed (endpoint_enterStarted l now)

@[simp] theorem closed_enterStopped : l.enterStopped.closed = l.closed :=
  congrArg Endpoint.closed (endpoint_enterStopped l)

@[simp] theorem closed_confirmStart : (l.confirmStart now).closed = l.closed :=
  congrArg Endpoint.closed (endpoint_confirmStart l now)

@[simp] theorem closed_superviseOldest : l.superviseOldest.closed = l.closed := rfl

@[simp] theorem closed_finish (call : CallId) (reply : Reply) :
    (l.finish call reply).closed = l.closed := rfl

@[simp] theorem closed_handOver (asdu : Asdu) : (l.handOver asdu).closed = l.closed :=
  congrArg Endpoint.closed (endpoint_handOver l asdu)

end Closed

@[simp] theorem timers_finish (l : Link) (call : CallId) (reply : Reply) :
    (l.finish call reply).timers = l.timers := rfl

@[simp] theorem timers_giveUp (l : Link) (call : CallId) (ticket? : Option Nat) (cause : Fault) :
    (l.giveUp call ticket? cause).timers = l.timers := rfl

@[simp] theorem timers_finishAll (l : Link) (calls : List CallId) (reply : Reply) :
    (l.finishAll calls reply).timers = l.timers := by
  unfold finishAll
  induction calls generalizing l with
  | nil => rfl
  | cons call calls ih => rw [List.foldl_cons, ih, timers_finish]

/-- No timer is armed once the connection is closed. -/
def Rests (l : Link) : Prop := l.closed ≠ none → l.timers = {}

variable {l : Link} {now : Nat}

theorem rests_of_open (h : l.closed = none) : l.Rests := fun hclosed => absurd h hclosed

theorem rests_close (h : l.closed = none) (cause : Fault) : (l.close cause).Rests := by
  intro _
  simp only [close, h, Option.isSome_none, Bool.false_eq_true, if_false]
  exact timers_finishAll _ _ _

theorem rests_handleExpired (h : l.closed = none) (expired : List Timer) :
    (l.handleExpired now expired).Rests := by
  induction expired generalizing l with
  | nil => exact rests_of_open h
  | cons timer rest ih =>
    cases timer with
    | t1 => exact rests_close h _
    | t2 => exact ih (by split <;> simp [h])
    | t3 => exact ih (by split <;> simp [h])

theorem closed_applyAcknowledgment {l' : Link} {number : UInt16}
    (h : l.applyAcknowledgment number = .ok l') : l'.closed = l.closed := by
  rcases desk_applyAcknowledgment h with hdesk | hdesk <;> exact congrArg Desk.closed hdesk

theorem rests_handleSupervisory (h : l.closed = none) (receive : UInt16) :
    (l.handleSupervisory receive).Rests := by
  unfold handleSupervisory
  split
  · exact rests_close h _
  · split
    · exact rests_close h _
    · next hack => exact rests_of_open ((closed_applyAcknowledgment hack).trans h)

theorem rests_handleInformation (h : l.closed = none) (send receive : UInt16)
    (octets? : Option Octets) : (l.handleInformation now send receive octets?).Rests := by
  unfold handleInformation
  split
  · exact rests_close h _
  · split
    · exact rests_close h _
    · next l' hack =>
      have h' : l'.closed = none := (closed_applyAcknowledgment hack).trans h
      split
      · exact rests_close h' _
      · simp only
        split
        · exact rests_close (by exact h') _
        · split
          · exact rests_close (by exact h') _
          · split <;> exact rests_of_open (by simp [h'])

theorem rests_handleUnnumbered (h : l.closed = none) (function : LinkFunction) :
    (l.handleUnnumbered now function).Rests := by
  cases function with
  | testAct => exact rests_of_open (by simp [handleUnnumbered, h])
  | testCon =>
    simp only [handleUnnumbered]
    split
    · exact rests_of_open h
    · exact rests_close h _
  | startAct =>
    simp only [handleUnnumbered]
    split
    · exact rests_of_open (by simp [h])
    · split <;> exact rests_of_open (by simp [h])
  | startCon | stopCon =>
    simp only [handleUnnumbered]
    split
    · split
      · exact rests_of_open (by simp [h])
      · exact rests_close h _
    · exact rests_close h _
  | stopAct =>
    simp only [handleUnnumbered]
    generalize howed : (if 0 < l.window.unacknowledged then l.sendSupervisory now else l) = owed
    have h' : owed.closed = none := by
      rw [← howed]
      split <;> simp [h]
    split <;> exact rests_of_open (by simp [h'])

theorem rests_handleFrame (h : l.closed = none) (apdu : Apdu) :
    (l.handleFrame now apdu).Rests := by
  have h' : (l.rearmIdle now).closed = none := by simp [h]
  rw [handleFrame_of_open now h]
  split
  · exact rests_handleInformation h' _ _ _
  · exact rests_handleSupervisory h' _
  · exact rests_handleUnnumbered h' _

/-- After the connection was closed, no timer changes. -/
theorem timers_step (h : l.closed ≠ none) (input : LinkInput) :
    (l.step now input).timers = l.timers := by
  obtain ⟨cause, hclosed⟩ := Option.ne_none_iff_exists'.mp h
  have hattempt (m : Link) (hm : m.closed = some cause) (s : Sender) :
      (m.attempt now s).timers = m.timers := by
    unfold attempt
    simp [hm]
  have hsend (m : Link) (hm : m.closed = some cause) (call : CallId) (ticket? : Option Nat)
      (asdu : Asdu) : (m.sendUnit now call ticket? asdu).timers = m.timers := by
    unfold sendUnit
    split
    · rfl
    · split
      · rfl
      · exact hattempt m hm _
  cases input with
  | call call request =>
    cases request with
    | start | awaitStart | stop =>
      simp [step, handleCall, start, awaitStart, stop, handshakeFault?, hclosed]
    | send asdu => exact hsend l hclosed ..
    | sendConfirmed asdu =>
      simp only [step, handleCall, sendCommand]
      exact hsend _ (by exact hclosed) _ _ _
    | awaitClose => simp [step, handleCall, awaitClose, hclosed]
  | resume call =>
    simp only [step, resume]
    split
    · exact hattempt _ (by exact hclosed) _
    · rfl
  | expire call =>
    simp only [step, expire]
    split
    · rw [close_of_closed h]
    · split <;> rfl
  | timers =>
    simp only [step, handleTimers]
    rw [if_pos (Option.isSome_iff_ne_none.mpr h)]
  | frame apdu => exact congrArg Link.timers (handleFrame_of_closed now h apdu)
  | lost | close => exact congrArg Link.timers (close_of_closed h _)

theorem Rests.step (hrests : l.Rests) (now : Nat) (input : LinkInput) :
    (l.step now input).Rests := by
  by_cases h : l.closed = none
  · rcases (l.desk_step now input).closes_or with ⟨-, hinput, -⟩ | ⟨hclosed, -⟩
    · cases input with
      | call | resume => cases hinput
      | expire call =>
        simp only [Link.step, expire]
        split
        · exact rests_close h _
        · split <;> exact rests_of_open h
      | timers =>
        simp only [Link.step, handleTimers]
        rw [if_neg (by simp [h])]
        exact rests_handleExpired (by exact h) _
      | frame apdu => exact rests_handleFrame h apdu
      | lost | close => exact rests_close h _
    · exact rests_of_open (hclosed.trans h)
  · intro _
    rw [timers_step h]
    exact hrests h

theorem Rests.run (hrests : l.Rests) (inputs : List (Nat × LinkInput)) : (l.run inputs).Rests := by
  induction inputs generalizing l with
  | nil => exact hrests
  | cons input inputs ih => exact ih (hrests.step input.1 input.2)

/-! ### What is left of a closed connection -/

/-- After the connection was closed, nothing shows to the other station. -/
theorem endpoint_step_of_closed (h : l.closed ≠ none) (now : Nat) (input : LinkInput) :
    (l.step now input).endpoint = l.endpoint := by
  rcases l.step_cases now input with ⟨-, hact⟩ | ⟨-, -, hopen, -⟩ | ⟨-, -, -, heq⟩
  · revert hact
    generalize (l.step now input).endpoint = e'
    intro hact
    cases hact with
    | silent => rfl
    | closes hopen | sends hopen | asksStart hopen | asksStop hopen | confirmsStart hopen
    | passes hopen => exact absurd hopen h
  · exact absurd hopen h
  · rw [heq]

/-- The step that closes the connection sends no frame; other than by a frame, the connection is
closed for a cause that the input tells. -/
theorem closing_step (h : l.closed = none) {cause : Fault} {input : LinkInput}
    (hclosed : (l.step now input).closed = some cause) :
    (l.step now input).endpoint.frames = l.endpoint.frames ∧
      ((∀ apdu, input ≠ .frame apdu) → input.closesWith cause) := by
  have hopen : l.endpoint.closed = none := h
  have hclosed : (l.step now input).endpoint.closed = some cause := hclosed
  revert hclosed
  rcases l.step_cases now input with ⟨-, hact⟩ | ⟨apdu, rfl, -, hreceive⟩ | ⟨-, -, hne, -⟩
  · revert hact
    generalize (l.step now input).endpoint = e'
    intro hact hclosed
    cases hact with
    | closes _ hcause =>
      cases hclosed
      exact ⟨rfl, fun _ => hcause⟩
    | @passes owed _ _ howed htested =>
      have howed : owed.closed = none := by cases howed <;> exact hopen
      have htested : e'.closed = none := by cases htested <;> exact howed
      cases htested.symm.trans hclosed
    | silent | sends | asksStart | asksStop | confirmsStart => cases hopen.symm.trans hclosed
  · revert hreceive
    generalize (l.step now (.frame apdu)).endpoint = e'
    intro hreceive hclosed
    refine ⟨?_, fun hne => absurd rfl (hne apdu)⟩
    cases hreceive with
    | informationStopped | supervisoryStopped | supervisoryRefused | informationRefused
    | numberRefused | unitRefused | testUnsolicited | startUnsolicited | stopUnsolicited => rfl
    | stoppedByOther _ howed | stoppedAlready _ howed =>
      cases ((Endpoint.closed_of_owed howed).trans hopen).symm.trans hclosed
    | _ => cases hopen.symm.trans hclosed
  · exact absurd h hne

/-- A connection that is closed stays as it is, but for calls that fail. -/
structure Remains (l : Link) (cause : Fault) (l' : Link) : Prop where
  closed : l'.desk.Closed cause
  events : l'.desk.events = l.desk.events
  endpoint : l'.endpoint = l.endpoint
  timers : l'.timers = l.timers
  returns : l.desk.returns ⊆ l'.desk.returns

theorem remains_step {cause : Fault} (h : l.desk.Closed cause) (now : Nat) (input : LinkInput) :
    l.Remains cause (l.step now input) := by
  have hclosed : l.closed ≠ none := Option.ne_none_iff_exists'.mpr ⟨cause, h.closed⟩
  have hafter := h.move (l.desk_step now input)
  exact ⟨hafter.closed h, hafter.events_eq, endpoint_step_of_closed hclosed now input,
    timers_step hclosed input, hafter.returns_subset⟩

theorem remains_run {cause : Fault} (h : l.desk.Closed cause) (inputs : List (Nat × LinkInput)) :
    l.Remains cause (l.run inputs) := by
  induction inputs generalizing l with
  | nil => exact ⟨h, rfl, rfl, rfl, List.Subset.refl _⟩
  | cons input inputs ih =>
    have hstep := remains_step h input.1 input.2
    have hrun := ih hstep.closed
    exact ⟨hrun.closed, hrun.events.trans hstep.events, hrun.endpoint.trans hstep.endpoint,
      hrun.timers.trans hstep.timers, fun _ hp => hrun.returns (hstep.returns hp)⟩

theorem sender_run {cause : Fault} (h : l.desk.Closed cause) {s : Sender} (hs : s ∈ l.senders)
    (inputs : List (Nat × LinkInput)) :
    (s.call, .failed cause) ∈ (l.run inputs).desk.returns ∨
      s ∈ (l.run inputs).senders ∧ ∀ t, (t, .resume s.call) ∉ inputs := by
  induction inputs generalizing l with
  | nil => exact .inr ⟨hs, fun _ => List.not_mem_nil⟩
  | cons input inputs ih =>
    have hstep := remains_step h input.1 input.2
    rcases (h.move (l.desk_step input.1 input.2)).sender hs with ⟨-, hreturns⟩ | ⟨hne, hs⟩
    · exact .inl ((remains_run hstep.closed inputs).returns hreturns)
    · refine (ih hstep.closed hs).imp_right fun ⟨hs, hmissing⟩ => ⟨hs, fun t hmem => ?_⟩
      rcases List.mem_cons.mp hmem with heq | hmem
      · exact hne (congrArg Prod.snd heq).symm
      · exact hmissing t hmem

theorem refused_run {cause : Fault} (h : l.desk.Closed cause) {call : CallId} {request : Request}
    (hfits : request.Fits l.format) {inputs : List (Nat × LinkInput)} {t : Nat}
    (hmem : (t, .call call request) ∈ inputs) :
    (call, .failed cause) ∈ (l.run inputs).desk.returns := by
  obtain ⟨first, rest, rfl⟩ := List.append_of_mem hmem
  rw [run_append, run_cons]
  have hfirst := remains_run h first
  have hformat : (l.run first).desk.format = l.format := format_run l first
  have hrefused := (hfirst.closed.move ((l.run first).desk_step t (.call call request))).refused
    (hformat ▸ hfits)
  exact (remains_run (remains_step hfirst.closed _ _).closed rest).returns hrefused

/-- An open connection has not reported its end. -/
def Unreported (l : Link) : Prop :=
  l.closed = none → ∀ event ∈ l.desk.events, event.isFinal = false

theorem Unreported.step (h : l.Unreported) (now : Nat) (input : LinkInput) :
    (l.step now input).Unreported := by
  intro hopen event hevent
  rcases (l.desk_step now input).closes_or with ⟨-, -, cause, hdesk⟩ | ⟨hclosed, hevents⟩
  · cases (congrArg Desk.closed hdesk).symm.trans hopen
  · have hopen : l.closed = none := hclosed.symm.trans hopen
    rcases hevents with hsame | ⟨new, hnew, hmore⟩
    · rw [hsame] at hevent
      exact h hopen event hevent
    · rw [hmore, List.mem_append, List.mem_singleton] at hevent
      rcases hevent with hevent | rfl
      · exact h hopen event hevent
      · exact hnew

theorem Unreported.run (h : l.Unreported) (inputs : List (Nat × LinkInput)) :
    (l.run inputs).Unreported := by
  induction inputs generalizing l with
  | nil => exact h
  | cons input inputs ih => exact ih (h.step input.1 input.2)

/-! ### Teardown -/

/-- A call that waits when the connection is closed fails at once, or as soon as it looks again. -/
theorem waiting_call_ends {settings : Settings} {extension : Option Extension}
    {before : List (Nat × LinkInput)} (hcalls : (callsMade before).Nodup)
    {ended : Link} {cause : Fault}
    (hdesk : ended.desk = ((Link.new settings extension).run before).desk.close cause)
    {call : CallId} (hcall : call ∈ callsMade before)
    (hwaits : ((Link.new settings extension).run before).desk.replies call = []) :
    (call, .failed cause) ∈ ended.desk.returns ∨
      ∃ s ∈ ended.senders, s.call = call ∧ s.woken = true := by
  have hrecord := record_history settings extension hcalls
  rw [← made_history (Link.new settings extension)] at hcall
  rcases hrecord.waits_or_returned hcall with hout | ⟨reply, hreply⟩
  · rw [Desk.outstanding, ← List.append_assoc, List.mem_append] at hout
    rcases hout with hpending | hsender
    · refine .inl ?_
      rw [hdesk]
      exact List.mem_append_right _
        (List.mem_map_of_mem (f := fun call => (call, Reply.failed cause))
          ((Desk.pendingCalls_perm _).symm.subset hpending))
    · refine .inr ?_
      obtain ⟨s, hs, rfl⟩ := List.mem_map.mp hsender
      have hsenders : ended.senders = _ := congrArg Desk.senders hdesk
      rw [hsenders]
      exact ⟨{ s with woken := true }, List.mem_map_of_mem hs, rfl, rfl⟩
  · have hmem : reply ∈ ((Link.new settings extension).run before).desk.replies call := by
      rw [Desk.mem_replies, hrecord.returns]
      exact History.mem_returned.mpr hreply
    rw [hwaits] at hmem
    cases hmem

/-- A connection is closed once, and completely. -/
theorem teardown (settings : Settings) (extension : Option Extension)
    (before after : List (Nat × LinkInput)) (now : Nat) (input : LinkInput) (cause : Fault)
    (hcalls : (callsMade (before ++ (now, input) :: after)).Nodup) :
    let opened := (Link.new settings extension).run before
    let ended := opened.step now input
    let l := ended.run after
    opened.closed = none → ended.closed = some cause →
    ((∀ apdu, input ≠ .frame apdu) → input.closesWith cause) ∧
      l.closed = some cause ∧
      l.desk.events = opened.desk.events ++ [.closed cause] ∧
      (∀ event ∈ opened.desk.events, event.isFinal = false) ∧
      l.endpoint.frames = opened.endpoint.frames ∧ l.window = ended.window ∧ l.timers = {} ∧
      (∀ call reply, reply ∈ opened.desk.replies call → l.desk.replies call = [reply]) ∧
      (∀ call ∈ callsMade before, opened.desk.replies call = [] →
        l.desk.replies call = [.failed cause] ∨
          l.desk.replies call = [] ∧ (∃ s ∈ l.senders, s.call = call ∧ s.woken = true) ∧
            ∀ t, (t, .resume call) ∉ after) ∧
      ∀ t call request, (t, .call call request) ∈ after →
        request.Fits (settings.format extension) → l.desk.replies call = [.failed cause] := by
  intro opened ended l hopen hclosed
  have hdesk : ended.desk = opened.desk.close cause := by
    rcases (opened.desk_step now input).closes_or with ⟨-, -, fault, hdesk⟩ | ⟨hsame, -⟩
    · cases (congrArg Desk.closed hdesk).symm.trans hclosed
      exact hdesk
    · cases hopen.symm.trans (hsame.symm.trans hclosed)
  have hended : ended.desk.Closed cause := hdesk ▸ .close opened.desk cause
  have hremains : ended.Remains cause l := remains_run hended after
  obtain ⟨hframes, hcause⟩ := closing_step hopen hclosed
  have hbefore : (callsMade before).Nodup := by
    rw [callsMade_append] at hcalls
    exact (List.nodup_append.mp hcalls).1
  have hrecord : l.desk.Record ((Link.new settings extension).history
      (before ++ (now, input) :: after)) := by
    have hrun : l = (Link.new settings extension).run (before ++ (now, input) :: after) := by
      rw [run_append, run_cons]
    rw [hrun]
    exact record_history settings extension hcalls
  rw [← made_history (Link.new settings extension)] at hcalls
  refine ⟨hcause, hremains.closed.closed, ?_, ?_, ?_, congrArg Endpoint.window hremains.endpoint,
    ?_, ?_, ?_, ?_⟩
  · rw [hremains.events, hdesk]
    rfl
  · exact Unreported.run (fun _ => by simp [desk, new]) before hopen
  · rw [hremains.endpoint]
    exact hframes
  · rw [hremains.timers]
    exact Rests.step (Rests.run (rests_of_open rfl) before) now input
      (Option.ne_none_iff_exists'.mpr ⟨cause, hclosed⟩)
  · intro call reply hreply
    refine hrecord.replies_eq hcalls (hremains.returns ?_)
    rw [hdesk]
    exact List.mem_append_left _ (Desk.mem_replies.mp hreply)
  · intro call hcall hwaits
    rcases waiting_call_ends hbefore hdesk hcall hwaits with hreturns | ⟨s, hs, rfl, hwoken⟩
    · exact .inl (hrecord.replies_eq hcalls (hremains.returns hreturns))
    · rcases sender_run hended hs after with hreturns | ⟨hs, hmissing⟩
      · exact .inl (hrecord.replies_eq hcalls hreturns)
      · have hwaits := hrecord.replies_of_outstanding hcalls (Desk.sender_outstanding s hs)
        exact .inr ⟨hwaits, ⟨s, hs, rfl, hwoken⟩, hmissing⟩
  · intro t call request hmem hfits
    have hformat : ended.format = settings.format extension :=
      (format_run _ [(now, input)]).trans (format_run _ before)
    exact hrecord.replies_eq hcalls (refused_run hended (hformat ▸ hfits) hmem)

/-- Calls that wait for different things, on a link whose window holds one frame: for the
confirmation of a command, for room in the window, and for the end of data transfer. -/
def waitingCalls : List (Nat × LinkInput) :=
  [(0, .call 0 (.start 0 9)), (1, .frame (.unnumbered .startCon)),
    (2, .call 1 (.sendConfirmed (.single .interrogation .activation 1 0
      [.interrogationQualifier 20]))),
    (3, .call 2 (.send (.single .interrogation .activation 1 0 [.interrogationQualifier 20]))),
    (4, .call 3 .stop)]

/-- What may come after the connection was closed. -/
def lateCalls : List (Nat × LinkInput) :=
  [(6, .resume 2), (7, .call 4 (.start 0 9)),
    (8, .call 5 (.send (.single .interrogation .activation 1 0 [.interrogationQualifier 20]))),
    (9, .lost .endOfStream)]

/-- Closing ends the calls that wait, and those that are made later. -/
theorem close_ends_calls :
    let opened := (Link.new { k := 1, w := 1 } none).run waitingCalls
    let ended := opened.step 5 .close
    let l := ended.run lateCalls
    (callsMade (waitingCalls ++ (5, .close) :: lateCalls)).Nodup ∧
      opened.closed = none ∧ ended.closed = some .connectionClosed ∧
      l.closed = some .connectionClosed ∧
      l.desk.events = [.stateChanged .started, .closed .connectionClosed] ∧ l.timers = {} ∧
      l.desk.replies 0 = [.done] ∧
      l.desk.replies 1 = [.failed .connectionClosed] ∧
      l.desk.replies 2 = [.failed .connectionClosed] ∧
      l.desk.replies 3 = [.failed .connectionClosed] ∧
      l.desk.replies 4 = [.failed .connectionClosed] ∧
      l.desk.replies 5 = [.failed .connectionClosed] := by
  have hcalls : (callsMade (waitingCalls ++ (5, .close) :: lateCalls)).Nodup := by decide
  obtain ⟨-, hclosed, hevents, -, -, -, htimers, hreturned, hwaiting, hlater⟩ :=
    teardown { k := 1, w := 1 } none waitingCalls lateCalls 5 .close .connectionClosed hcalls rfl
      rfl
  have hends {call : CallId} (hcall : call ∈ callsMade waitingCalls)
      (hwaits : ((Link.new { k := 1, w := 1 } none).run waitingCalls).desk.replies call = []) :
      ((((Link.new { k := 1, w := 1 } none).run waitingCalls).step 5 .close).run
        lateCalls).desk.replies call = [.failed .connectionClosed] := by
    rcases hwaiting call hcall hwaits with hends | ⟨-, ⟨s, hs, -⟩, -⟩
    · exact hends
    · have hnone : ((((Link.new { k := 1, w := 1 } none).run waitingCalls).step 5 .close).run
          lateCalls).senders = [] := rfl
      rw [hnone] at hs
      cases hs
  have hdone : ((Link.new { k := 1, w := 1 } none).run waitingCalls).desk.replies 0 = [.done] := rfl
  have hstarts : (Request.start 0 9).Fits (({ k := 1, w := 1 } : Settings).format none) :=
    Request.fits_of_unit?_eq_none rfl _
  have hfits : (Request.send (.single .interrogation .activation 1 0
      [.interrogationQualifier 20])).Fits (({ k := 1, w := 1 } : Settings).format none) := by
    rintro asdu ⟨⟩
    exact ⟨_, rfl, by decide⟩
  exact ⟨hcalls, rfl, rfl, hclosed, hevents, htimers,
    hreturned 0 .done (hdone ▸ List.mem_singleton_self _), hends (by decide) rfl,
    hends (by decide) rfl, hends (by decide) rfl,
    hlater 7 4 _ (by simp [lateCalls]) hstarts, hlater 8 5 _ (by simp [lateCalls]) hfits⟩

end Link

end Telecontrol
