import Telecontrol.Proofs.Link.Refusal
import Telecontrol.Proofs.Link.Supervision

/-!
# What the fault of a call tells of the connection

Faults are fatal or not (`Fault.isFatal`), and a call that fails should tell by its fault whether
the connection is closed. A connection is closed for fatal causes only (`Link.Truthful`), and the
calls that wait fail with it for the same cause. While it stays open, a call that waits fails if
data transfer is stopped or no confirmation arrives in time, and neither is fatal
(`Desk.Move.failed`).

A call that an open link refuses at once is different: the connection stays open, and yet the fault
is fatal, unless the call is refused because data transfer is stopped (`Link.Declines`). So a fault
misleads exactly in that case (`Link.closed_iff_fatal_iff`).
-/

namespace Telecontrol

/-! ### Which faults are fatal -/

theorem Fault.Unreadable.isFatal {cause : Fault} (h : cause.Unreadable) : cause.isFatal = true := by
  cases h <;> rfl

theorem Fault.Unwritable.isFatal {cause : Fault} (h : cause.Unwritable) : cause.isFatal = true := by
  cases h <;> rfl

theorem AsduFormat.isFatal_of_frameOctets {f : AsduFormat} {asdu : Asdu} {cause : Fault}
    (h : f.frameOctets asdu = .error cause) : cause.isFatal = true := by
  unfold frameOctets at h
  split at h
  · next hencode =>
    cases h
    exact (f.encode_unwritable hencode).isFatal
  · split at h
    · cases h
      rfl
    · cases h

/-- A frame is rejected for a fatal cause only. -/
theorem Fault.Rejection.isFatal {cause : Fault} (h : cause.Rejection) : cause.isFatal = true := by
  cases h with
  | unreadable h => exact h.isFatal
  | _ => rfl

/-! ### How calls fail -/

namespace Desk

variable {d d' : Desk} {input : LinkInput} {unit? : Option Asdu}

theorem returns_handOver (d : Desk) (asdu : Asdu) (call : CallId) (cause : Fault) :
    (call, .failed cause) ∉ (d.handOver asdu).returns.drop d.returns.length := by
  unfold handOver confirm
  split
  · split <;> simp [answer]
  · simp [post]

/-- The attempt to send a unit fails for the cause for which the connection was closed, or because
data transfer is stopped. -/
theorem Attempt.failed {s : Sender} (h : d.Attempt s d') {call : CallId} {cause : Fault}
    (hfailed : (call, .failed cause) ∈ d'.returns.drop d.returns.length) :
    d'.closed = some cause ∨ d'.closed = none ∧ cause.isFatal = false := by
  cases h with
  | fails fault hfault =>
    obtain ⟨-, rfl⟩ : call = s.call ∧ cause = fault := by
      simpa [giveUp, forget, answer] using hfailed
    rcases hfault with hclosed | ⟨hopen, rfl⟩
    · exact .inl hclosed
    · exact .inr ⟨hopen, rfl⟩
  | waits => simp at hfailed
  | sends =>
    unfold afterSending at hfailed
    split at hfailed <;> simp [answer, send] at hfailed

/-- A call that has waited fails for the cause for which the connection was closed, or the
connection is open and the fault is not fatal. -/
theorem Move.failed (h : d.Move input unit? d') (hinput : input.call? = none)
    (hwaiting : d.closed ≠ none → d.waiting = []) {call : CallId} {cause : Fault}
    (hfailed : (call, .failed cause) ∈ d'.returns.drop d.returns.length) :
    d'.closed = some cause ∨ d'.closed = none ∧ cause.isFatal = false := by
  cases h with
  | idle | sleeps | wakes | stops => simp [wake, post] at hfailed
  | closes fault =>
    obtain ⟨-, rfl⟩ : call ∈ d.pendingCalls ∧ fault = cause := by
      simpa [close] using hfailed
    exact .inl rfl
  | answers | starts | activates | awaits | watches | sends | commands => cases hinput
  | resumes _ _ hattempt => exact Attempt.failed (d := { d with senders := _ }) hattempt hfailed
  | expires ha =>
    have hopen : d.closed = none := by
      by_contra hclosed
      rw [hwaiting hclosed] at ha
      cases ha
    obtain ⟨-, rfl⟩ : _ ∧ cause = .responseTimeout := by
      simpa [giveUp, forget, answer] using hfailed
    exact .inr ⟨hopen, rfl⟩
  | startsWaiter | confirmsStart | confirmsStop => simp [wake, post, answer] at hfailed
  | hands asdu _ hd₁ =>
    rcases hd₁ with rfl | rfl
    · exact absurd hfailed (returns_handOver _ asdu call cause)
    · exact absurd hfailed (returns_handOver d.wake asdu call cause)

end Desk

namespace Link

variable {l : Link} {now : Nat} {input : LinkInput} {cause : Fault}

/-- If the connection is closed, it is for a fatal cause, and no call waits for a confirmation. -/
structure Truthful (l : Link) : Prop where
  isFatal : ∀ cause, l.closed = some cause → cause.isFatal = true
  sealed : ∀ cause, l.closed = some cause → l.desk.Closed cause

theorem Truthful.of_open (h : l.closed = none) : l.Truthful :=
  ⟨fun _ hclosed => (nomatch h.symm.trans hclosed), fun _ hclosed => nomatch h.symm.trans hclosed⟩

theorem Truthful.waiting (h : l.Truthful) (hclosed : l.desk.closed ≠ none) :
    l.desk.waiting = [] := by
  obtain ⟨cause, hcause⟩ := Option.ne_none_iff_exists'.mp hclosed
  exact (h.sealed cause hcause).waiting

/-- An open connection is closed for a fatal cause only. -/
theorem closing_isFatal (hopen : l.closed = none)
    (hextension : ∀ x, l.extension = some x → x.RefusesInvalid)
    (hstream : ∀ fault, input = .lost fault → fault.isFatal = true)
    (hclosed : (l.step now input).closed = some cause) : cause.isFatal = true := by
  obtain ⟨-, hcause⟩ := closing_step hopen hclosed
  rcases l.step_cases now input with ⟨hinput, -⟩ | ⟨apdu, -, -, hreceive⟩ | ⟨apdu, -, hne, -⟩
  · have hcause := hcause hinput
    cases input with
    | lost fault =>
      cases hcause
      exact hstream cause rfl
    | close | timers | expire =>
      cases hcause
      rfl
    | call | resume | frame => cases hcause
  · exact (hreceive.rejection hopen hextension hclosed).isFatal
  · exact absurd hopen hne

theorem Truthful.step (h : l.Truthful) (hextension : ∀ x, l.extension = some x → x.RefusesInvalid)
    (now : Nat) (hstream : ∀ fault, input = .lost fault → fault.isFatal = true) :
    (l.step now input).Truthful := by
  cases hclosed : l.closed with
  | none =>
    refine ⟨fun cause => closing_isFatal hclosed hextension hstream, fun cause hcause => ?_⟩
    rcases (l.desk_step now input).closes_or with ⟨-, -, fault, hdesk⟩ | ⟨hsame, -⟩
    · cases (congrArg Desk.closed hdesk).symm.trans hcause
      rw [hdesk]
      exact .close l.desk cause
    · cases hclosed.symm.trans (hsame.symm.trans hcause)
  | some fault =>
    have hremains := remains_step (h.sealed fault hclosed) now input
    have hsame (cause : Fault) (hcause : (l.step now input).closed = some cause) : fault = cause :=
      Option.some.inj (hremains.closed.closed.symm.trans hcause)
    exact ⟨fun cause hcause => hsame cause hcause ▸ h.isFatal fault hclosed,
      fun cause hcause => hsame cause hcause ▸ hremains.closed⟩

theorem Truthful.run (h : l.Truthful) (hextension : ∀ x, l.extension = some x → x.RefusesInvalid)
    {inputs : List (Nat × LinkInput)}
    (hstream : ∀ p ∈ inputs, ∀ fault, p.2 = .lost fault → fault.isFatal = true) :
    (l.run inputs).Truthful := by
  induction inputs generalizing l with
  | nil => exact h
  | cons input inputs ih =>
    have hstep := h.step hextension input.1 (hstream input List.mem_cons_self)
    refine ih hstep ?_ fun p hp => hstream p (List.mem_cons_of_mem _ hp)
    have hsame : (l.step input.1 input.2).extension = l.extension := (l.sameSetup_step _ _).2
    rwa [hsame]

/-- A call is refused for the cause for which the connection was closed, or for another fatal one,
or because data transfer is stopped. -/
theorem Truthful.refusal (h : l.Truthful) {request : Request}
    (hrefusal : l.refusal? request = some cause) :
    cause.isFatal = true ∨ l.closed = none ∧ cause = .notStarted := by
  have hhandshake {cause : Fault} (hfault : l.handshakeFault? = some cause) :
      cause.isFatal = true := by
    unfold handshakeFault? at hfault
    split at hfault
    · next hclosed => exact h.isFatal _ (hclosed.trans hfault)
    · obtain ⟨pending, -, rfl⟩ := Option.map_eq_some_iff.mp hfault
      rfl
  have hunsent {asdu : Asdu} (hunsent : l.unsent? asdu = some cause) :
      cause.isFatal = true ∨ l.closed = none ∧ cause = .notStarted := by
    unfold unsent? at hunsent
    split at hunsent
    · next hunfit =>
      cases hunsent
      exact .inl (AsduFormat.isFatal_of_frameOctets hunfit)
    · rcases Option.or_eq_some_iff.mp hunsent with hclosed | ⟨hopen, hstopped⟩
      · exact .inl (h.isFatal cause hclosed)
      · split at hstopped
        · cases hstopped
          exact .inr ⟨hopen, rfl⟩
        · cases hstopped
  cases request with
  | start | stop => exact .inl (hhandshake hrefusal)
  | awaitStart =>
    rcases Option.or_eq_some_iff.mp hrefusal with hfault | ⟨-, hwaits⟩
    · exact .inl (hhandshake hfault)
    · split at hwaits
      · cases hwaits
        exact .inl rfl
      · cases hwaits
  | send | sendConfirmed => exact hunsent hrefusal
  | awaitClose => exact .inl (h.isFatal cause hrefusal)

/-- A call that is made of an open link is refused at once, and not because data transfer is
stopped. -/
def Declines (l : Link) (input : LinkInput) (cause : Fault) : Prop :=
  l.closed = none ∧ cause ≠ .notStarted ∧
    ∃ call request, input = .call call request ∧ l.refusal? request = some cause

/-- A call that is made fails as it is refused, and the connection stays open or closed. -/
theorem Truthful.closed_iff_of_made (h : l.Truthful)
    (hnumbers : ∀ e ∈ l.expectations, e.ticket < l.nextTicket) {made call : CallId}
    {request : Request}
    (hfailed : .finish call (.failed cause) ∈
      (l.step now (.call made request)).log.drop l.log.length) :
    ((l.step now (.call made request)).closed ≠ none ↔ cause.isFatal = true) ↔
      ¬l.Declines (.call made request) cause := by
  obtain ⟨added, hlog, hadded⟩ := failed_handleCall_iff hnumbers now made request
  have hlog : (l.step now (.call made request)).log = l.log ++ added := hlog
  rw [hlog, List.drop_left, hadded] at hfailed
  obtain ⟨-, hrefusal⟩ := hfailed
  obtain ⟨ticket, hleaves⟩ := handleCall_of_refusal hnumbers hrefusal now made
  have hclosed : (l.step now (.call made request)).closed = l.closed := by
    rw [Link.step, hleaves]
  rw [hclosed]
  have hdeclines :
      l.Declines (.call made request) cause ↔ l.closed = none ∧ cause ≠ .notStarted := by
    constructor
    · rintro ⟨hopen, hcause, -⟩
      exact ⟨hopen, hcause⟩
    · rintro ⟨hopen, hcause⟩
      exact ⟨hopen, hcause, made, request, rfl, hrefusal⟩
  rw [hdeclines]
  rcases h.refusal hrefusal with hfatal | ⟨hopen, rfl⟩
  · have hcause : cause ≠ .notStarted := by
      rintro rfl
      cases hfatal
    simp [hfatal, hcause]
  · simp [hopen, Fault.isFatal, Fault.isRecoverable]

/-- A call that has waited tells by its fault whether the connection is closed. -/
theorem Truthful.closed_iff_of_waited (h : l.Truthful)
    (hextension : ∀ x, l.extension = some x → x.RefusesInvalid)
    (hstream : ∀ fault, input = .lost fault → fault.isFatal = true) (hinput : input.call? = none)
    {call : CallId}
    (hfailed : .finish call (.failed cause) ∈ (l.step now input).log.drop l.log.length) :
    (l.step now input).closed ≠ none ↔ cause.isFatal = true := by
  have hreturned : (call, .failed cause) ∈
      (l.step now input).desk.returns.drop l.desk.returns.length := by
    obtain ⟨added, hlog⟩ := l.log_step now input
    rw [← hlog, List.drop_left] at hfailed
    have hreturns : (l.step now input).desk.returns =
        l.desk.returns ++ added.filterMap Effect.return? := by
      show (l.step now input).log.filterMap Effect.return? = _
      rw [← hlog, List.filterMap_append]
      rfl
    rw [hreturns, List.drop_left]
    exact List.mem_filterMap.mpr ⟨_, hfailed, rfl⟩
  rcases (l.desk_step now input).failed hinput h.waiting hreturned with hclosed | ⟨hopen, hcause⟩
  · have hclosed : (l.step now input).closed = some cause := hclosed
    have hfatal := (h.step hextension now hstream).isFatal cause hclosed
    simp [hclosed, hfatal]
  · have hopen : (l.step now input).closed = none := hopen
    simp [hopen, hcause]

/-- If streams and extensions fail with fatal faults only, a call that fails tells by its fault
whether the connection is closed, exactly if it was not declined. -/
theorem closed_iff_fatal_iff (settings : Settings) (extension : Option Extension)
    (hextension : ∀ x, extension = some x → x.RefusesInvalid) (inputs : List (Nat × LinkInput))
    (now : Nat) (input : LinkInput)
    (hstream : ∀ p ∈ inputs ++ [(now, input)], ∀ fault, p.2 = .lost fault → fault.isFatal = true)
    (call : CallId) (cause : Fault) :
    let l := (new settings extension).run inputs
    let l' := l.step now input
    .finish call (.failed cause) ∈ l'.log.drop l.log.length →
      ((l'.closed ≠ none ↔ cause.isFatal = true) ↔ ¬l.Declines input cause) := by
  intro l l' hfailed
  have htruthful : l.Truthful := (Truthful.of_open rfl).run hextension fun p hp =>
    hstream p (List.mem_append_left _ hp)
  cases hcall : input.call? with
  | some made =>
    cases input with
    | call made request =>
      exact htruthful.closed_iff_of_made
        (bounded_run (bounded_new settings extension) inputs).numbers hfailed
    | resume | expire | timers | frame | lost | close => cases hcall
  | none =>
    have hextension : ∀ x, l.extension = some x → x.RefusesInvalid := by
      have hsame : l.extension = extension := (sameSetup_run _ inputs).2
      rwa [hsame]
    have hdeclines : ¬l.Declines input cause := by
      rintro ⟨-, -, made, request, rfl, -⟩
      cases hcall
    exact iff_of_true (htruthful.closed_iff_of_waited hextension
      (hstream (now, input) (by simp)) hcall hfailed) hdeclines

/-- The call of a command that waits for its confirmation fails when the connection is closed, and
tells so. -/
theorem closed_while_waiting :
    let l := (new {} (some (.ofWidth [200] 2))).run commandSent
    (∀ x, some (Extension.ofWidth [200] 2) = some x → x.RefusesInvalid) ∧
      (∀ p ∈ commandSent ++ [(3, .lost .endOfStream)], ∀ fault, p.2 = .lost fault →
        fault.isFatal = true) ∧
      .finish 1 (.failed .endOfStream) ∈ (l.step 3 (.lost .endOfStream)).log.drop l.log.length ∧
      ((l.step 3 (.lost .endOfStream)).closed ≠ none ↔ Fault.endOfStream.isFatal = true) := by
  intro l
  have hextension : ∀ x, some (Extension.ofWidth [200] 2) = some x → x.RefusesInvalid := by
    rintro x ⟨⟩
    exact Extension.refusesInvalid_ofWidth [200] 2
  have hstream : ∀ p ∈ commandSent ++ [(3, .lost .endOfStream)], ∀ fault, p.2 = .lost fault →
      fault.isFatal = true := by
    simp [commandSent, Fault.isFatal, Fault.isRecoverable, Fault.endOfStream]
  have hfailed : .finish 1 (.failed .endOfStream) ∈
      (l.step 3 (.lost .endOfStream)).log.drop l.log.length := List.mem_cons_self
  refine ⟨hextension, hstream, hfailed, ?_⟩
  have hdeclines : ¬l.Declines (.lost .endOfStream) .endOfStream := by
    rintro ⟨-, -, _, _, ⟨⟩, -⟩
  exact (closed_iff_fatal_iff {} (some (.ofWidth [200] 2)) hextension commandSent 3
    (.lost .endOfStream) hstream 1 .endOfStream hfailed).mpr hdeclines

/-- A second call to start data transfer is refused with a fatal fault while the first one waits,
and the connection stays open. -/
theorem second_start_declined :
    let opened := (new {} none).step 0 (.call 0 (.start 0 9))
    let l := opened.step 1 (.call 1 (.start 1 9))
    let cause := Fault.protocolState (.unconfirmed .startAct)
    l.log = opened.log ++ [.finish 1 (.failed cause)] ∧ cause.isFatal = true ∧ l.closed = none ∧
      ¬(l.closed ≠ none ↔ cause.isFatal = true) := by
  refine ⟨rfl, rfl, rfl, ?_⟩
  rintro ⟨-, h⟩
  exact h rfl rfl

end Link

end Telecontrol
