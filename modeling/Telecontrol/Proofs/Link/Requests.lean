import Mathlib.Data.List.Infix
import Mathlib.Data.List.Induction
import Telecontrol.Proofs.Link.Transfer

/-!
# The start that the other station asks for

If the other station asks for the start of data transfer while no call waits for it, the link
remembers the request, and a later call starts data transfer at once (`Link.GrantsStart`). The
other station should still want that then (`Link.StartWanted`): it has not asked for the end in
the meantime, and data transfer has not been stopped since.

A link remembers a request until such a call, whatever else happens. It is right to remember it
until the other station asks for the end, or data transfer is started because the activation of
this station is confirmed (`Link.Outdates`). Without these, what is remembered is wanted
(`Link.start_wanted_iff`); with them, data transfer may be started although the other station has
asked for nothing since it was stopped (`Link.outdated_request_starts`).
-/

namespace Telecontrol

/-- A call lets the other station start data transfer. -/
def LinkInput.awaitsStart : LinkInput → Bool
  | .call _ (.awaitStart _ _) => true
  | _ => false

namespace Link

/-! ### What has happened since -/

/-- At a step of a run something has happened, and at every later one something holds. -/
def Since (P Q : Link → Nat → LinkInput → Prop) (l : Link) : List (Nat × LinkInput) → Prop
  | [] => False
  | input :: inputs =>
    P l input.1 input.2 ∧ (l.step input.1 input.2).Throughout Q inputs ∨
      (l.step input.1 input.2).Since P Q inputs

instance decidableSince {P Q : Link → Nat → LinkInput → Prop}
    [∀ l now input, Decidable (P l now input)] [∀ l now input, Decidable (Q l now input)]
    (l : Link) : (inputs : List (Nat × LinkInput)) → Decidable (l.Since P Q inputs)
  | [] => .isFalse id
  | input :: inputs =>
    have := decidableSince (P := P) (Q := Q) (l.step input.1 input.2) inputs
    inferInstanceAs (Decidable (_ ∧ _ ∨ _))

theorem since_concat {P Q : Link → Nat → LinkInput → Prop} (l : Link)
    (inputs : List (Nat × LinkInput)) (now : Nat) (input : LinkInput) :
    l.Since P Q (inputs ++ [(now, input)]) ↔
      P (l.run inputs) now input ∨ l.Since P Q inputs ∧ Q (l.run inputs) now input := by
  induction inputs generalizing l with
  | nil => simp [Since, Throughout]
  | cons first inputs ih =>
    simp only [List.cons_append, Since, throughout_concat, ih, run_cons]
    tauto

/-- The other station asks for the end of data transfer, or data transfer is stopped. -/
def Withdraws (l : Link) (now : Nat) (input : LinkInput) : Prop :=
  input.receives .stopAct = true ∨ l.state = .started ∧ (l.step now input).state = .stopped

instance (l : Link) (now : Nat) (input : LinkInput) : Decidable (l.Withdraws now input) :=
  inferInstanceAs (Decidable (_ ∨ _))

/-- In a run of a link, the other station has asked for the start of data transfer; since then it
has not asked for the end, and data transfer has not been stopped. -/
def StartWanted (l : Link) (inputs : List (Nat × LinkInput)) : Prop :=
  l.Since (fun _ _ input => input.receives .startAct = true)
    (fun l now input => ¬l.Withdraws now input) inputs

instance (l : Link) (inputs : List (Nat × LinkInput)) : Decidable (l.StartWanted inputs) :=
  inferInstanceAs (Decidable (Since ..))

theorem startWanted_concat (l : Link) (inputs : List (Nat × LinkInput)) (now : Nat)
    (input : LinkInput) :
    l.StartWanted (inputs ++ [(now, input)]) ↔
      input.receives .startAct = true ∨
        l.StartWanted inputs ∧ ¬(l.run inputs).Withdraws now input :=
  since_concat ..

/-- A call that lets the other station start data transfer does not wait for it: data transfer is
started with the call. -/
def GrantsStart (l : Link) (now : Nat) (input : LinkInput) : Prop :=
  input.awaitsStart = true ∧ l.state = .stopped ∧ (l.step now input).state = .started

/-- The link remembers that the other station asked for the start of data transfer, and what happens
makes this out of date: the other station asks for the end, or confirms that data transfer is
started. -/
def Outdates (l : Link) (input : LinkInput) : Prop :=
  l.closed = none ∧ l.startRequested = true ∧
    (input.receives .stopAct = true ∨
      l.handshake.map (·.function) = some .startAct ∧ input.confirms .startAct = true)

instance (l : Link) (input : LinkInput) : Decidable (l.Outdates input) :=
  inferInstanceAs (Decidable (_ ∧ _ ∧ (_ ∨ _ ∧ _)))

end Link

/-! ### How a request is remembered -/

section Remembered

variable {e e' : Endpoint} {t t' : Transfer} {now : Nat} {input : LinkInput} {apdu : Apdu}

/-- Nothing that happens at the station itself makes a link remember a request. -/
theorem Endpoint.Act.requested (h : e.Act now input e') (hrequested : e'.requested = true) :
    e.requested = true := by
  cases h with
  | confirmsStart => cases hrequested
  | @passes owed _ _ howed htested =>
    cases howed <;> cases htested <;> exact hrequested
  | _ => exact hrequested

/-- A call that starts data transfer at once uses up the request. -/
theorem Endpoint.Act.requested_of_started (h : e.Act now input e') (hstopped : e.state = .stopped)
    (hstarted : e'.state = .started) :
    e.closed = none ∧ e.requested = true ∧ e'.requested = false := by
  cases h with
  | confirmsStart hopen _ _ hrequested => exact ⟨hopen, hrequested, rfl⟩
  | @passes owed _ _ howed htested =>
    have hstate : e'.state = e.state := by cases howed <;> cases htested <;> rfl
    cases hstopped.symm.trans (hstate.symm.trans hstarted)
  | _ => cases hstopped.symm.trans hstarted

/-- A frame of the other station leaves a request as it is, unless it is one. -/
theorem Endpoint.Receive.requested (h : e.Receive apdu e') :
    e'.requested = e.requested ∨
      apdu.control = .unnumbered .startAct ∧ e'.state = .stopped := by
  cases h with
  | startRequested hstate => exact .inr ⟨rfl, hstate⟩
  | stoppedByOther _ howed | stoppedAlready _ howed =>
    subst howed
    left
    split <;> rfl
  | _ => exact .inl rfl

/-- Only the call that lets the other station start data transfer begins to wait for it. -/
theorem Transfer.Move.startWaiter (h : t.Move now input t') :
    t'.startWaiter = none ∨ t'.startWaiter = t.startWaiter ∨ input.awaitsStart = true := by
  cases h with
  | closes | startedByOther => exact .inl rfl
  | awaitsStart => exact .inr (.inr rfl)
  | _ => exact .inr (.inl rfl)

end Remembered

namespace Link

variable {l : Link} {now : Nat} {input : LinkInput}

/-- A link that remembers a request does not let a call wait for one. -/
theorem startWaiter_awaitStart (hrequested : l.startRequested = true)
    (hwaiter : l.startWaiter = none) (call : CallId) (listener : ListenerId) (timeout : Nat) :
    (l.awaitStart now call listener timeout).startWaiter = none := by
  have hsame {l' : Link} (h : l'.transfer.startWaiter = l.transfer.startWaiter) :
      l'.startWaiter = none := h.trans hwaiter
  unfold awaitStart
  split
  · exact hsame (by rw [transfer_finish])
  · split
    · exact hsame (by rw [transfer_finish])
    · simp only
      split
      · exact hsame (by rw [transfer_finish, transfer_register])
      · rw [if_pos (by exact hrequested)]
        exact hsame (by rw [transfer_finish, transfer_confirmStart]; rfl)

/-- A request is not remembered if a call waits for it. -/
theorem startRequested_handleStart (hwaiter : l.startWaiter ≠ none) :
    (l.handleUnnumbered now .startAct).startRequested = l.startRequested := by
  have hsame {l' : Link} (h : l'.endpoint.requested = l.endpoint.requested) :
      l'.startRequested = l.startRequested := h
  simp only [handleUnnumbered]
  split
  · exact hsame (by rw [endpoint_transmit]; rfl)
  · split
    · exact hsame (by rw [endpoint_finish, endpoint_confirmStart]; rfl)
    · next hnone => exact absurd hnone hwaiter

/-- Either the other station waits for a call, or a call for the other station. -/
theorem startWaiter_step (h : l.startRequested = true → l.startWaiter = none)
    (hrequested : (l.step now input).startRequested = true) :
    (l.step now input).startWaiter = none := by
  rcases (l.transfer_step now input).startWaiter with hnone | hsame | hcall
  · exact hnone
  · have hsame : (l.step now input).startWaiter = l.startWaiter := hsame
    rw [hsame]
    by_contra hwaiter
    -- The request is older than the step, which it cannot be beside a call that waits.
    refine hwaiter (h ?_)
    rcases l.step_cases now input with ⟨-, hact⟩ | ⟨apdu, rfl, hopen, hreceive⟩ | ⟨-, -, -, heq⟩
    · exact hact.requested hrequested
    · rcases hreceive.requested with heq | ⟨hcontrol, -⟩
      · exact heq.symm.trans hrequested
      · rw [step, handleFrame_of_open now hopen, hcontrol] at hrequested
        have hwaiter : (l.rearmIdle now).startWaiter ≠ none := by
          have hrearm : (l.rearmIdle now).startWaiter = l.startWaiter :=
            congrArg Transfer.startWaiter (transfer_rearmIdle l now)
          rwa [hrearm]
        rw [startRequested_handleStart hwaiter] at hrequested
        exact (congrArg Endpoint.requested (endpoint_rearmIdle l now)).symm.trans hrequested
    · rwa [heq] at hrequested
  · cases input with
    | call call request =>
      cases request with
      | awaitStart listener timeout =>
        have hbefore : l.startRequested = true :=
          (endpoint_awaitStart l now call (.call call (.awaitStart listener timeout)) listener
            timeout).requested hrequested
        exact startWaiter_awaitStart hbefore (h hbefore) call listener timeout
      | _ => cases hcall
    | _ => cases hcall

theorem startWaiter_run (h : l.startRequested = true → l.startWaiter = none)
    (inputs : List (Nat × LinkInput)) (hrequested : (l.run inputs).startRequested = true) :
    (l.run inputs).startWaiter = none := by
  induction inputs generalizing l with
  | nil => exact h hrequested
  | cons input inputs ih => exact ih (startWaiter_step h) hrequested

/-! ### Whether it is wanted -/

/-- While what is remembered is not out of date, a link that remembers a request stays stopped. -/
theorem state_of_remembered (hopen : l.closed = none) (hrequested : l.startRequested = true)
    (hstopped : l.state = .stopped) (hwaiter : l.startWaiter = none) (hcalm : ¬l.Outdates input)
    (hremembered : (l.step now input).startRequested = true) :
    (l.step now input).state = .stopped := by
  by_contra hstate
  have hstarted : (l.step now input).state = .started := LinkState.eq_started_of_ne hstate
  rcases l.step_cases now input with ⟨-, hact⟩ | ⟨apdu, rfl, -, -⟩ | ⟨-, -, -, heq⟩
  · obtain ⟨-, -, hused⟩ := hact.requested_of_started hstopped hstarted
    cases hremembered.symm.trans hused
  · -- Only a confirmation can start data transfer: no call waits for the other station.
    have hmove := l.transfer_step now (.frame apdu)
    have hstarted : (l.step now (.frame apdu)).transfer.state = .started := hstarted
    revert hmove hstarted
    generalize (l.step now (.frame apdu)).transfer = t
    intro hmove hstarted
    cases hmove with
    | startedByOther _ _ hsome => cases hwaiter.symm.trans hsome
    | confirmed goal _ hhandshake hfunction hconfirms =>
      obtain rfl : goal = .started := hstarted
      exact hcalm ⟨hopen, hrequested,
        .inr ⟨Option.map_eq_some_iff.mpr ⟨_, hhandshake, hfunction⟩, hconfirms⟩⟩
    | stays | closes => cases hstopped.symm.trans hstarted
    | stoppedByOther => cases hstarted
  · rw [heq] at hstate
    exact hstate hstopped

/-- What a link remembers of the other station's wish is what the other station wants. -/
def RemembersWish (l : Link) (inputs : List (Nat × LinkInput)) : Prop :=
  (l.run inputs).closed = none → (l.run inputs).startRequested = true →
    (l.run inputs).state = .stopped ∧ l.StartWanted inputs

variable {inputs : List (Nat × LinkInput)}

theorem remembersWish_concat (hwaiter : (l.run inputs).startRequested = true →
      (l.run inputs).startWaiter = none)
    (h : l.RemembersWish inputs) (hcalm : ¬(l.run inputs).Outdates input) :
    l.RemembersWish (inputs ++ [(now, input)]) := by
  unfold RemembersWish
  rw [run_append, startWanted_concat]
  intro hopen hremembered
  have hopen : (l.run inputs).closed = none :=
    ((l.run inputs).transfer_step now input).open_before hopen
  by_cases hrequested : (l.run inputs).startRequested = true
  · obtain ⟨hstopped, hwanted⟩ := h hopen hrequested
    have hstate := state_of_remembered hopen hrequested hstopped (hwaiter hrequested) hcalm
      hremembered
    refine ⟨hstate, .inr ⟨hwanted, ?_⟩⟩
    rintro (hreceives | ⟨hstarted, -⟩)
    · exact hcalm ⟨hopen, hrequested, .inl hreceives⟩
    · cases hstopped.symm.trans hstarted
  · -- The request is that of the step.
    rcases (l.run inputs).step_cases now input with
      ⟨-, hact⟩ | ⟨apdu, rfl, -, hreceive⟩ | ⟨-, -, -, heq⟩
    · exact absurd (hact.requested hremembered) hrequested
    · rcases hreceive.requested with heq | ⟨hcontrol, hstate⟩
      · exact absurd (heq.symm.trans hremembered) hrequested
      · exact ⟨hstate, .inl (LinkInput.receives_iff.mpr ⟨apdu, rfl, hcontrol⟩)⟩
    · exact absurd ((congrArg startRequested heq).symm.trans hremembered) hrequested

/-- The end of data transfer is confirmed, and a request to start it stays remembered. -/
theorem requested_of_receives_stopAct (now : Nat) (hopen : l.closed = none)
    (hreceives : input.receives .stopAct = true) :
    (l.step now input).closed = none ∧ (l.step now input).startRequested = l.startRequested := by
  obtain ⟨apdu, rfl, hcontrol⟩ := LinkInput.receives_iff.mp hreceives
  have hreceive := endpoint_handleFrame now hopen apdu
  show (l.handleFrame now apdu).endpoint.closed = none ∧
    (l.handleFrame now apdu).endpoint.requested = l.endpoint.requested
  have hopen : l.endpoint.closed = none := hopen
  revert hreceive
  generalize (l.handleFrame now apdu).endpoint = e
  intro hreceive
  cases hreceive with
  | stoppedByOther _ howed | stoppedAlready _ howed =>
    subst howed
    split <;> exact ⟨hopen, rfl⟩
  | _ => cases hcontrol

/-- Data transfer is started by a confirmation, and a request to start it stays remembered. -/
theorem requested_of_confirms_startAct (now : Nat) (hopen : l.closed = none)
    (hhandshake : l.handshake.map (·.function) = some .startAct)
    (hconfirms : input.confirms .startAct = true) :
    (l.step now input).closed = none ∧ (l.step now input).state = .started ∧
      (l.step now input).startRequested = l.startRequested := by
  obtain ⟨handshake, hhandshake, hfunction⟩ := Option.map_eq_some_iff.mp hhandshake
  have htransfer : (l.step now input).transfer =
      { l.transfer with handshake := none }.enter .started :=
    transfer_confirmed hopen hhandshake hfunction hconfirms
  refine ⟨(congrArg Transfer.closed htransfer).trans hopen, congrArg Transfer.state htransfer, ?_⟩
  obtain ⟨apdu, rfl, hcontrol⟩ := LinkInput.confirms_iff.mp hconfirms
  rcases (endpoint_handleFrame now hopen apdu).requested with heq | ⟨hcontrol', -⟩
  · exact heq
  · cases hcontrol.symm.trans hcontrol'

/-- A request that is out of date is remembered nevertheless. -/
theorem not_remembersWish_concat (now : Nat) (houtdates : (l.run inputs).Outdates input) :
    ¬l.RemembersWish (inputs ++ [(now, input)]) := by
  obtain ⟨hopen, hrequested, hinput⟩ := houtdates
  unfold RemembersWish
  rw [run_append, startWanted_concat]
  intro hremembers
  rcases hinput with hreceives | ⟨hhandshake, hconfirms⟩
  · obtain ⟨hopen', hsame⟩ := requested_of_receives_stopAct now hopen hreceives
    obtain ⟨-, hstart | ⟨-, hkept⟩⟩ := hremembers hopen' (hsame.trans hrequested)
    · obtain ⟨apdu, rfl, hcontrol⟩ := LinkInput.receives_iff.mp hreceives
      obtain ⟨_, ⟨⟩, hcontrol'⟩ := LinkInput.receives_iff.mp hstart
      cases hcontrol.symm.trans hcontrol'
    · exact hkept (.inl hreceives)
  · obtain ⟨hopen', hstarted, hsame⟩ :=
      requested_of_confirms_startAct now hopen hhandshake hconfirms
    obtain ⟨hstopped, -⟩ := hremembers hopen' (hsame.trans hrequested)
    cases hstarted.symm.trans hstopped

/-- What is remembered is the wish of the other station throughout a run, exactly if it never
becomes out of date. -/
theorem remembersWish_run_iff (hwaiter : ∀ inputs, (l.run inputs).startRequested = true →
      (l.run inputs).startWaiter = none) (hnew : l.startRequested = false)
    (inputs : List (Nat × LinkInput)) :
    (∀ before, before <+: inputs → l.RemembersWish before) ↔
      l.Throughout (fun l _ input => ¬l.Outdates input) inputs := by
  induction inputs using List.reverseRecOn with
  | nil =>
    refine iff_of_true (fun before hbefore => ?_) trivial
    rw [List.prefix_nil.mp hbefore]
    intro _ hrequested
    cases hnew.symm.trans hrequested
  | append_singleton inputs input ih =>
    obtain ⟨now, input⟩ := input
    rw [throughout_concat, ← ih]
    constructor
    · intro h
      have hbefore : ∀ before, before <+: inputs → l.RemembersWish before :=
        fun before hbefore => h before (hbefore.trans (List.prefix_append _ _))
      exact ⟨hbefore, fun houtdates =>
        not_remembersWish_concat now houtdates (h _ List.prefix_rfl)⟩
    · rintro ⟨h, hcalm⟩ before hbefore
      rcases List.prefix_concat_iff.mp hbefore with rfl | hbefore
      · exact remembersWish_concat (hwaiter inputs) (h inputs List.prefix_rfl) hcalm
      · exact h before hbefore

/-- A start that is granted with a call was requested before. -/
theorem requested_of_grantsStart (h : l.GrantsStart now input) :
    l.closed = none ∧ l.startRequested = true := by
  obtain ⟨hawaits, hstopped, hstarted⟩ := h
  rcases l.step_cases now input with ⟨-, hact⟩ | ⟨apdu, rfl, -, -⟩ | ⟨apdu, rfl, -, -⟩
  · obtain ⟨hopen, hrequested, -⟩ := hact.requested_of_started hstopped hstarted
    exact ⟨hopen, hrequested⟩
  · cases hawaits
  · cases hawaits

/-- At every point of a run, a request that an open link remembers is one of a link on which data
transfer is stopped, and is still wanted; and a call that starts data transfer at once does so when
the other station wants it: exactly if what is remembered never becomes out of date. -/
theorem start_wanted_iff (settings : Settings) (extension : Option Extension)
    (inputs : List (Nat × LinkInput)) :
    (∀ before, before <+: inputs →
      let l := (new settings extension).run before
      (l.closed = none → l.startRequested = true →
        l.state = .stopped ∧ (new settings extension).StartWanted before) ∧
      ∀ now input, l.GrantsStart now input → (new settings extension).StartWanted before) ↔
      (new settings extension).Throughout (fun l _ input => ¬l.Outdates input) inputs := by
  have hwaiter : (new settings extension).startRequested = true →
      (new settings extension).startWaiter = none := fun _ => rfl
  rw [← remembersWish_run_iff (startWaiter_run hwaiter) rfl]
  refine forall₂_congr fun before _ => ⟨fun h => h.1, fun h => ⟨h, fun now input hgrants => ?_⟩⟩
  obtain ⟨hopen, hrequested⟩ := requested_of_grantsStart hgrants
  exact (h hopen hrequested).2

/-- The other station asks for the start of data transfer, this one starts it and stops it, and
both confirm. -/
def startAskedAndStopped : List (Nat × LinkInput) :=
  [(0, .frame (.unnumbered .startAct)), (1, .call 0 (.start 0 9)),
    (2, .frame (.unnumbered .startCon)), (3, .call 1 .stop), (4, .frame (.unnumbered .stopCon))]

/-- Data transfer is started again with a call, for which nobody asked. -/
theorem outdated_request_starts :
    let l := (new {} none).run startAskedAndStopped
    l.closed = none ∧ l.GrantsStart 5 (.call 2 (.awaitStart 1 9)) ∧
      (l.step 5 (.call 2 (.awaitStart 1 9))).endpoint.frames =
        l.endpoint.frames ++ [.unnumbered .startCon] ∧
      ¬(new {} none).StartWanted startAskedAndStopped := by
  exact ⟨rfl, ⟨rfl, rfl, rfl⟩, rfl, by decide⟩

end Link

end Telecontrol
