import Telecontrol.Proofs.Link.Supervision
import Telecontrol.Proofs.Link.Transfer

/-!
# One exchange at a time

A link should take part in one exchange that starts or stops data transfer at a time: either it
has sent an activation that is not yet confirmed, or a call waits for the activation of the other
station, and once data transfer is started nothing waits for the start (`Transfer.Exclusive`).
Every step preserves this but one: `start` does not look for a call that waits, so that it may
send an activation beside it (`Link.Contends`). Without such a call, a connection on which data
transfer is started is not closed because a start took too long
(`Link.exchanges_exclusive_iff`); with it, it may be (`Link.started_link_times_out`).
-/

namespace Telecontrol

/-- A call asks for the start of data transfer. -/
def LinkInput.asksStart : LinkInput → Bool
  | .call _ (.start _ _) => true
  | _ => false

namespace Transfer

/-- At most one exchange is outstanding, and none that starts data transfer once it is started. -/
structure Exclusive (t : Transfer) : Prop where
  single : t.handshake = none ∨ t.startWaiter = none
  started : t.state = .started →
    t.startWaiter = none ∧ t.handshake.map (·.function) ≠ some .startAct

variable {t t' : Transfer} {now : Nat} {input : LinkInput}

theorem Exclusive.of_stopped (hstate : t.state = .stopped)
    (hsingle : t.handshake = none ∨ t.startWaiter = none) : t.Exclusive :=
  ⟨hsingle, fun hstarted => by cases hstate.symm.trans hstarted⟩

theorem Exclusive.of_none (hhandshake : t.handshake = none) (hwaiter : t.startWaiter = none) :
    t.Exclusive :=
  ⟨.inl hhandshake, fun _ => ⟨hwaiter, by simp [hhandshake]⟩⟩

/-- Unless an activation is sent beside a call that waits, exchanges stay exclusive. -/
theorem Exclusive.move (h : t.Exclusive) (hmove : t.Move now input t')
    (hcalm : ¬(t.startWaiter ≠ none ∧ input.asksStart = true)) : t'.Exclusive := by
  cases hmove with
  | stays => exact h
  | closes => exact .of_none rfl rfl
  | asksStart _ hstate =>
    have hwaiter : t.startWaiter = none := by simpa [LinkInput.asksStart] using hcalm
    exact .of_stopped hstate (.inr hwaiter)
  | asksStop _ hstate =>
    obtain ⟨hwaiter, -⟩ := h.started hstate
    exact ⟨.inr hwaiter, fun _ => ⟨hwaiter, nofun⟩⟩
  | awaitsStart _ hstate hhandshake => exact .of_stopped hstate (.inl hhandshake)
  | grantsStart _ _ hhandshake hwaiter => exact .of_none hhandshake hwaiter
  | startedByOther _ _ hwaiter =>
    exact .of_none (h.single.resolve_right (by simp [hwaiter])) rfl
  | stoppedByOther => exact .of_stopped rfl h.single
  | confirmed _ _ hhandshake =>
    exact .of_none rfl (h.single.resolve_left (by simp [hhandshake]))

end Transfer

namespace Link

/-- A call asks for the start of data transfer while another waits for the other station to start
it. -/
def Contends (l : Link) (input : LinkInput) : Prop :=
  l.startWaiter ≠ none ∧ input.asksStart = true

instance (l : Link) (input : LinkInput) : Decidable (l.Contends input) :=
  inferInstanceAs (Decidable (_ ∧ _))

variable {l : Link} {now : Nat} {input : LinkInput}

/-- The activation is sent, and both wait. -/
theorem not_exclusive_of_contends (hsound : l.transfer.Sound) (h : l.transfer.Exclusive)
    (hcontends : l.Contends input) : ¬(l.step now input).transfer.Exclusive := by
  obtain ⟨hwaiter, hasks⟩ := hcontends
  have hhandshake : l.handshake = none := h.single.resolve_right hwaiter
  have hopen : l.closed = none := by
    by_contra hclosed
    exact hwaiter (hsound.closed hclosed).2
  have hstate : l.state = .stopped :=
    LinkState.eq_stopped_of_ne fun hstarted => hwaiter (h.started hstarted).1
  cases input with
  | call call request =>
    cases request with
    | start listener timeout =>
      intro hexclusive
      rw [step, handleCall, transfer_start hopen hstate hhandshake] at hexclusive
      rcases hexclusive.single with hnone | hnone
      · cases hnone
      · exact hwaiter hnone
    | _ => cases hasks
  | _ => cases hasks

/-- A link on which data transfer is started has no deadline for the start. -/
theorem handshakeOverdue_eq_false (hsound : l.transfer.Sound) (h : l.transfer.Exclusive)
    (hstate : l.state = .started) (call : CallId) : l.handshakeOverdue now call = false := by
  have hwaiter : l.startWaiter = none := (h.started hstate).1
  cases hhandshake : l.handshake with
  | none => simp [handshakeOverdue, hwaiter, hhandshake]
  | some handshake =>
    have hfunction : handshake.function ≠ .startAct := fun heq =>
      (h.started hstate).2 (Option.map_eq_some_iff.mpr ⟨handshake, hhandshake, heq⟩)
    have hdeadline : handshake.deadline? = none :=
      (hsound.deadline handshake hhandshake).resolve_left hfunction
    simp [handshakeOverdue, hwaiter, hhandshake, hdeadline]

/-- Data transfer that is started is not started too late. A stream does not fail for that
cause. -/
theorem closed_ne_timeout (hsound : l.transfer.Sound) (h : l.transfer.Exclusive)
    (hextension : ∀ x, l.extension = some x → x.RefusesInvalid)
    (hstream : input ≠ .lost (.timeout .start)) (hopen : l.closed = none)
    (hstate : l.state = .started) : (l.step now input).closed ≠ some (.timeout .start) := by
  intro hclosed
  by_cases hframe : ∃ apdu, input = .frame apdu
  · obtain ⟨apdu, rfl⟩ := hframe
    exact (endpoint_handleFrame now hopen apdu).closed_ne_timeout hopen hextension _ hclosed
  · have hcause : input.closesWith (.timeout .start) :=
      (closing_step hopen hclosed).2 fun apdu hinput => hframe ⟨apdu, hinput⟩
    cases input with
    | expire call =>
      -- The connection was not closed, for no start is overdue.
      simp only [step, expire, handshakeOverdue_eq_false hsound h hstate, Bool.false_eq_true,
        if_false] at hclosed
      split at hclosed <;> cases hopen.symm.trans hclosed
    | lost cause => exact hstream (congrArg LinkInput.lost hcause.symm)
    | _ => cases hcause

/-- A step leaves exchanges exclusive, and no connection on which data transfer is started is closed
because a start took too long, exactly if no activation is sent beside a call that waits. -/
theorem exclusive_step_iff (now : Nat) (hsound : l.transfer.Sound) (h : l.transfer.Exclusive)
    (hextension : ∀ x, l.extension = some x → x.RefusesInvalid)
    (hstream : input ≠ .lost (.timeout .start)) :
    ((l.step now input).transfer.Exclusive ∧
        (l.closed = none → l.state = .started →
          (l.step now input).closed ≠ some (.timeout .start))) ↔
      ¬l.Contends input := by
  constructor
  · rintro ⟨hexclusive, -⟩ hcontends
    exact not_exclusive_of_contends hsound h hcontends hexclusive
  · intro hcalm
    exact ⟨h.move (l.transfer_step now input) hcalm,
      fun hopen hstate => closed_ne_timeout hsound h hextension hstream hopen hstate⟩

theorem exclusive_run_iff (hsound : l.transfer.Sound) (h : l.transfer.Exclusive)
    (hextension : ∀ x, l.extension = some x → x.RefusesInvalid) {inputs : List (Nat × LinkInput)}
    (hstream : ∀ input ∈ inputs, input.2 ≠ .lost (.timeout .start)) :
    l.Throughout (fun l now input =>
        (l.step now input).transfer.Exclusive ∧
          (l.closed = none → l.state = .started →
            (l.step now input).closed ≠ some (.timeout .start))) inputs ↔
      l.Throughout (fun l _ input => ¬l.Contends input) inputs := by
  induction inputs generalizing l with
  | nil => exact Iff.rfl
  | cons input inputs ih =>
    have hstep := exclusive_step_iff input.1 hsound h hextension
      (hstream input List.mem_cons_self)
    refine Iff.trans (and_congr_right fun hkept => ?_) (and_congr_left' hstep)
    refine ih ((l.transfer_step input.1 input.2).sound hsound) hkept.1 ?_
      fun other hother => hstream other (List.mem_cons_of_mem _ hother)
    have hsame : (l.step input.1 input.2).extension = l.extension :=
      (l.sameSetup_step input.1 input.2).2
    rwa [hsame]

/-- Whatever the calls and the other station do, at most one exchange that starts or stops data
transfer is outstanding, none that starts it once it is started, and no connection on which it is
started is closed because a start took too long, exactly if no call asks for the start while another
waits for the other station to start data transfer. That the stream or an extension of the format
fails for just that cause is excluded. -/
theorem exchanges_exclusive_iff (settings : Settings) (extension : Option Extension)
    (hextension : ∀ x, extension = some x → x.RefusesInvalid) (inputs : List (Nat × LinkInput))
    (hstream : ∀ input ∈ inputs, input.2 ≠ .lost (.timeout .start)) :
    (new settings extension).Throughout (fun l now input =>
        (l.step now input).transfer.Exclusive ∧
          (l.closed = none → l.state = .started →
            (l.step now input).closed ≠ some (.timeout .start))) inputs ↔
      (new settings extension).Throughout (fun l _ input => ¬l.Contends input) inputs :=
  exclusive_run_iff (transfer_new settings extension) (.of_none rfl rfl) hextension hstream

/-- Data transfer is started by the other station, stopped, and started by this station. -/
def startsInTurn : List (Nat × LinkInput) :=
  [(0, .call 0 (.awaitStart 0 9)), (1, .frame (.unnumbered .startAct)), (2, .call 1 .stop),
    (3, .frame (.unnumbered .stopCon)), (4, .call 2 (.start 1 9)),
    (5, .frame (.unnumbered .startCon)), (13, .expire 2)]

/-- The deadline of the second start has passed, but the link is started and stays open. -/
theorem starts_in_turn_exclusive :
    (∀ input ∈ startsInTurn, input.2 ≠ .lost (.timeout .start)) ∧
      (new {} none).Throughout (fun l _ input => ¬l.Contends input) startsInTurn ∧
      (new {} none).Throughout (fun l now input =>
        (l.step now input).transfer.Exclusive ∧
          (l.closed = none → l.state = .started →
            (l.step now input).closed ≠ some (.timeout .start))) startsInTurn := by
  have hstream : ∀ input ∈ startsInTurn, input.2 ≠ .lost (.timeout .start) := by decide
  have hcalm : (new {} none).Throughout (fun l _ input => ¬l.Contends input) startsInTurn := by
    decide
  exact ⟨hstream, hcalm, (exchanges_exclusive_iff _ none nofun startsInTurn hstream).mpr hcalm⟩

/-- A call waits for the other station to start data transfer, and another asks for the start. -/
def contendingStarts : List (Nat × LinkInput) :=
  [(0, .call 0 (.awaitStart 0 9)), (1, .call 1 (.start 1 5)), (2, .frame (.unnumbered .startAct))]

/-- The second call waits on when the other station has started data transfer, and ends the
connection. -/
theorem started_link_times_out :
    ¬((new {} none).run (contendingStarts.take 2)).transfer.Exclusive ∧
      let l := (new {} none).run contendingStarts
      l.closed = none ∧ l.state = .started ∧ ¬l.transfer.Exclusive ∧
        (l.step 6 (.expire 1)).closed = some (.timeout .start) := by
  refine ⟨fun h => ?_, rfl, rfl, fun h => (h.started rfl).2 rfl, rfl⟩
  rcases h.single with hnone | hnone <;> cases hnone

end Link

end Telecontrol
