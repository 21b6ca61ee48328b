import Mathlib.Data.List.Induction
import Mathlib.Data.List.Pairwise
import Telecontrol.Proofs.Link.Station
import Telecontrol.Proofs.Link.Watch

/-!
# The journal of a station

A `Journal` keeps instants, which a ledger does not: when information frames were accepted, and
when the activations were sent that are not yet confirmed. It is kept by looking at the frames
that are sent and received only. `Journal.Sound` says that an open station agrees with it: a test
of the link and a stop of data transfer are remembered by the link exactly as long as the
journal has them. If the clock never goes back, what a station enters into its ledger and its
journal has the order of time (`Station.stamps_sent`, `Station.stamps_arrivals`).
-/

namespace Telecontrol

/-- A frame is received that confirms an activation. -/
def LinkInput.confirms (function : LinkFunction) : LinkInput → Bool
  | .frame apdu => apdu.control == .unnumbered function.confirmation
  | _ => false

/-- A frame is received that has a function. -/
def LinkInput.receives (function : LinkFunction) : LinkInput → Bool
  | .frame apdu => apdu.control == .unnumbered function
  | _ => false

theorem LinkInput.confirms_iff {input : LinkInput} {function : LinkFunction} :
    input.confirms function = true ↔
      ∃ apdu, input = .frame apdu ∧ apdu.control = .unnumbered function.confirmation := by
  cases input <;> simp [confirms]

theorem LinkInput.receives_iff {input : LinkInput} {function : LinkFunction} :
    input.receives function = true ↔
      ∃ apdu, input = .frame apdu ∧ apdu.control = .unnumbered function := by
  cases input <;> simp [receives]

/-- The frames that send an activation. -/
def sending (function : LinkFunction) (frames : List Apdu) : List Apdu :=
  frames.filter fun apdu => apdu.control == .unnumbered function

/-- The instants at which information frames are accepted in a step: none, or the instant of the
step. -/
def Endpoint.arrivals (e : Endpoint) (now : Nat) : LinkInput → List Nat
  | .frame apdu => (e.accepts? apdu).toList.map fun _ => now
  | _ => []

theorem Endpoint.arrivals_of_not_frame (e : Endpoint) (now : Nat) {input : LinkInput}
    (h : ∀ apdu, input ≠ .frame apdu) : e.arrivals now input = [] := by
  cases input with
  | frame apdu => exact absurd rfl (h apdu)
  | _ => rfl

theorem LinkInput.confirms_of_not_frame {input : LinkInput} (h : ∀ apdu, input ≠ .frame apdu)
    (function : LinkFunction) : input.confirms function = false := by
  cases input with
  | frame apdu => exact absurd rfl (h apdu)
  | _ => rfl

/-- When frames were accepted and activations sent. -/
structure Journal where
  /-- The instants at which information frames were accepted, oldest first. -/
  arrivals : List Nat := []
  /-- How many information frames had been accepted when the end of data transfer was last
  confirmed to this station. -/
  stopped : Nat := 0
  /-- The instants at which the tests of the link were sent that are not confirmed. -/
  tests : List Nat := []
  /-- The instants at which the activations were sent that stop data transfer and are not
  confirmed. -/
  stops : List Nat := []

namespace Journal

/-- The instants of unconfirmed activations of a kind after a step. -/
def unconfirmed (function : LinkFunction) (earlier : List Nat) (now : Nat) (input : LinkInput)
    (frames : List Apdu) : List Nat :=
  (if input.confirms function then [] else earlier) ++ (sending function frames).map fun _ => now

/-- Enter what happens in a step from one endpoint to another. -/
def record (j : Journal) (e : Endpoint) (now : Nat) (input : LinkInput) (e' : Endpoint) :
    Journal where
  arrivals := j.arrivals ++ e.arrivals now input
  stopped := if input.confirms .stopAct then j.arrivals.length else j.stopped
  tests := unconfirmed .testAct j.tests now input (e'.frames.drop e.frames.length)
  stops := unconfirmed .stopAct j.stops now input (e'.frames.drop e.frames.length)

end Journal

/-! ### Activations and their confirmations -/

/-- What a step does to an activation of a kind that is awaited or not: nothing, or it is sent, or
it is confirmed. -/
inductive Pends : Bool → List Apdu → Bool → Bool → Prop
  | keeps {awaited} : Pends awaited [] false awaited
  | begins {apdu} : Pends false [apdu] false true
  | ends {awaited} : Pends awaited [] true false

/-- The journal has the instant of an activation exactly if it is awaited. -/
theorem Pends.unconfirmed_eq {function : LinkFunction} {awaited awaited' : Bool}
    {frames : List Apdu} {input : LinkInput} {now : Nat} {kept kept' : Option Nat}
    (h : Pends awaited (sending function frames) (input.confirms function) awaited')
    (hkept : kept.isSome = awaited) (hkept' : kept'.isSome = awaited')
    (hstamped : Stamped now kept kept') :
    Journal.unconfirmed function kept.toList now input frames = kept'.toList := by
  unfold Journal.unconfirmed
  revert h
  generalize sending function frames = sent
  generalize input.confirms function = confirmed
  intro h
  cases h with
  | keeps =>
    rw [if_neg Bool.false_ne_true, List.map_nil, List.append_nil,
      hstamped.eq_of_isSome (hkept'.trans hkept.symm)]
  | begins =>
    cases hstamped with
    | keeps => cases hkept.symm.trans hkept'
    | drops => cases hkept'
    | sets => rfl
  | ends =>
    have hnone : kept' = none := by simpa using hkept'
    rw [if_pos rfl, hnone]
    rfl

namespace Endpoint

/-- The confirmation of an activation is awaited. -/
def awaits (e : Endpoint) : LinkFunction → Bool
  | .testAct => e.testing
  | function => e.pending == some function

/-- What a step does to the activations of a kind. -/
def Awaiting (function : LinkFunction) (e : Endpoint) (confirmed : Bool) (e' : Endpoint) : Prop :=
  ∃ frames, e'.frames = e.frames ++ frames ∧
    Pends (e.awaits function) (sending function frames) confirmed (e'.awaits function)

variable {e e' e₁ : Endpoint} {now : Nat} {input : LinkInput} {apdu : Apdu}
  {function : LinkFunction} {confirmed : Bool}

@[simp] theorem awaits_testAct (e : Endpoint) : e.awaits .testAct = e.testing := rfl

@[simp] theorem awaits_stopAct (e : Endpoint) :
    e.awaits .stopAct = (e.pending == some .stopAct) := rfl

theorem awaits_congr (htesting : e'.testing = e.testing) (hpending : e'.pending = e.pending)
    (function : LinkFunction) : e'.awaits function = e.awaits function := by
  cases function <;> simp only [awaits, htesting, hpending]

namespace Awaiting

/-- Frames of other kinds are sent, and no activation is confirmed. -/
theorem idle (frames : List Apdu) (hframes : e'.frames = e.frames ++ frames)
    (hsending : sending function frames = []) (hawaits : e'.awaits function = e.awaits function) :
    Awaiting function e false e' := by
  refine ⟨frames, hframes, ?_⟩
  rw [hsending, hawaits]
  exact .keeps

/-- Before an activation is sent, frames of other kinds may be. -/
theorem after (h : Awaiting function e₁ confirmed e') (frames : List Apdu)
    (hframes : e₁.frames = e.frames ++ frames) (hsending : sending function frames = [])
    (hawaits : e₁.awaits function = e.awaits function) : Awaiting function e confirmed e' := by
  obtain ⟨rest, hrest, hpends⟩ := h
  refine ⟨frames ++ rest, by rw [hrest, hframes, List.append_assoc], ?_⟩
  rw [sending, List.filter_append, ← sending, hsending, List.nil_append, ← sending, ← hawaits]
  exact hpends

end Awaiting

/-- What happens at the station itself confirms no activation. -/
theorem Act.awaiting (h : e.Act now input e') (hopen : e'.closed = none)
    (hfunction : function = .testAct ∨ function = .stopAct) : Awaiting function e false e' := by
  cases h with
  | silent => exact .idle [] (List.append_nil _).symm rfl rfl
  | closes => cases hopen
  | sends => exact .idle [.information _ _ _] rfl rfl (awaits_congr rfl rfl _)
  | asksStart _ _ hpending =>
    refine .idle [.unnumbered .startAct] rfl ?_ ?_ <;> rcases hfunction with rfl | rfl
    · rfl
    · rfl
    · rfl
    · rw [awaits_stopAct, awaits_stopAct, hpending]
      rfl
  | asksStop _ _ hpending =>
    refine ⟨[.unnumbered .stopAct], rfl, ?_⟩
    rcases hfunction with rfl | rfl
    · exact .keeps
    · rw [awaits_stopAct, hpending]
      exact .begins
  | confirmsStart =>
    refine .idle [.unnumbered .startCon] rfl ?_ (awaits_congr rfl rfl _)
    rcases hfunction with rfl | rfl <;> rfl
  | @passes owed _ _ howed htested =>
    have htested : Awaiting function owed false e' := by
      cases htested with
      | waits => exact .idle [] (List.append_nil _).symm rfl rfl
      | tests _ htesting =>
        refine ⟨[.unnumbered .testAct], rfl, ?_⟩
        rcases hfunction with rfl | rfl
        · rw [awaits_testAct, htesting]
          exact .begins
        · exact .keeps
    cases howed with
    | waits => exact htested
    | lapses => exact htested.after [] (List.append_nil _).symm rfl (awaits_congr rfl rfl _)
    | acknowledges => exact htested.after [.supervisory _] rfl rfl (awaits_congr rfl rfl _)

/-- A frame of the other station confirms an activation if its control field says so. -/
theorem Receive.awaiting (h : e.Receive apdu e') (hopen : e'.closed = none)
    (hfunction : function = .testAct ∨ function = .stopAct) :
    Awaiting function e ((LinkInput.frame apdu).confirms function) e' := by
  cases h with
  | supervisory | information =>
    exact .idle [] (List.append_nil _).symm rfl (awaits_congr rfl rfl _)
  | informationDue => exact .idle [.supervisory _] rfl rfl (awaits_congr rfl rfl _)
  | test =>
    rcases hfunction with rfl | rfl <;> exact .idle [.unnumbered .testCon] rfl rfl rfl
  | startedAlready | startedByOther =>
    rcases hfunction with rfl | rfl <;> exact .idle [.unnumbered .startCon] rfl rfl rfl
  | startRequested =>
    rcases hfunction with rfl | rfl <;> exact .idle [] (List.append_nil _).symm rfl rfl
  | tested =>
    refine ⟨[], (List.append_nil _).symm, ?_⟩
    rcases hfunction with rfl | rfl
    · exact .ends
    · exact .keeps
  | startConfirmed hpending =>
    rcases hfunction with rfl | rfl
    · exact .idle [] (List.append_nil _).symm rfl rfl
    · refine .idle [] (List.append_nil _).symm rfl ?_
      rw [awaits_stopAct, awaits_stopAct, hpending]
      rfl
  | stopConfirmed =>
    refine ⟨[], (List.append_nil _).symm, ?_⟩
    rcases hfunction with rfl | rfl
    · exact .keeps
    · exact .ends
  | stoppedByOther _ howed | stoppedAlready _ howed =>
    subst howed
    split
    · rcases hfunction with rfl | rfl <;>
        exact .idle [.supervisory _, .unnumbered .stopCon] (List.append_assoc _ _ _) rfl rfl
    · rcases hfunction with rfl | rfl <;> exact .idle [.unnumbered .stopCon] rfl rfl rfl
  | _ => cases hopen

end Endpoint

theorem Link.awaiting_step (l : Link) (now : Nat) (input : LinkInput)
    (hopen : (l.step now input).closed = none) {function : LinkFunction}
    (hfunction : function = .testAct ∨ function = .stopAct) :
    Endpoint.Awaiting function l.endpoint (input.confirms function)
      (l.step now input).endpoint := by
  rcases l.step_cases now input with
    ⟨hinput, hact⟩ | ⟨apdu, rfl, -, hreceive⟩ | ⟨apdu, rfl, hclosed, heq⟩
  · rw [LinkInput.confirms_of_not_frame hinput]
    exact hact.awaiting hopen hfunction
  · exact hreceive.awaiting hopen hfunction
  · rw [heq] at hopen
    exact absurd hopen hclosed

theorem Link.isSome_stopSent? (l : Link) :
    l.stopSent?.isSome = (l.endpoint.pending == some .stopAct) := by
  show (l.handshake.bind _).isSome = (l.handshake.map (·.function) == some .stopAct)
  cases l.handshake with
  | none => rfl
  | some h =>
    by_cases hfunction : h.function = .stopAct
    · simp [hfunction]
    · simp [hfunction]

/-! ### Runs -/

/-- An open station agrees with its journal. -/
structure Journal.Sound (j : Journal) (s : Station) : Prop where
  arrivals : j.arrivals.length = s.ledger.accepted.length
  stopped_le : j.stopped ≤ j.arrivals.length
  tests : s.link.closed = none → j.tests = s.link.testSent.toList
  stops : s.link.closed = none → j.stops = s.link.stopSent?.toList

namespace Station

/-- The journal of a station after a run. -/
def journal (s : Station) (j : Journal) : List (Nat × LinkInput) → Journal
  | [] => j
  | (now, input) :: inputs =>
    (s.step now input).journal (j.record s.endpoint now input (s.step now input).endpoint) inputs

theorem journal_concat (s : Station) (j : Journal) (inputs : List (Nat × LinkInput)) (now : Nat)
    (input : LinkInput) :
    s.journal j (inputs ++ [(now, input)]) =
      (s.journal j inputs).record (s.run inputs).endpoint now input
        ((s.run inputs).step now input).endpoint := by
  induction inputs generalizing s j with
  | nil => rfl
  | cons first inputs ih => exact ih _ _

variable {s : Station} {j : Journal}

theorem journal_step (h : j.Sound s) (now : Nat) (input : LinkInput) :
    (j.record s.endpoint now input (s.step now input).endpoint).Sound (s.step now input) := by
  have hunconfirmed {function : LinkFunction} {earlier : List Nat} {kept kept' : Option Nat}
      (hopen : (s.step now input).link.closed = none)
      (hfunction : function = .testAct ∨ function = .stopAct) (hearlier : earlier = kept.toList)
      (hkept : kept.isSome = s.endpoint.awaits function)
      (hkept' : kept'.isSome = (s.step now input).endpoint.awaits function)
      (hstamped : Stamped now kept kept') :
      Journal.unconfirmed function earlier now input
          ((s.step now input).endpoint.frames.drop s.endpoint.frames.length) = kept'.toList := by
    obtain ⟨frames, hframes, hpends⟩ := s.link.awaiting_step now input hopen hfunction
    have hframes : (s.step now input).endpoint.frames = s.endpoint.frames ++ frames := hframes
    rw [hframes, List.drop_left, hearlier]
    exact hpends.unconfirmed_eq hkept hkept' hstamped
  constructor
  · cases input with
    | frame apdu =>
      simp only [Journal.record, Endpoint.arrivals, accepted_frame, List.length_append,
        List.length_map, h.arrivals]
    | _ =>
      show (j.arrivals ++ []).length = s.ledger.accepted.length
      rw [List.append_nil, h.arrivals]
  · simp only [Journal.record, List.length_append]
    split
    · exact Nat.le_add_right _ _
    · exact Nat.le_add_right_of_le h.stopped_le
  · intro hopen
    exact hunconfirmed hopen (.inl rfl) (h.tests (open_before hopen)) rfl rfl
      (s.link.watch_step now input hopen).supervision.test?
  · intro hopen
    exact hunconfirmed hopen (.inr rfl) (h.stops (open_before hopen)) s.link.isSome_stopSent?
      (s.step now input).link.isSome_stopSent?
      (s.link.watch_step now input hopen).supervision.stop?

theorem journal_run (h : j.Sound s) (inputs : List (Nat × LinkInput)) :
    (s.journal j inputs).Sound (s.run inputs) := by
  induction inputs generalizing s j with
  | nil => exact h
  | cons input inputs ih => exact ih (journal_step h input.1 input.2)

theorem journal_new (settings : Settings) (extension : Option Extension) :
    ({} : Journal).Sound (new settings extension) :=
  ⟨rfl, Nat.le_refl _, fun _ => rfl, fun _ => rfl⟩

/-- What holds of a new station, and after every step that leaves the connection open, holds
after every run that does. -/
theorem open_induction {Holds : Station → Journal → Prop} {settings : Settings}
    (hvalid : settings.Valid) (extension : Option Extension)
    (hnew : Holds (new settings extension) {})
    (hstep : ∀ (s : Station) (j : Journal) (now : Nat) (input : LinkInput), s.Sound → j.Sound s →
      (s.step now input).link.closed = none → Holds s j →
      Holds (s.step now input) (j.record s.endpoint now input (s.step now input).endpoint))
    (inputs : List (Nat × LinkInput))
    (hopen : ((new settings extension).run inputs).link.closed = none) :
    Holds ((new settings extension).run inputs) ((new settings extension).journal {} inputs) := by
  induction inputs using List.reverseRecOn with
  | nil => exact hnew
  | append_singleton inputs input ih =>
    rw [run_concat] at hopen ⊢
    rw [journal_concat]
    exact hstep _ _ _ _ ((sound_new hvalid extension).run inputs)
      (journal_run (journal_new settings extension) inputs) hopen (ih (open_before hopen))

end Station

/-! ### A clock that never goes back -/

/-- No step is taken before an earlier one. -/
def Chronological (inputs : List (Nat × LinkInput)) : Prop :=
  inputs.Pairwise fun earlier later => earlier.1 ≤ later.1

instance (inputs : List (Nat × LinkInput)) : Decidable (Chronological inputs) :=
  inferInstanceAs (Decidable (List.Pairwise _ inputs))

/-- Instants of steps, in order. -/
structure Stamps (inputs : List (Nat × LinkInput)) (instants : List Nat) : Prop where
  ordered : instants.Pairwise (· ≤ ·)
  stamped : ∀ instant ∈ instants, ∃ input ∈ inputs, input.1 = instant

/-- What a step adds has the instant of the step, which is the last. -/
theorem Stamps.concat {inputs : List (Nat × LinkInput)} {instants added : List Nat}
    (h : Stamps inputs instants) {now : Nat} {input : LinkInput}
    (hclock : Chronological (inputs ++ [(now, input)]))
    (hadded : ∀ instant ∈ added, instant = now) :
    Stamps (inputs ++ [(now, input)]) (instants ++ added) := by
  have hlast : ∀ instant ∈ instants, instant ≤ now := by
    intro instant hinstant
    obtain ⟨earlier, hearlier, rfl⟩ := h.stamped instant hinstant
    exact (List.pairwise_append.mp hclock).2.2 earlier hearlier _ (List.mem_singleton.mpr rfl)
  constructor
  · refine List.pairwise_append.mpr ⟨h.ordered, ?_, ?_⟩
    · exact List.pairwise_of_forall_mem_list fun a ha b hb =>
        Nat.le_of_eq ((hadded a ha).trans (hadded b hb).symm)
    · intro a ha b hb
      rw [hadded b hb]
      exact hlast a ha
  · intro instant hinstant
    rcases List.mem_append.mp hinstant with hinstant | hinstant
    · obtain ⟨earlier, hearlier, heq⟩ := h.stamped instant hinstant
      exact ⟨earlier, List.mem_append_left _ hearlier, heq⟩
    · exact ⟨(now, input), List.mem_append_right _ (List.mem_singleton.mpr rfl),
        (hadded instant hinstant).symm⟩

theorem Chronological.before {inputs : List (Nat × LinkInput)} {input : Nat × LinkInput}
    (h : Chronological (inputs ++ [input])) : Chronological inputs :=
  (List.pairwise_append.mp h).1

namespace Station

/-- The frames that are sent in a step have the instant of the step. -/
theorem sent_eq (s : Station) (now : Nat) (input : LinkInput) :
    ∃ packets : List Packet, (s.step now input).ledger.sent = s.ledger.sent ++ packets ∧
      ∀ p ∈ packets, p.sent = now := by
  have hposts : ∃ b : Ledger, ∃ frames : List Apdu,
      (s.step now input).ledger = b.post now s.endpoint.stopping frames ∧
        b.sent = s.ledger.sent := by
    cases input <;> exact ⟨_, _, rfl, rfl⟩
  obtain ⟨b, frames, heq, hb⟩ := hposts
  refine ⟨frames.map (b.packet now s.endpoint.stopping), ?_, ?_⟩
  · rw [heq, ← hb]
    rfl
  · intro p hp
    obtain ⟨apdu, -, rfl⟩ := List.mem_map.mp hp
    rfl

variable (settings : Settings) (extension : Option Extension)

/-- Frames are sent in the order of time. -/
theorem stamps_sent {inputs : List (Nat × LinkInput)} (hclock : Chronological inputs) :
    Stamps inputs (((new settings extension).run inputs).ledger.sent.map (·.sent)) := by
  induction inputs using List.reverseRecOn with
  | nil => exact ⟨.nil, nofun⟩
  | append_singleton inputs input ih =>
    obtain ⟨packets, hsent, hpackets⟩ :=
      ((new settings extension).run inputs).sent_eq input.1 input.2
    rw [run_concat, hsent, List.map_append]
    refine (ih hclock.before).concat hclock fun instant hinstant => ?_
    obtain ⟨p, hp, rfl⟩ := List.mem_map.mp hinstant
    exact hpackets p hp

/-- Frames are accepted in the order of time. -/
theorem stamps_arrivals {inputs : List (Nat × LinkInput)} (hclock : Chronological inputs) :
    Stamps inputs ((new settings extension).journal {} inputs).arrivals := by
  induction inputs using List.reverseRecOn with
  | nil => exact ⟨.nil, nofun⟩
  | append_singleton inputs input ih =>
    obtain ⟨now, input⟩ := input
    rw [journal_concat]
    refine (ih hclock.before).concat hclock fun instant hinstant => ?_
    cases input with
    | frame apdu =>
      obtain ⟨octets, -, rfl⟩ := List.mem_map.mp hinstant
      rfl
    | _ => cases hinstant

end Station

end Telecontrol
