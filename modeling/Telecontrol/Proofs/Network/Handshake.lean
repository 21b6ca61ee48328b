import Telecontrol.Proofs.Network.Agreement
import Telecontrol.Proofs.Network.Posture

/-!
# Which frames find data transfer started

Two connected stations keep the rules of `Courteous` for what they are doing, whatever
happens. Hence a numbered frame finds data transfer started if and only if it is not late,
and a confirmation finds the activation that it answers (`Network.IsCourteous.finds`). A
connection ends because of its state precisely when a late frame arrives at it
(`Network.ended_by_state_iff_late`).
-/

namespace Telecontrol

/-- What a frame means whose sender was or was not waiting to stop. -/
def Apdu.signal (apdu : Apdu) (stopping : Bool) : Signal :=
  match apdu.control with
  | .unnumbered function => .unnumbered function
  | _ => .numbered stopping

namespace Packet

/-- What a frame means for the state of data transfer. -/
def signal (p : Packet) : Signal := p.apdu.signal p.stopping

/-- The frame is numbered. -/
def IsNumbered (p : Packet) : Prop := p.apdu.control.receive?.isSome

/-- The frame is numbered, and its sender waited for the confirmation of the end of data
transfer when it was sent. -/
def Late (p : Packet) : Prop := p.IsNumbered ∧ p.stopping = true

theorem signal_of_isNumbered {p : Packet} (h : p.IsNumbered) :
    p.signal = .numbered p.stopping := by
  unfold IsNumbered at h
  unfold signal Apdu.signal
  cases hcontrol : p.apdu.control with
  | unnumbered function =>
    rw [hcontrol] at h
    cases h
  | _ => rfl

theorem signal_of_unnumbered {p : Packet} {function : LinkFunction}
    (h : p.apdu.control = .unnumbered function) : p.signal = .unnumbered function := by
  unfold signal Apdu.signal
  rw [h]

end Packet

namespace Endpoint

/-- The posture of an endpoint. -/
def posture (e : Endpoint) : Posture where
  isOpen := e.closed.isNone
  state := e.state
  pending := e.pending
  requested := e.requested
  testing := e.testing

variable {e e' e₁ e₂ : Endpoint} {now : Nat} {input : LinkInput} {apdu : Apdu} {late : Bool}
  {first rest : List Apdu}

/-- Frames are sent in going from one endpoint to another, and the rules are kept. -/
structure Behaves (late : Bool) (e : Endpoint) (frames : List Apdu) (e' : Endpoint) : Prop where
  frames_eq : e'.frames = e.frames ++ frames
  courteous : ∀ {y out back}, Courteous e.posture y out back →
    Courteous e'.posture y (out ++ frames.map (·.signal late)) back

namespace Behaves

theorem trans (h : Behaves late e first e₁) (h' : Behaves late e₁ rest e₂) :
    Behaves late e (first ++ rest) e₂ where
  frames_eq := by rw [h'.frames_eq, h.frames_eq, List.append_assoc]
  courteous := by
    intro y out back hcourteous
    rw [List.map_append, ← List.append_assoc]
    exact h'.courteous (h.courteous hcourteous)

theorem silent (hposture : e'.posture = e.posture) (hframes : e'.frames = e.frames) :
    Behaves late e [] e' where
  frames_eq := by rw [hframes, List.append_nil]
  courteous := by
    intro y out back hcourteous
    rw [List.map_nil, List.append_nil, hposture]
    exact hcourteous

/-- One frame is sent. -/
theorem sends (apdu : Apdu) (hclosed : e.closed = none)
    (hsends : e.posture.Sends (apdu.signal late) e'.posture)
    (hframes : e'.frames = e.frames ++ [apdu]) : Behaves late e [apdu] e' where
  frames_eq := hframes
  courteous := fun hcourteous => hcourteous.sends (Option.isNone_iff_eq_none.mpr hclosed) hsends

end Behaves

theorem Owed.behaves (h : e.Owed e') (hprompt : e.Prompt) (hclosed : e.closed = none) :
    ∃ frames, Behaves e.stopping e frames e' := by
  cases h with
  | waits => exact ⟨_, .silent rfl rfl⟩
  | lapses => exact ⟨_, .silent rfl rfl⟩
  | acknowledges hscheduled =>
    -- An acknowledgment is scheduled only while data transfer is started.
    have hstate : e.posture.state = .started := LinkState.eq_started_of_ne fun hstopped => by
      rw [hprompt.scheduled hstopped] at hscheduled
      cases hscheduled
    exact ⟨_, .sends (.supervisory e.window.receive) hclosed (.numbered hstate) rfl⟩

theorem Tested.behaves (h : e.Tested e') (hclosed : e.closed = none) (late : Bool) :
    ∃ frames, Behaves late e frames e' := by
  cases h with
  | waits => exact ⟨_, .silent rfl rfl⟩
  | tests _ htesting =>
    exact ⟨_, .sends (.unnumbered .testAct) hclosed (.testAct htesting) rfl⟩

/-- What happens at the station itself keeps the rules. -/
theorem Act.behaves (h : e.Act now input e') (hprompt : e.Prompt) :
    ∃ frames, Behaves e.stopping e frames e' := by
  cases h with
  | silent => exact ⟨_, .silent rfl rfl⟩
  | closes hclosed =>
    refine ⟨[], (List.append_nil _).symm, fun hcourteous => ?_⟩
    rw [List.map_nil, List.append_nil]
    exact hcourteous.closes
  | sends hclosed hstate =>
    exact ⟨_, .sends (.information _ _ _) hclosed (.numbered hstate) rfl⟩
  | asksStart hclosed hstate hpending =>
    exact ⟨_, .sends (.unnumbered .startAct) hclosed (.startAct hstate hpending) rfl⟩
  | asksStop hclosed hstate hpending =>
    exact ⟨_, .sends (.unnumbered .stopAct) hclosed (.stopAct hstate hpending) rfl⟩
  | confirmsStart hclosed hstate hpending hrequested =>
    exact ⟨_, .sends (.unnumbered .startCon) hclosed
      (.startCon hstate hpending hrequested) rfl⟩
  | passes hclosed howed htested =>
    obtain ⟨first, hfirst⟩ := howed.behaves hprompt hclosed
    obtain ⟨rest, hrest⟩ := htested.behaves (by cases howed <;> exact hclosed) e.stopping
    exact ⟨_, hfirst.trans hrest⟩

/-- What the frames of the other station do is what a posture may do. -/
theorem Receive.takes (h : e.Receive apdu e') (late : Bool) :
    ∃ frames, e'.frames = e.frames ++ frames ∧
      e.posture.Takes (apdu.signal late) (frames.map (·.signal e.stopping)) e'.posture := by
  cases h with
  | supervisory hstate | information hstate =>
    exact ⟨[], (List.append_nil _).symm, .numbered hstate⟩
  | informationDue hstate => exact ⟨[.supervisory _], rfl, .numberedDue hstate⟩
  | test => exact ⟨[.unnumbered .testCon], rfl, .testAct⟩
  | tested => exact ⟨[], (List.append_nil _).symm, .testCon⟩
  | startedAlready hstate => exact ⟨[.unnumbered .startCon], rfl, .startActLate hstate⟩
  | startedByOther hstate => exact ⟨[.unnumbered .startCon], rfl, .startAct hstate⟩
  | startRequested hstate => exact ⟨[], (List.append_nil _).symm, .startActEarly hstate⟩
  | startConfirmed hpending => exact ⟨[], (List.append_nil _).symm, .startCon hpending⟩
  | stopConfirmed hpending => exact ⟨[], (List.append_nil _).symm, .stopCon hpending⟩
  | stoppedByOther _ howed =>
    subst howed
    split
    · exact ⟨[.supervisory _, .unnumbered .stopCon], List.append_assoc _ _ _, .stopActOwing⟩
    · exact ⟨[.unnumbered .stopCon], rfl, .stopAct⟩
  | stoppedAlready hstate howed =>
    -- As when data transfer is stopped, which changes nothing here.
    have hsame : { e.posture with state := .stopped } = e.posture := by
      simp [posture, hstate]
    subst howed
    split
    · refine ⟨[.supervisory _, .unnumbered .stopCon], List.append_assoc _ _ _, ?_⟩
      have htakes := Posture.Takes.stopActOwing (x := e.posture)
      rw [hsame] at htakes
      exact htakes
    · refine ⟨[.unnumbered .stopCon], rfl, ?_⟩
      have htakes := Posture.Takes.stopAct (x := e.posture)
      rw [hsame] at htakes
      exact htakes
  | _ => exact ⟨[], (List.append_nil _).symm, .refuses⟩

/-- A numbered frame closes the connection while data transfer is stopped. -/
theorem Receive.closed_of_stopped (h : e.Receive apdu e') (hstate : e.state = .stopped)
    (hnumbered : apdu.control.receive?.isSome) :
    ∃ fault, e'.closed = some (.protocolState fault) := by
  cases h with
  | informationStopped | supervisoryStopped => exact ⟨_, rfl⟩
  | supervisoryRefused hstarted | supervisory hstarted | informationRefused hstarted
  | numberRefused hstarted | unitRefused hstarted | information hstarted
  | informationDue hstarted =>
    rw [hstate] at hstarted
    cases hstarted
  | _ => cases hnumbered

end Endpoint

/-! ### The network -/

/-- The signals that a station sends in a step. -/
theorem Station.signals_emits {s : Station} (now : Nat) (input : LinkInput)
    {frames : List Apdu} (h : (s.step now input).endpoint.frames = s.endpoint.frames ++ frames) :
    (s.emits now input).map Packet.signal = frames.map (·.signal s.endpoint.stopping) := by
  have hemits : ∃ b : Ledger, s.emits now input =
      ((s.step now input).endpoint.frames.drop s.endpoint.frames.length).map
        (b.packet now s.endpoint.stopping) := by
    cases input <;> exact ⟨_, List.drop_left⟩
  obtain ⟨b, hemits⟩ := hemits
  rw [hemits, h, List.drop_left, List.map_map]
  rfl

namespace Network

/-- The stations keep the rules for starting and stopping data transfer. -/
def IsCourteous (n : Network) : Prop :=
  Courteous n.near.endpoint.posture n.far.endpoint.posture (n.outward.map Packet.signal)
    (n.inward.map Packet.signal)

variable {n : Network} {now : Nat} {input : LinkInput} {packet : Packet} {rest : List Packet}

theorem IsCourteous.flip (h : n.IsCourteous) : n.flip.IsCourteous := ⟨h.inward, h.outward⟩

theorem IsCourteous.act (h : n.IsCourteous) (hprompt : n.near.endpoint.Prompt)
    (hlocal : input.isLocal) : (n.stepNear now input).IsCourteous := by
  rcases n.near.link.step_cases now input with ⟨-, hact⟩ | ⟨_, rfl, -, -⟩ | ⟨_, rfl, -, -⟩
  · obtain ⟨frames, hbehaves⟩ := hact.behaves hprompt
    have hcourteous := hbehaves.courteous h
    rw [← Station.signals_emits now input hbehaves.frames_eq, ← List.map_append] at hcourteous
    exact hcourteous
  · cases hlocal
  · cases hlocal

theorem IsCourteous.receive (h : n.IsCourteous) (hinward : n.inward = packet :: rest) :
    ({ n with inward := rest }.stepNear now (.frame packet.apdu)).IsCourteous := by
  unfold IsCourteous at h
  rw [hinward, List.map_cons] at h
  by_cases hopen : n.near.link.closed = none
  · have hreceive := Link.endpoint_handleFrame (l := n.near.link) now hopen packet.apdu
    obtain ⟨frames, hframes, htakes⟩ := hreceive.takes packet.stopping
    have hcourteous := h.takes (Option.isNone_iff_eq_none.mpr hopen) htakes
    have hemits := Station.signals_emits now (.frame packet.apdu) hframes
    rw [← hemits, ← List.map_append] at hcourteous
    exact hcourteous
  · have hemits : n.near.emits now (.frame packet.apdu) = [] := by
      rw [Station.emits, Station.step_of_closed hopen, List.drop_length]
    unfold IsCourteous Network.stepNear
    simp only [hemits, List.append_nil, Station.step_of_closed hopen]
    exact h.drops (Bool.eq_false_iff.mpr fun h => hopen (Option.isNone_iff_eq_none.mp h))

/-- What holds of a network at every instant. -/
structure Proper (n : Network) : Prop where
  agrees : n.Agrees
  courteous : n.IsCourteous

theorem Proper.flip (h : n.Proper) : n.flip.Proper := ⟨h.agrees.flip, h.courteous.flip⟩

theorem Proper.view (h : n.Proper) (side : Side) : (n.view side).Proper := by
  cases side with
  | near => exact h
  | far => exact h.flip

theorem Proper.run (h : n.Proper) (events : List (Side × NetworkEvent)) :
    (n.run events).Proper :=
  run_induction (fun _ h => h.flip)
    (fun _ _ _ hlocal h => ⟨h.agrees.act hlocal, h.courteous.act h.agrees.near.sound.prompt hlocal⟩)
    (fun _ _ _ _ hinward h => ⟨h.agrees.receive hinward, h.courteous.receive hinward⟩) h events

theorem proper_new {settings settings' : Settings} {extension extension' : Option Extension}
    (hvalid : settings.Valid) (hvalid' : settings'.Valid)
    (hextension : ∀ x, extension = some x → x.RefusesInvalid)
    (hextension' : ∀ x, extension' = some x → x.RefusesInvalid) :
    (new (.new settings extension) (.new settings' extension')).Proper where
  agrees := agrees_new hvalid hvalid' hextension hextension'
  courteous := Courteous.new

/-! ### Arrivals -/

/-- What a frame finds that arrives at an open connection. -/
structure Finds (link : Link) (packet : Packet) : Prop where
  numbered : packet.IsNumbered → (link.state = .started ↔ ¬packet.Late)
  startCon : packet.apdu.control = .unnumbered .startCon → link.endpoint.pending = some .startAct
  stopCon : packet.apdu.control = .unnumbered .stopCon → link.endpoint.pending = some .stopAct
  testCon : packet.apdu.control = .unnumbered .testCon → link.testSent.isSome

theorem IsCourteous.finds (h : n.IsCourteous) (hinward : n.inward = packet :: rest)
    (hopen : n.near.link.closed = none) : Finds n.near.link packet := by
  have hisOpen : n.near.endpoint.posture.isOpen := Option.isNone_iff_eq_none.mpr hopen
  have hcourteous := h
  unfold IsCourteous at hcourteous
  rw [hinward, List.map_cons] at hcourteous
  refine ⟨fun hnumbered => ?_, fun hcontrol => ?_, fun hcontrol => ?_, fun hcontrol => ?_⟩
  · have hsuits := (hcourteous.inward.admits hisOpen).1
    rw [Packet.signal_of_isNumbered hnumbered] at hsuits
    have hstate : n.near.link.state = if packet.stopping then .stopped else .started := hsuits
    rw [hstate]
    cases hstopping : packet.stopping <;> simp [Packet.Late, hnumbered, hstopping]
  · rw [Packet.signal_of_unnumbered hcontrol] at hcourteous
    exact hcourteous.outward.pending_of_startCon hisOpen List.mem_cons_self
  · rw [Packet.signal_of_unnumbered hcontrol] at hcourteous
    exact hcourteous.outward.pending_of_stopCon hisOpen List.mem_cons_self
  · rw [Packet.signal_of_unnumbered hcontrol] at hcourteous
    exact hcourteous.outward.testing_of_testCon hisOpen List.mem_cons_self

theorem Proper.finds (h : n.Proper) (hinward : n.inward = packet :: rest)
    (hopen : n.near.link.closed = none) : Finds n.near.link packet :=
  h.courteous.finds hinward hopen

theorem Proper.not_misplaced (h : n.Proper) (hinward : n.inward = packet :: rest)
    (hopen : n.near.link.closed = none) (hlate : ¬packet.Late) :
    ¬n.near.endpoint.Misplaced packet.apdu := by
  have hfinds := h.finds hinward hopen
  intro hmisplaced
  cases hmisplaced with
  | numbered hnumbered hstate =>
    have hstarted : n.near.endpoint.state = .started := (hfinds.numbered hnumbered).mpr hlate
    rw [hstate] at hstarted
    cases hstarted
  | testCon hcontrol htesting =>
    exact Bool.false_ne_true (htesting.symm.trans (hfinds.testCon hcontrol))
  | startCon hcontrol hpending => exact hpending (hfinds.startCon hcontrol)
  | stopCon hcontrol hpending => exact hpending (hfinds.stopCon hcontrol)

/-- The arrival of a frame ends an open connection because of its state if and only if the
frame is late. -/
theorem Proper.closed_protocolState_iff (h : n.Proper) (hinward : n.inward = packet :: rest)
    (hopen : n.near.link.closed = none) :
    (∃ fault, (n.near.step now (.frame packet.apdu)).link.closed =
      some (.protocolState fault)) ↔ packet.Late := by
  have hreceive := Link.endpoint_handleFrame (l := n.near.link) now hopen packet.apdu
  constructor
  · rintro ⟨fault, hfault⟩
    refine Classical.byContradiction fun hlate => ?_
    rcases hreceive.closed_eq (h.agrees.consistent.inOrder hinward hopen) hopen with
      hclosed | ⟨-, hmisplaced⟩ | ⟨octets, cause, -, hdecode, hclosed⟩
    · cases hclosed.symm.trans hfault
    · exact h.not_misplaced hinward hopen hlate hmisplaced
    · cases hclosed.symm.trans hfault
      cases AsduFormat.decode_unreadable _ h.agrees.near.extension _ _ hdecode
  · intro hlate
    refine hreceive.closed_of_stopped (LinkState.eq_stopped_of_ne fun hstarted => ?_) hlate.1
    exact ((h.finds hinward hopen).numbered hlate.1).mp hstarted hlate

/-! ### Runs -/

/-- The connection of the near station ended because a frame did not suit its state. -/
def EndedByState (n : Network) : Prop :=
  ∃ fault, n.near.link.closed = some (.protocolState fault)

/-- The next frame for the near station is late, and its connection is open. -/
def LateArrives (n : Network) : Prop :=
  n.near.link.closed = none ∧ ∃ packet rest, n.inward = packet :: rest ∧ packet.Late

theorem EndedByState.stepNear (h : n.EndedByState) :
    (n.stepNear now input).EndedByState := by
  obtain ⟨fault, hclosed⟩ := h
  exact ⟨fault, Station.closed_step hclosed now input⟩

/-- What happens at the station itself does not end a connection because of its state. -/
theorem act_endedByState_iff (hlocal : input.isLocal) :
    (n.stepNear now input).EndedByState ↔ n.EndedByState := by
  refine ⟨?_, fun h => h.stepNear⟩
  rintro ⟨fault, hfault⟩
  rcases n.near.link.step_cases now input with ⟨-, hact⟩ | ⟨_, rfl, -, -⟩ | ⟨_, rfl, -, -⟩
  · rcases hact.closed_eq with heq | ⟨cause, hcause, heq⟩
    · exact ⟨fault, heq.symm.trans hfault⟩
    · obtain rfl : cause = .protocolState fault := Option.some.inj (heq.symm.trans hfault)
      cases input with
      | lost stream =>
        cases hcause
        cases hlocal
      | _ => cases hcause
  · cases hlocal
  · cases hlocal

theorem Proper.receive_endedByState_iff (h : n.Proper) (hinward : n.inward = packet :: rest) :
    ({ n with inward := rest }.stepNear now (.frame packet.apdu)).EndedByState ↔
      n.EndedByState ∨ n.LateArrives := by
  by_cases hopen : n.near.link.closed = none
  · have hnot : ¬n.EndedByState := by
      rintro ⟨fault, hfault⟩
      cases hopen.symm.trans hfault
    have hlate : n.LateArrives ↔ packet.Late := by
      simp [LateArrives, hopen, hinward]
    rw [hlate, or_iff_right hnot]
    exact h.closed_protocolState_iff hinward hopen
  · -- A closed connection takes no notice of the frame.
    have hnot : ¬n.LateArrives := fun hlate => hopen hlate.1
    have hsame : n.near.step now (.frame packet.apdu) = n.near := Station.step_of_closed hopen ..
    rw [or_iff_left hnot, EndedByState, Network.stepNear, hsame]
    rfl

theorem Proper.happen_endedByState_iff (h : n.Proper) (event : NetworkEvent) :
    (n.happen event).EndedByState ↔
      n.EndedByState ∨ (∃ now, event = .receive now) ∧ n.LateArrives := by
  cases event with
  | act now input =>
    simp only [happen, reduceCtorEq, exists_false, false_and, or_false]
    split
    · next hlocal => exact act_endedByState_iff hlocal
    · rfl
  | receive now =>
    simp only [happen, NetworkEvent.receive.injEq, exists_eq', true_and]
    split
    · next hinward => simp [LateArrives, hinward]
    · next hinward => exact h.receive_endedByState_iff hinward

theorem Proper.step_endedByState_iff (h : n.Proper) (side : Side) (move : Side × NetworkEvent) :
    ((n.step move).view side).EndedByState ↔
      (n.view side).EndedByState ∨ (∃ now, move = (side, .receive now)) ∧
        (n.view side).LateArrives := by
  obtain ⟨other, event⟩ := move
  by_cases hside : side = other
  · subst hside
    rw [view_step_self, (h.view side).happen_endedByState_iff event]
    simp
  · have hne : ¬∃ now, (other, event) = (side, NetworkEvent.receive now) := by
      rintro ⟨now, heq⟩
      exact hside (congrArg Prod.fst heq).symm
    rw [or_iff_left fun h => hne h.1, EndedByState, near_view_step n hside event]
    rfl

/-- Whatever happens at two connected stations, a connection ends because of its state if and
only if a late frame arrives while it is open. -/
theorem Proper.run_endedByState_iff (h : n.Proper) (side : Side)
    (events : List (Side × NetworkEvent)) :
    ((n.run events).view side).EndedByState ↔
      (n.view side).EndedByState ∨ ∃ before now after,
        events = before ++ (side, .receive now) :: after ∧
          ((n.run before).view side).LateArrives := by
  -- The induction moves the start, so that the late frame arrives first or in the rest.
  induction events generalizing n with
  | nil => simp
  | cons move events ih =>
    have hstep : (n.step move).Proper := h.run [move]
    rw [run_cons, ih hstep, h.step_endedByState_iff side move, or_assoc]
    refine or_congr_right ⟨?_, ?_⟩
    · rintro (⟨⟨now, rfl⟩, hlate⟩ | ⟨before, now, after, rfl, hlate⟩)
      · exact ⟨[], now, events, rfl, hlate⟩
      · exact ⟨move :: before, now, after, rfl, hlate⟩
    · rintro ⟨before, now, after, heq, hlate⟩
      cases before with
      | nil =>
        obtain ⟨rfl, rfl⟩ := List.cons.inj heq
        exact .inl ⟨⟨now, rfl⟩, hlate⟩
      | cons first before =>
        obtain ⟨rfl, rfl⟩ := List.cons.inj heq
        exact .inr ⟨before, now, after, rfl, hlate⟩

/-- Whatever happens at two connected stations and in whatever order, a connection ends
because of its state precisely when a late frame arrives at it, and never because frames are
malformed or out of order. Every numbered frame that is not late finds data transfer started,
and every confirmation finds the activation that it answers. -/
theorem ended_by_state_iff_late (settings settings' : Settings)
    (extension extension' : Option Extension) (hvalid : settings.Valid)
    (hvalid' : settings'.Valid) (hextension : ∀ x, extension = some x → x.RefusesInvalid)
    (hextension' : ∀ x, extension' = some x → x.RefusesInvalid)
    (events : List (Side × NetworkEvent)) (side : Side) :
    let start := new (.new settings extension) (.new settings' extension')
    let n := (start.run events).view side
    (n.EndedByState ↔ ∃ before now after, events = before ++ (side, .receive now) :: after ∧
        ((start.run before).view side).LateArrives) ∧
      (∀ cause, n.near.link.closed = some cause → ¬cause.Disorder) ∧
      ∀ packet rest, n.inward = packet :: rest → n.near.link.closed = none →
        Finds n.near.link packet := by
  intro start n
  have hstart : start.Proper := proper_new hvalid hvalid' hextension hextension'
  have hn : n.Proper := (hstart.run events).view side
  have hnot : ¬(start.view side).EndedByState := by
    rintro ⟨fault, hclosed⟩
    cases side <;> cases hclosed
  refine ⟨?_, hn.agrees.near.in_order, fun packet rest hinward hopen => hn.finds hinward hopen⟩
  rw [hstart.run_endedByState_iff side events, or_iff_right hnot]

/-- Data transfer is started; the near station asks for its end and then sends a unit. -/
def unitAfterStop : List (Side × NetworkEvent) :=
  [(.far, .act 0 (.call 0 (.awaitStart 0 9))), (.near, .act 0 (.call 0 (.start 0 9))),
    (.far, .receive 1), (.near, .receive 2), (.near, .act 3 (.call 1 .stop)),
    (.near, .act 3 (.call 2 (.send (.single .interrogation .activation 1 0
      [.interrogationQualifier 20])))),
    (.far, .receive 4), (.far, .receive 5)]

/-- A unit that is sent after the end of data transfer was asked for ends the connection. -/
theorem unit_after_stop_ends_connection :
    ({} : Settings).Valid ∧
      (∀ x, some (Extension.ofWidth [200] 2) = some x → x.RefusesInvalid) ∧
      ∃ before now after, unitAfterStop = before ++ (.far, .receive now) :: after ∧
        (((new (.new {} (some (.ofWidth [200] 2))) (.new {} (some (.ofWidth [200] 2)))).run
          before).view .far).LateArrives := by
  have hvalid : ({} : Settings).Valid := (Settings.validate_eq_ok_iff _).mp rfl
  have hextension : ∀ x, some (Extension.ofWidth [200] 2) = some x → x.RefusesInvalid := by
    rintro x ⟨⟩
    exact Extension.refusesInvalid_ofWidth _ _
  refine ⟨hvalid, hextension, ?_⟩
  obtain ⟨hiff, -, -⟩ := ended_by_state_iff_late _ _ _ _ hvalid hvalid hextension hextension
    unitAfterStop .far
  exact hiff.mp ⟨.informationWhileStopped, rfl⟩

/-- Two stations with equal settings, of which one stops data transfer while a unit of the
other is on its way: the unit is acknowledged, and the acknowledgment ends the connection. -/
theorem acknowledgment_after_stop_ends_connection :
    ({ k := 1, w := 1 } : Settings).Valid ∧
      ((new (.new { k := 1, w := 1 } none) (.new { k := 1, w := 1 } none)).run
        [(.far, .act 0 (.call 0 (.awaitStart 0 9))), (.near, .act 0 (.call 0 (.start 0 9))),
          (.far, .receive 1), (.near, .receive 2),
          (.far, .act 3 (.call 1 (.send (.single .interrogation .activation 1 0
            [.interrogationQualifier 20])))),
          (.near, .act 3 (.call 1 .stop)), (.near, .receive 4), (.far, .receive 5),
          (.far, .receive 6)]).far.link.closed =
        some (.protocolState .supervisoryWhileStopped) := by
  refine ⟨(Settings.validate_eq_ok_iff _).mp rfl, ?_⟩
  rfl

end Network

end Telecontrol
