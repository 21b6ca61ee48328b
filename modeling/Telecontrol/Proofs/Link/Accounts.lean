import Mathlib.Data.List.Induction
import Telecontrol.Proofs.Link.Transfer

/-!
# Activations and their confirmations

A link remembers an activation that it has sent until it is confirmed, and a start that the other
station has asked for until it is granted: its `Memory`. While it is open, it handles an unnumbered
frame in one of a few ways (`Memory.Move`), and each of them keeps the account of what was sent and
received (`Memory.Balanced`): each activation that was sent is confirmed or remembered, each test
and each end that the other station has asked for is confirmed once, and no start is confirmed for
which it did not ask. A confirmation of what is not remembered closes the connection and leaves the
rest as it is (`Link.unsolicited_step`). The account of a whole run is `Link.unnumbered_accounted`.
-/

namespace Telecontrol

/-- The function of an unnumbered frame. -/
def Apdu.function? (apdu : Apdu) : Option LinkFunction :=
  match apdu.control with
  | .unnumbered function => some function
  | _ => none

/-- The function of a frame that is received, if it is unnumbered. -/
def LinkInput.function? : LinkInput → Option LinkFunction
  | .frame apdu => apdu.function?
  | _ => none

theorem LinkInput.function?_of_not_frame {input : LinkInput} (h : ∀ apdu, input ≠ .frame apdu) :
    input.function? = none := by
  cases input with
  | frame apdu => exact absurd rfl (h apdu)
  | _ => rfl

/-- The functions of the unnumbered frames that are received in a run, oldest first. -/
def functionsReceived (inputs : List (Nat × LinkInput)) : List LinkFunction :=
  inputs.filterMap fun input => input.2.function?

/-- What a link remembers of the unnumbered frames that it has sent and received. -/
structure Memory where
  /-- The activation of this station that is not yet confirmed. -/
  pending : Option LinkFunction
  /-- A test of the link is not yet confirmed. -/
  testing : Bool
  /-- The other station asked for the start of data transfer while no call waited for it. -/
  requested : Bool

namespace Memory

/-- How an open link handles an unnumbered frame that it receives, or sends one on its own: what it
sends, and what it remembers afterwards. -/
inductive Move (m : Memory) : Option LinkFunction → List LinkFunction → Memory → Prop
  | keeps : Move m none [] m
  | asksStart : m.pending = none → Move m none [.startAct] { m with pending := some .startAct }
  | asksStop : m.pending = none → Move m none [.stopAct] { m with pending := some .stopAct }
  | tests : m.testing = false → Move m none [.testAct] { m with testing := true }
  /-- A start that the other station asked for is granted. -/
  | grants : m.requested = true → Move m none [.startCon] { m with requested := false }
  | test : Move m (some .testAct) [.testCon] m
  | start : Move m (some .startAct) [.startCon] m
  /-- The other station asks for it too early. -/
  | startsEarly : Move m (some .startAct) [] { m with requested := true }
  | stop : Move m (some .stopAct) [.stopCon] m
  | tested : m.testing = true → Move m (some .testCon) [] { m with testing := false }
  | started : m.pending = some .startAct → Move m (some .startCon) [] { m with pending := none }
  | stopped : m.pending = some .stopAct → Move m (some .stopCon) [] { m with pending := none }

/-- What was sent, what was received, and what is remembered of it add up. -/
structure Balanced (m : Memory) (sent received : List LinkFunction) : Prop where
  /-- An activation that starts or stops data transfer is confirmed or remembered. -/
  handshakes : sent.count .startAct + sent.count .stopAct =
    received.count .startCon + received.count .stopCon + m.pending.isSome.toNat
  /-- A test of the link is confirmed or remembered. -/
  tests : sent.count .testAct = received.count .testCon + m.testing.toNat
  testsConfirmed : sent.count .testCon = received.count .testAct
  stopsConfirmed : sent.count .stopCon = received.count .stopAct
  /-- A start that is remembered is not yet confirmed. -/
  startsConfirmed : sent.count .startCon + m.requested.toNat ≤ received.count .startAct

variable {m m' : Memory} {received? : Option LinkFunction}
  {frames sent received : List LinkFunction}

theorem Move.balanced (hmove : m.Move received? frames m') (h : m.Balanced sent received) :
    m'.Balanced (sent ++ frames) (received ++ received?.toList) := by
  obtain ⟨handshakes, tests, testsConfirmed, stopsConfirmed, startsConfirmed⟩ := h
  cases hmove with
  | keeps =>
    rw [List.append_nil, Option.toList_none, List.append_nil]
    exact ⟨handshakes, tests, testsConfirmed, stopsConfirmed, startsConfirmed⟩
  | asksStart hm | asksStop hm | tests hm | grants hm | tested hm | started hm | stopped hm =>
    simp only [hm, Option.isSome_none, Option.isSome_some, Bool.toNat_false, Bool.toNat_true]
      at handshakes tests startsConfirmed
    constructor <;> simp <;> omega
  | test | start | startsEarly | stop =>
    constructor <;> simp <;> omega

/-- A test of the link and the end of data transfer are confirmed by one frame. -/
theorem Move.answer {function : LinkFunction} (h : m.Move (some function) frames m')
    (hfunction : function = .testAct ∨ function = .stopAct) : frames = [function.confirmation] := by
  cases h with
  | test | stop => rfl
  | _ => rcases hfunction with hfunction | hfunction <;> cases hfunction

end Memory

namespace Endpoint

/-- What an endpoint remembers of unnumbered frames. -/
def memory (e : Endpoint) : Memory := ⟨e.pending, e.testing, e.requested⟩

/-- The functions of the unnumbered frames sent, oldest first. -/
def functions (e : Endpoint) : List LinkFunction := e.frames.filterMap Apdu.function?

/-- A step handles unnumbered frames in one of the ways listed. -/
def Handles (e : Endpoint) (received? : Option LinkFunction) (e' : Endpoint) : Prop :=
  ∃ frames, e'.functions = e.functions ++ frames ∧ e.memory.Move received? frames e'.memory

variable {e e' owed : Endpoint} {now : Nat} {input : LinkInput} {apdu : Apdu}
  {received? : Option LinkFunction}

@[simp] theorem functions_transmit (e : Endpoint) (apdu : Apdu) :
    (e.transmit apdu).functions = e.functions ++ apdu.function?.toList := by
  simp only [functions, transmit, List.filterMap_append]
  cases h : apdu.function? <;> simp [h]

/-- Numbered frames are not unnumbered. -/
theorem functions_sendSupervisory (e : Endpoint) : e.sendSupervisory.functions = e.functions := by
  simp only [sendSupervisory, functions_transmit]
  exact List.append_nil _

theorem functions_sendInformation (e : Endpoint) (now : Nat) (octets : Octets) :
    (e.sendInformation now octets).functions = e.functions := by
  simp only [sendInformation, functions_transmit]
  exact List.append_nil _

theorem Handles.keeps (hfunctions : e'.functions = e.functions) (hmemory : e'.memory = e.memory) :
    e.Handles none e' := by
  refine ⟨[], by rw [hfunctions, List.append_nil], ?_⟩
  rw [hmemory]
  exact .keeps

theorem Handles.trans (h : e.Handles received? owed) (hfunctions : e'.functions = owed.functions)
    (hmemory : e'.memory = owed.memory) : e.Handles received? e' := by
  obtain ⟨frames, hframes, hmove⟩ := h
  exact ⟨frames, hfunctions.trans hframes, hmemory ▸ hmove⟩

theorem Owed.same (h : e.Owed e') : e'.functions = e.functions ∧ e'.memory = e.memory := by
  cases h with
  | waits => exact ⟨rfl, rfl⟩
  | lapses => exact ⟨rfl, rfl⟩
  | acknowledges => exact ⟨functions_sendSupervisory e, rfl⟩

theorem Tested.handles (h : e.Tested e') : e.Handles none e' := by
  cases h with
  | waits => exact .keeps rfl rfl
  | tests _ htesting => exact ⟨[.testAct], functions_transmit .., .tests htesting⟩

/-- What happens at the station itself may send an unnumbered frame. -/
theorem Act.handles (h : e.Act now input e') (hopen : e'.closed = none) : e.Handles none e' := by
  cases h with
  | silent => exact .keeps rfl rfl
  | closes => cases hopen
  | sends => exact .keeps (functions_sendInformation ..) rfl
  | asksStart _ _ hpending => exact ⟨_, functions_transmit .., .asksStart hpending⟩
  | asksStop _ _ hpending => exact ⟨_, functions_transmit .., .asksStop hpending⟩
  | confirmsStart _ _ _ hrequested => exact ⟨_, functions_transmit .., .grants hrequested⟩
  | @passes owed _ _ howed htested =>
    obtain ⟨hfunctions, hmemory⟩ := howed.same
    obtain ⟨frames, hframes, hmove⟩ := htested.handles
    exact ⟨frames, by rw [hframes, hfunctions], hmemory ▸ hmove⟩

/-- What is owed is acknowledged before the end of data transfer is confirmed. -/
theorem handles_stop (howed : owed = if 0 < e.window.unacknowledged then e.sendSupervisory else e) :
    e.Handles (some .stopAct) (owed.transmit (.unnumbered .stopCon)) := by
  have hfunctions : owed.functions = e.functions := by
    rw [howed]
    split
    · exact functions_sendSupervisory e
    · rfl
  have hmemory : owed.memory = e.memory := by
    rw [howed]
    split <;> rfl
  refine ⟨[.stopCon], by rw [functions_transmit, hfunctions]; rfl, ?_⟩
  show e.memory.Move _ _ owed.memory
  rw [hmemory]
  exact .stop

/-- A frame of the other station that does not close the connection is handled. -/
theorem Receive.handles (h : e.Receive apdu e') (hopen : e'.closed = none) :
    e.Handles apdu.function? e' := by
  cases h with
  | supervisory | information => exact .keeps rfl rfl
  | informationDue => exact .keeps (functions_sendSupervisory _) rfl
  | test => exact ⟨_, functions_transmit .., .test⟩
  | tested htesting => exact ⟨[], (List.append_nil _).symm, .tested htesting⟩
  | startedAlready | startedByOther => exact ⟨_, functions_transmit .., .start⟩
  | startRequested => exact ⟨[], (List.append_nil _).symm, .startsEarly⟩
  | startConfirmed hpending => exact ⟨[], (List.append_nil _).symm, .started hpending⟩
  | stopConfirmed hpending => exact ⟨[], (List.append_nil _).symm, .stopped hpending⟩
  | stoppedByOther _ howed => exact (handles_stop howed).trans rfl rfl
  | stoppedAlready _ howed => exact handles_stop howed
  | _ => cases hopen

/-- A test of the link and the request to stop data transfer do not close the connection. -/
theorem Receive.stays_open (h : e.Receive apdu e') (hopen : e.closed = none)
    {function : LinkFunction} (hfunction : function = .testAct ∨ function = .stopAct)
    (hcontrol : apdu.control = .unnumbered function) : e'.closed = none := by
  cases h with
  | test => exact hopen
  | stoppedByOther _ howed | stoppedAlready _ howed =>
    subst howed
    split <;> exact hopen
  | _ => rcases hfunction with rfl | rfl <;> cases hcontrol

/-- A confirmation of what is not awaited closes the connection. -/
theorem Receive.unsolicited (h : e.Receive apdu e') {function : LinkFunction}
    (hactivation : function.isActivation = true)
    (hcontrol : apdu.control = .unnumbered function.confirmation)
    (hawaits : e.awaits function = false) :
    e' = e.close (.protocolState (.unsolicited function.confirmation)) := by
  cases function with
  | startAct =>
    cases h with
    | startConfirmed hpending => simp [awaits, hpending] at hawaits
    | startUnsolicited => rfl
    | _ => cases hcontrol
  | stopAct =>
    cases h with
    | stopConfirmed hpending => simp [awaits, hpending] at hawaits
    | stopUnsolicited => rfl
    | _ => cases hcontrol
  | testAct =>
    cases h with
    | tested htesting => cases htesting.symm.trans hawaits
    | testUnsolicited => rfl
    | _ => cases hcontrol
  | _ => cases hactivation

end Endpoint

namespace Link

variable {l : Link} {now : Nat} {input : LinkInput} {function : LinkFunction}

/-- A step after which the connection is open handles unnumbered frames in one of the ways
listed. -/
theorem handles_step (hopen : (l.step now input).closed = none) :
    l.endpoint.Handles input.function? (l.step now input).endpoint := by
  rcases l.step_cases now input with
    ⟨hinput, hact⟩ | ⟨apdu, rfl, -, hreceive⟩ | ⟨apdu, rfl, hclosed, heq⟩
  · rw [LinkInput.function?_of_not_frame hinput]
    exact hact.handles hopen
  · exact hreceive.handles hopen
  · rw [heq] at hopen
    exact absurd hopen hclosed

/-- In whatever state, an open link answers a test of the link and the request to stop data transfer
by one confirmation. -/
theorem answer_step (now : Nat) (hopen : l.closed = none)
    (hfunction : function = .testAct ∨ function = .stopAct) {apdu : Apdu}
    (hcontrol : apdu.control = .unnumbered function) :
    (l.step now (.frame apdu)).closed = none ∧
      (l.step now (.frame apdu)).endpoint.functions =
        l.endpoint.functions ++ [function.confirmation] := by
  have hopen' : (l.step now (.frame apdu)).closed = none :=
    (endpoint_handleFrame now hopen apdu).stays_open hopen hfunction hcontrol
  obtain ⟨frames, hframes, hmove⟩ := handles_step hopen'
  have hreceived : (LinkInput.frame apdu).function? = some function := by
    simp [LinkInput.function?, Apdu.function?, hcontrol]
  rw [hreceived] at hmove
  exact ⟨hopen', by rw [hframes, hmove.answer hfunction]⟩

/-- A confirmation of an activation that an open link does not await closes the connection. Neither
the state nor the frame numbers change. -/
theorem unsolicited_step (now : Nat) (hopen : l.closed = none)
    (hactivation : function.isActivation = true) {apdu : Apdu}
    (hcontrol : apdu.control = .unnumbered function.confirmation)
    (hawaits : l.endpoint.awaits function = false) :
    (l.step now (.frame apdu)).closed =
        some (.protocolState (.unsolicited function.confirmation)) ∧
      (l.step now (.frame apdu)).state = l.state ∧
      (l.step now (.frame apdu)).window = l.window := by
  have heq := (endpoint_handleFrame now hopen apdu).unsolicited hactivation hcontrol hawaits
  exact ⟨congrArg Endpoint.closed heq, congrArg Endpoint.state heq,
    congrArg Endpoint.window heq⟩

/-- While the connection is open, the account of a run is balanced. -/
theorem balanced_run (settings : Settings) (extension : Option Extension)
    (inputs : List (Nat × LinkInput))
    (hopen : ((new settings extension).run inputs).closed = none) :
    ((new settings extension).run inputs).endpoint.memory.Balanced
      ((new settings extension).run inputs).endpoint.functions (functionsReceived inputs) := by
  induction inputs using List.reverseRecOn with
  | nil => exact ⟨rfl, rfl, rfl, rfl, Nat.le_refl _⟩
  | append_singleton inputs input ih =>
    rw [run_append] at hopen ⊢
    have hbefore := ((new settings extension).run inputs).transfer_step input.1 input.2
    obtain ⟨frames, hframes, hmove⟩ := handles_step hopen
    have hbalanced := hmove.balanced (ih (hbefore.open_before hopen))
    have hreceived : functionsReceived (inputs ++ [input]) =
        functionsReceived inputs ++ input.2.function?.toList := by
      simp only [functionsReceived, List.filterMap_append]
      cases h : input.2.function? <;> simp [h]
    rw [hreceived]
    exact hframes ▸ hbalanced

/-- Whatever the calls and the other station do, while the connection is open an activation that
starts or stops data transfer is remembered exactly if one more was sent than confirmed, and a test
of the link likewise; a confirmation of what is not remembered closes the connection and changes
neither the state nor the frame numbers; each test of the link and each request to stop data
transfer is answered by one confirmation, in whatever state; and starts are not confirmed more often
than asked for. A connection that is open has accepted every confirmation that it has received. -/
theorem unnumbered_accounted (settings : Settings) (extension : Option Extension)
    (inputs : List (Nat × LinkInput))
    (hopen : ((new settings extension).run inputs).closed = none) :
    let l := (new settings extension).run inputs
    let sent := l.endpoint.functions
    let received := functionsReceived inputs
    sent.count .startAct + sent.count .stopAct =
        received.count .startCon + received.count .stopCon + l.handshake.isSome.toNat ∧
      sent.count .testAct = received.count .testCon + l.testSent.isSome.toNat ∧
      (∀ now function apdu, function.isActivation = true →
        apdu.control = .unnumbered function.confirmation → l.endpoint.awaits function = false →
        let l' := l.step now (.frame apdu)
        l'.closed = some (.protocolState (.unsolicited function.confirmation)) ∧
          l'.state = l.state ∧ l'.window = l.window) ∧
      (∀ now function apdu, function = .testAct ∨ function = .stopAct →
        apdu.control = .unnumbered function →
        let l' := l.step now (.frame apdu)
        l'.closed = none ∧ l'.endpoint.functions = sent ++ [function.confirmation]) ∧
      sent.count .testCon = received.count .testAct ∧
      sent.count .stopCon = received.count .stopAct ∧
      sent.count .startCon ≤ received.count .startAct := by
  intro l sent received
  obtain ⟨handshakes, tests, testsConfirmed, stopsConfirmed, startsConfirmed⟩ :=
    balanced_run settings extension inputs hopen
  have hpending : l.endpoint.memory.pending.isSome = l.handshake.isSome := Option.isSome_map
  rw [hpending] at handshakes
  refine ⟨handshakes, tests, ?_, ?_, testsConfirmed, stopsConfirmed,
    Nat.le_of_add_right_le startsConfirmed⟩
  · exact fun now function apdu hactivation hcontrol hawaits =>
      unsolicited_step now hopen hactivation hcontrol hawaits
  · exact fun now function apdu hfunction hcontrol => answer_step now hopen hfunction hcontrol

/-- Data transfer is started, the other station tests the link, and this one stops data transfer. -/
def testedAndStopping : List (Nat × LinkInput) :=
  [(0, .call 0 (.start 0 9)), (1, .frame (.unnumbered .startCon)),
    (2, .frame (.unnumbered .testAct)), (3, .call 1 .stop)]

/-- Two activations are sent, one is confirmed, and one is remembered; so the confirmation of a test
closes the connection. -/
theorem stopping_accounted :
    let l := (new {} none).run testedAndStopping
    l.closed = none ∧
      l.endpoint.functions.count .startAct + l.endpoint.functions.count .stopAct =
        (functionsReceived testedAndStopping).count .startCon +
          (functionsReceived testedAndStopping).count .stopCon + 1 ∧
      (l.step 4 (.frame (.unnumbered .testCon))).closed =
        some (.protocolState (.unsolicited .testCon)) := by
  intro l
  have hopen : l.closed = none := rfl
  obtain ⟨handshakes, -, unsolicited, -⟩ := unnumbered_accounted {} none testedAndStopping hopen
  exact ⟨hopen, handshakes, (unsolicited 4 .testAct (.unnumbered .testCon) rfl rfl rfl).1⟩

end Link

end Telecontrol
