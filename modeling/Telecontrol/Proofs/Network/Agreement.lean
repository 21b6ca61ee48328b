import Telecontrol.Proofs.Asdu.Faults
import Telecontrol.Proofs.Network.Basic

/-!
# Agreement of two stations about what was sent

`Network.Conveys` is the invariant of one direction of a network. It counts without bound:
the far station has accepted the units of the information frames that arrived, in order, and
the near one has released no more frames than were accepted. The acknowledgments on the way
back lie between the two counts. This is why no frame is ever out of order
(`Network.agreement`), although frame numbers come round again.
-/

namespace Telecontrol

/-- The units of the information frames among some frames. -/
def units (packets : List Packet) : List Octets :=
  (packets.filter fun p => p.apdu.control.isInformation).map (·.apdu.asdu)

theorem units_append (first rest : List Packet) :
    units (first ++ rest) = units first ++ units rest := by
  simp [units]

theorem units_singleton (p : Packet) :
    units [p] = if p.apdu.control.isInformation then [p.apdu.asdu] else [] := by
  simp only [units, List.filter_cons, List.filter_nil]
  split <;> rfl

theorem Ledger.length_units (b : Ledger) : (units b.sent).length = b.informations.length := by
  rw [units, List.length_map, informations]

/-- The faults of frames that are malformed or out of order. -/
inductive Fault.Disorder : Fault → Prop
  | sequence (expected actual : UInt16) : Disorder (.sequence expected actual)
  | framing (cause : FramingFault) : Disorder (.framing cause)

/-! ### What one step does -/

namespace Endpoint

variable {e e' : Endpoint} {now : Nat} {input : LinkInput} {apdu : Apdu}

/-- Only certain things close the connection. -/
theorem Act.closed_eq (h : e.Act now input e') :
    e'.closed = e.closed ∨ ∃ cause, input.closesWith cause ∧ e'.closed = some cause := by
  cases h with
  | closes _ hcause => exact .inr ⟨_, hcause, rfl⟩
  | passes _ howed htested => cases howed <;> cases htested <;> exact .inl rfl
  | _ => exact .inl rfl

/-- A frame has the numbers that are expected, and a unit if it is to carry one. -/
structure InOrder (e : Endpoint) (apdu : Apdu) : Prop where
  acknowledged : ∀ receive, apdu.control.receive? = some receive →
    ∃ released window, e.window.acknowledge receive = .ok (released, window)
  expected : ∀ send, apdu.control.send? = some send → send = e.window.receive
  carries : apdu.control.isInformation → apdu.asdu?.isSome

/-- The state of an endpoint does not allow a frame. -/
inductive Misplaced (e : Endpoint) (apdu : Apdu) : Prop
  | numbered : apdu.control.receive?.isSome → e.state = .stopped → Misplaced e apdu
  | testCon : apdu.control = .unnumbered .testCon → e.testing = false → Misplaced e apdu
  | startCon : apdu.control = .unnumbered .startCon → e.pending ≠ some .startAct →
      Misplaced e apdu
  | stopCon : apdu.control = .unnumbered .stopCon → e.pending ≠ some .stopAct →
      Misplaced e apdu

/-- A frame in order closes the connection only if it is misplaced or if its unit cannot be
read. -/
theorem Receive.closed_eq (h : e.Receive apdu e') (horder : e.InOrder apdu)
    (hclosed : e.closed = none) :
    e'.closed = none ∨ (∃ fault, e'.closed = some (.protocolState fault)) ∧ e.Misplaced apdu ∨
      ∃ octets cause, apdu.asdu? = some octets ∧ e.format.decode octets = .error cause ∧
        e'.closed = some cause := by
  cases h with
  | informationStopped hstate | supervisoryStopped hstate =>
    exact .inr (.inl ⟨⟨_, rfl⟩, .numbered rfl hstate⟩)
  | testUnsolicited htesting => exact .inr (.inl ⟨⟨_, rfl⟩, .testCon rfl htesting⟩)
  | startUnsolicited hpending => exact .inr (.inl ⟨⟨_, rfl⟩, .startCon rfl hpending⟩)
  | stopUnsolicited hpending => exact .inr (.inl ⟨⟨_, rfl⟩, .stopCon rfl hpending⟩)
  | supervisoryRefused _ hack | informationRefused _ hack =>
    obtain ⟨released, window, hok⟩ := horder.acknowledged _ rfl
    rw [hack] at hok
    cases hok
  | numberRefused _ hack haccept =>
    rw [horder.expected _ rfl, ← Window.receive_of_acknowledge hack] at haccept
    exact absurd haccept (Window.accept_receive _ _)
  | @unitRefused _ _ octets? _ _ _ _ _ _ _ _ hunit =>
    cases octets? with
    | none => exact absurd (horder.carries rfl) Bool.false_ne_true
    | some octets =>
      refine .inr (.inr ⟨octets, _, rfl, ?_, rfl⟩)
      simp only [unitFault?] at hunit
      split at hunit
      · next hdecode =>
        rw [hdecode, Option.some.inj hunit]
      · cases hunit
  | stoppedByOther _ howed | stoppedAlready _ howed =>
    subst howed
    refine .inl ?_
    split <;> exact hclosed
  | _ => exact .inl hclosed

end Endpoint

/-- What happens at the station itself is no disorder of frames. -/
theorem LinkInput.closesWith.not_disorder {input : LinkInput} {cause : Fault}
    (h : input.closesWith cause) (hlocal : input.isLocal) : ¬cause.Disorder := by
  intro hdisorder
  cases input with
  | lost stream =>
    cases h
    cases hdisorder <;> cases hlocal
  | close | timers | expire =>
    cases h
    cases hdisorder
  | _ => cases h

namespace Station

variable {s : Station} {now : Nat} {input : LinkInput}

theorem released_local (h : input.isLocal) :
    (s.step now input).ledger.released = s.ledger.released := by
  cases input <;> first | rfl | cases h

theorem accepted_local (h : input.isLocal) :
    (s.step now input).ledger.accepted = s.ledger.accepted := by
  cases input <;> first | rfl | cases h

theorem released_frame (s : Station) (now : Nat) (apdu : Apdu) :
    (s.step now (.frame apdu)).ledger.released =
      s.ledger.released + s.endpoint.releases apdu := rfl

theorem length_accepted_le (s : Station) (now : Nat) (input : LinkInput) :
    s.ledger.accepted.length ≤ (s.step now input).ledger.accepted.length := by
  cases input with
  | frame apdu =>
    rw [accepted_frame, List.length_append]
    exact Nat.le_add_right _ _
  | _ => exact Nat.le_refl _

/-- A frame says how many frames its sender has accepted. -/
theorem accepted_of_mem_emits {p : Packet} (h : p ∈ s.emits now input) :
    p.accepted = (s.step now input).ledger.accepted.length := by
  -- What is accepted is entered in the ledger before any answer is.
  have hemits : ∃ b : Ledger, ∃ frames : List Apdu,
      s.emits now input = frames.map (b.packet now s.endpoint.stopping) ∧
        b.accepted = (s.step now input).ledger.accepted := by
    cases input <;> exact ⟨_, _, List.drop_left, rfl⟩
  obtain ⟨b, frames, heq, haccepted⟩ := hemits
  rw [heq] at h
  obtain ⟨apdu, -, rfl⟩ := List.mem_map.mp h
  rw [← haccepted]
  rfl

/-- A station whose connection does not end because frames are malformed or out of order. -/
structure Orderly (s : Station) : Prop where
  sound : s.Sound
  extension : ∀ x, s.link.extension = some x → x.RefusesInvalid
  in_order : ∀ cause, s.link.closed = some cause → ¬cause.Disorder

theorem Orderly.step_local (h : s.Orderly) (hlocal : input.isLocal) :
    (s.step now input).Orderly := by
  refine ⟨h.sound.step now input, ?_, ?_⟩
  · rw [extension_step]
    exact h.extension
  · intro cause hcause
    rcases s.link.step_cases now input with ⟨-, hact⟩ | ⟨_, rfl, -, -⟩ | ⟨_, rfl, -, -⟩
    · rcases hact.closed_eq with heq | ⟨cause', hcloses, heq⟩
      · exact h.in_order cause (heq.symm.trans hcause)
      · obtain rfl : cause' = cause := Option.some.inj (heq.symm.trans hcause)
        exact hcloses.not_disorder hlocal
    · cases hlocal
    · cases hlocal

end Station

/-! ### One direction -/

namespace Network

/-- What the near station sends reaches the far one, and is acknowledged, in order. -/
structure Conveys (n : Network) : Prop where
  delivered : ∃ arrived, n.near.ledger.sent = arrived ++ n.outward ∧
    n.far.ledger.accepted <+: units arrived ∧
      (n.far.link.closed = none → n.far.ledger.accepted = units arrived)
  released_le : n.near.ledger.released ≤ n.far.ledger.accepted.length
  released_le_acknowledged : ∀ p ∈ n.inward, n.near.ledger.released ≤ p.accepted

/-- Both stations keep their ledgers, and both directions convey what is sent. -/
structure Consistent (n : Network) : Prop where
  near : n.near.Sound
  far : n.far.Sound
  outward : n.Conveys
  inward : n.flip.Conveys

/-- Both stations are orderly, and both directions convey what is sent. -/
structure Agrees (n : Network) : Prop where
  near : n.near.Orderly
  far : n.far.Orderly
  outward : n.Conveys
  inward : n.flip.Conveys

variable {n : Network} {now : Nat} {input : LinkInput} {packet : Packet} {rest : List Packet}

theorem Consistent.flip (h : n.Consistent) : n.flip.Consistent :=
  ⟨h.far, h.near, h.inward, h.outward⟩

theorem Agrees.flip (h : n.Agrees) : n.flip.Agrees := ⟨h.far, h.near, h.inward, h.outward⟩

theorem Agrees.consistent (h : n.Agrees) : n.Consistent :=
  ⟨h.near.sound, h.far.sound, h.outward, h.inward⟩

/-- The far station accepts no more frames than the near one sent. -/
theorem Conveys.accepted_prefix (h : n.Conveys) :
    n.far.ledger.accepted <+: units n.near.ledger.sent := by
  obtain ⟨arrived, hsent, hprefix, -⟩ := h.delivered
  rw [hsent, units_append]
  exact hprefix.trans (List.prefix_append _ _)

theorem Conveys.length_accepted_le (h : n.Conveys) :
    n.far.ledger.accepted.length ≤ n.near.ledger.informations.length := by
  rw [← Ledger.length_units]
  exact h.accepted_prefix.length_le

/-! ### Something happens at the near station itself -/

theorem Conveys.near_acts (h : n.Conveys) (hlocal : input.isLocal) :
    (n.stepNear now input).Conveys := by
  obtain ⟨arrived, hsent, hprefix, heq⟩ := h.delivered
  refine ⟨⟨arrived, ?_, hprefix, heq⟩, ?_, ?_⟩
  · show (n.near.step now input).ledger.sent = arrived ++ (n.outward ++ n.near.emits now input)
    rw [Station.sent_step, hsent, List.append_assoc]
  · show (n.near.step now input).ledger.released ≤ _
    rw [Station.released_local hlocal]
    exact h.released_le
  · show ∀ p ∈ n.inward, (n.near.step now input).ledger.released ≤ p.accepted
    rw [Station.released_local hlocal]
    exact h.released_le_acknowledged

/-- The frames that a station sends acknowledge all that it has accepted. -/
theorem Conveys.acknowledged_of_step (h : n.flip.Conveys) :
    ∀ p ∈ n.outward ++ n.near.emits now input, n.far.ledger.released ≤ p.accepted := by
  intro p hp
  rcases List.mem_append.mp hp with hp | hp
  · exact h.released_le_acknowledged p hp
  · rw [Station.accepted_of_mem_emits hp]
    exact Nat.le_trans h.released_le (n.near.length_accepted_le now input)

theorem Conveys.far_acts (h : n.flip.Conveys) (hlocal : input.isLocal) :
    (n.stepNear now input).flip.Conveys := by
  obtain ⟨arrived, hsent, hprefix, heq⟩ := h.delivered
  refine ⟨⟨arrived, hsent, ?_, ?_⟩, ?_, h.acknowledged_of_step⟩
  · show (n.near.step now input).ledger.accepted <+: _
    rw [Station.accepted_local hlocal]
    exact hprefix
  · intro hopen
    show (n.near.step now input).ledger.accepted = _
    rw [Station.accepted_local hlocal]
    exact heq (Station.open_before hopen)
  · exact Nat.le_trans h.released_le (n.near.length_accepted_le now input)

theorem Consistent.act (h : n.Consistent) (hlocal : input.isLocal) :
    (n.stepNear now input).Consistent where
  near := h.near.step now input
  far := h.far
  outward := h.outward.near_acts hlocal
  inward := h.inward.far_acts hlocal

theorem Agrees.act (h : n.Agrees) (hlocal : input.isLocal) : (n.stepNear now input).Agrees where
  near := h.near.step_local hlocal
  far := h.far
  outward := h.outward.near_acts hlocal
  inward := h.inward.far_acts hlocal

/-! ### A frame arrives at the near station -/

/-- What arrived at the near station. -/
theorem Consistent.arrived (h : n.Consistent) :
    ∃ arrived, n.far.ledger.sent = arrived ++ n.inward ∧
      n.near.ledger.accepted <+: units arrived ∧
        (n.near.link.closed = none → n.near.ledger.accepted = units arrived) :=
  h.inward.delivered

theorem Consistent.mem_sent (h : n.Consistent) (hinward : n.inward = packet :: rest) :
    packet ∈ n.far.ledger.sent := by
  obtain ⟨arrived, hsent, -⟩ := h.arrived
  rw [hsent, hinward]
  exact List.mem_append_right _ List.mem_cons_self

/-- The count that a frame acknowledges lies between what was released and what was sent. -/
theorem Consistent.accepted_bounds (h : n.Consistent) (hinward : n.inward = packet :: rest) :
    n.near.ledger.released ≤ packet.accepted ∧
      packet.accepted ≤ n.far.ledger.accepted.length := by
  refine ⟨h.outward.released_le_acknowledged packet ?_, ?_⟩
  · rw [hinward]
    exact List.mem_cons_self
  · exact h.far.ledger.accepted_le packet (h.mem_sent hinward)

/-- The acknowledgment of a frame that arrives is not refused. -/
theorem Consistent.acknowledge_eq (h : n.Consistent) (hinward : n.inward = packet :: rest)
    {receive : UInt16} (hreceive : packet.apdu.control.receive? = some receive) :
    ∃ window, n.near.link.window.acknowledge receive =
      .ok (packet.accepted - n.near.ledger.released, window) := by
  obtain ⟨hle, hle'⟩ := h.accepted_bounds hinward
  -- So few frames are outstanding that a number tells which count is meant.
  have hk : n.near.link.window.k.toNat < 32768 := by
    rw [h.near.k_eq]
    exact Nat.lt_succ_of_le h.near.valid.k_le
  have hsent : packet.accepted ≤ (n.near.ledger.informations.map (·.sent)).length := by
    rw [List.length_map]
    exact Nat.le_trans hle' h.outward.length_accepted_le
  rw [h.far.ledger.acknowledges packet (h.mem_sent hinward) receive hreceive]
  exact h.near.ledger.records.acknowledge_frameNumber hk hle hsent

/-- An information frame that arrives has the number that is expected. -/
theorem Consistent.send_eq (h : n.Consistent) (hinward : n.inward = packet :: rest)
    (hopen : n.near.link.closed = none) {send : UInt16}
    (hsend : packet.apdu.control.send? = some send) : send = n.near.link.window.receive := by
  obtain ⟨arrived, hsent, -, heq⟩ := h.arrived
  have haccepted : n.near.ledger.accepted = units arrived := heq hopen
  have hinformation : packet.apdu.control.isInformation = true := by
    cases hcontrol : packet.apdu.control <;> rw [hcontrol] at hsend <;>
      first | rfl | cases hsend
  -- All information frames before this one were accepted, so it is the next one.
  have hnext : n.far.ledger.informations[n.near.ledger.accepted.length]? = some packet := by
    rw [Ledger.informations, hsent, hinward, List.filter_append, haccepted, units,
      List.length_map, List.getElem?_append_right (Nat.le_refl _), Nat.sub_self,
      List.filter_cons, if_pos hinformation]
    rfl
  have hnumber := h.far.ledger.numbered _ packet hnext
  have hreceive : n.near.link.window.receive = frameNumber n.near.ledger.accepted.length :=
    h.near.ledger.records.receive
  rw [hreceive]
  exact Option.some.inj (hsend.symm.trans hnumber)

/-- What the near station has released after a frame arrived. -/
theorem Consistent.released_frame (h : n.Consistent) (hinward : n.inward = packet :: rest) :
    n.near.ledger.released + n.near.endpoint.releases packet.apdu = n.near.ledger.released ∨
      n.near.ledger.released + n.near.endpoint.releases packet.apdu = packet.accepted := by
  unfold Endpoint.releases
  split
  · cases hreceive : packet.apdu.control.receive? with
    | none => exact .inl rfl
    | some receive =>
      obtain ⟨window, hack⟩ := h.acknowledge_eq hinward hreceive
      have hack : n.near.endpoint.window.acknowledge receive = _ := hack
      simp only [Option.map_some, hack]
      exact .inr (Nat.add_sub_cancel' (h.accepted_bounds hinward).1)
  · exact .inl rfl

theorem Consistent.outward_receive (h : n.Consistent) (hinward : n.inward = packet :: rest) :
    ({ n with inward := rest }.stepNear now (.frame packet.apdu)).Conveys := by
  obtain ⟨arrived, hsent, hprefix, heq⟩ := h.outward.delivered
  obtain ⟨hle, hle'⟩ := h.accepted_bounds hinward
  refine ⟨⟨arrived, ?_, hprefix, heq⟩, ?_, ?_⟩
  · show (n.near.step now _).ledger.sent = arrived ++ (n.outward ++ n.near.emits now _)
    rw [Station.sent_step, hsent, List.append_assoc]
  · show n.near.ledger.released + n.near.endpoint.releases packet.apdu ≤
      n.far.ledger.accepted.length
    rcases h.released_frame hinward with hreleased | hreleased <;> rw [hreleased]
    · exact h.outward.released_le
    · exact hle'
  · intro p hp
    show n.near.ledger.released + n.near.endpoint.releases packet.apdu ≤ p.accepted
    have hp : p ∈ rest := hp
    rcases h.released_frame hinward with hreleased | hreleased <;> rw [hreleased]
    · exact h.outward.released_le_acknowledged p (hinward ▸ List.mem_cons_of_mem _ hp)
    · -- The frames behind were sent later, and acknowledge no less.
      obtain ⟨arrived, hsent, -⟩ := h.arrived
      have hordered := h.far.ledger.ordered
      rw [hsent, hinward] at hordered
      exact List.rel_of_pairwise_cons (List.pairwise_append.mp hordered).2.1 hp

theorem Consistent.inward_receive (h : n.Consistent) (hinward : n.inward = packet :: rest) :
    ({ n with inward := rest }.stepNear now (.frame packet.apdu)).flip.Conveys := by
  obtain ⟨arrived, hsent, hprefix, heq⟩ := h.arrived
  have haccepted := n.near.accepted_frame now packet.apdu
  refine ⟨⟨arrived ++ [packet], ?_, ?_, ?_⟩, ?_, h.inward.acknowledged_of_step⟩
  · show n.far.ledger.sent = arrived ++ [packet] ++ rest
    rw [hsent, hinward, List.append_assoc]
    rfl
  · show (n.near.step now (.frame packet.apdu)).ledger.accepted <+: _
    rw [haccepted, units_append]
    -- The connection may have ended before: then nothing more is accepted.
    rcases n.near.endpoint.accepts?_eq_or packet.apdu with
      hnone | ⟨hopen, hinformation, hsome⟩
    · rw [hnone, Option.toList_none, List.append_nil]
      exact hprefix.trans (List.prefix_append _ _)
    · rw [hsome, heq hopen, units_singleton, if_pos hinformation]
      exact List.prefix_refl _
  · intro hopen'
    have hopen : n.near.link.closed = none := Station.open_before hopen'
    show (n.near.step now (.frame packet.apdu)).ledger.accepted = _
    rw [haccepted, units_append, heq hopen, units_singleton]
    split
    · next hinformation =>
      have hreceive := Link.endpoint_handleFrame (l := n.near.link) now hopen packet.apdu
      rw [hreceive.accepts?_eq hopen hopen' hinformation]
      rfl
    · next hinformation =>
      rcases n.near.endpoint.accepts?_eq_or packet.apdu with hnone | ⟨-, hinformation', -⟩
      · rw [hnone]
        rfl
      · exact absurd hinformation' hinformation
  · exact Nat.le_trans h.inward.released_le (n.near.length_accepted_le now _)

theorem Consistent.inOrder (h : n.Consistent) (hinward : n.inward = packet :: rest)
    (hopen : n.near.link.closed = none) : n.near.endpoint.InOrder packet.apdu where
  acknowledged := by
    intro receive hreceive
    obtain ⟨window, hack⟩ := h.acknowledge_eq hinward hreceive
    exact ⟨_, window, hack⟩
  expected := fun send hsend => h.send_eq hinward hopen hsend
  carries := h.far.ledger.carries packet (h.mem_sent hinward)

theorem Agrees.near_receive (h : n.Agrees) (hinward : n.inward = packet :: rest) :
    (n.near.step now (.frame packet.apdu)).Orderly := by
  refine ⟨h.near.sound.step now _, ?_, ?_⟩
  · rw [Station.extension_step]
    exact h.near.extension
  · intro cause hcause
    by_cases hopen : n.near.link.closed = none
    · have hreceive := Link.endpoint_handleFrame (l := n.near.link) now hopen packet.apdu
      rcases hreceive.closed_eq (h.consistent.inOrder hinward hopen) hopen with
        hclosed | ⟨⟨fault, hclosed⟩, -⟩ | ⟨octets, cause', -, hdecode, hclosed⟩
      · cases hclosed.symm.trans hcause
      · cases hclosed.symm.trans hcause
        nofun
      · cases hclosed.symm.trans hcause
        intro hdisorder
        cases AsduFormat.decode_unreadable _ h.near.extension _ _ hdecode <;> cases hdisorder
    · rw [Station.step_of_closed hopen] at hcause
      exact h.near.in_order cause hcause

theorem Consistent.receive (h : n.Consistent) (hinward : n.inward = packet :: rest) :
    ({ n with inward := rest }.stepNear now (.frame packet.apdu)).Consistent where
  near := h.near.step now _
  far := h.far
  outward := h.outward_receive hinward
  inward := h.inward_receive hinward

theorem Agrees.receive (h : n.Agrees) (hinward : n.inward = packet :: rest) :
    ({ n with inward := rest }.stepNear now (.frame packet.apdu)).Agrees where
  near := h.near_receive hinward
  far := h.far
  outward := h.consistent.outward_receive hinward
  inward := h.consistent.inward_receive hinward

/-! ### Runs -/

theorem Agrees.run (h : n.Agrees) (events : List (Side × NetworkEvent)) :
    (n.run events).Agrees :=
  run_induction (fun _ h => h.flip) (fun _ _ _ hlocal h => h.act hlocal)
    (fun _ _ _ _ hinward h => h.receive hinward) h events

theorem consistent_new {settings settings' : Settings} (hvalid : settings.Valid)
    (hvalid' : settings'.Valid) (extension extension' : Option Extension) :
    (new (.new settings extension) (.new settings' extension')).Consistent where
  near := Station.sound_new hvalid extension
  far := Station.sound_new hvalid' extension'
  outward := ⟨⟨[], rfl, List.prefix_refl _, fun _ => rfl⟩, Nat.le_refl _, nofun⟩
  inward := ⟨⟨[], rfl, List.prefix_refl _, fun _ => rfl⟩, Nat.le_refl _, nofun⟩

theorem agrees_new {settings settings' : Settings} {extension extension' : Option Extension}
    (hvalid : settings.Valid) (hvalid' : settings'.Valid)
    (hextension : ∀ x, extension = some x → x.RefusesInvalid)
    (hextension' : ∀ x, extension' = some x → x.RefusesInvalid) :
    (new (.new settings extension) (.new settings' extension')).Agrees where
  near := ⟨Station.sound_new hvalid extension, hextension, nofun⟩
  far := ⟨Station.sound_new hvalid' extension', hextension', nofun⟩
  outward := (consistent_new hvalid hvalid' extension extension').outward
  inward := (consistent_new hvalid hvalid' extension extension').inward

/-- Whatever happens at two connected stations and in whatever order, each has released no
more information frames than the other accepted, and the other has accepted no more than were
sent; those sent and not released are outstanding; the units accepted are the first that were
sent; and no connection ends because frames are out of order. -/
theorem agreement (settings settings' : Settings) (extension extension' : Option Extension)
    (hvalid : settings.Valid) (hvalid' : settings'.Valid)
    (hextension : ∀ x, extension = some x → x.RefusesInvalid)
    (hextension' : ∀ x, extension' = some x → x.RefusesInvalid)
    (events : List (Side × NetworkEvent)) (side : Side) :
    let n := ((new (.new settings extension) (.new settings' extension')).run events).view side
    n.near.ledger.sent.map (·.apdu) = n.near.link.log.filterMap Effect.frame? ∧
      n.near.ledger.released ≤ n.far.ledger.accepted.length ∧
      n.far.ledger.accepted.length ≤ n.near.ledger.informations.length ∧
      n.near.link.window.outstanding.toList =
        (numbered (n.near.ledger.informations.map (·.sent))).drop n.near.ledger.released ∧
      n.far.ledger.accepted <+: n.near.ledger.informations.map (·.apdu.asdu) ∧
      ∀ expected actual, n.near.link.closed ≠ some (.sequence expected actual) := by
  intro n
  have hrun : n.Agrees := by
    have hrun := (agrees_new hvalid hvalid' hextension hextension').run events
    cases side with
    | near => exact hrun
    | far => exact hrun.flip
  exact ⟨hrun.near.sound.ledger.frames, hrun.outward.released_le, hrun.outward.length_accepted_le,
    hrun.near.sound.ledger.records.outstanding, hrun.outward.accepted_prefix,
    fun expected actual hclosed => hrun.near.in_order _ hclosed (.sequence expected actual)⟩

/-- The counts after a command was sent, received and acknowledged. -/
theorem agreement_on_one_command :
    ({ k := 1, w := 1 } : Settings).Valid ∧
      (∀ x, some (Extension.ofWidth [200] 2) = some x → x.RefusesInvalid) ∧
      let n := (new (.new { k := 1, w := 1 } (some (.ofWidth [200] 2)))
          (.new { k := 1, w := 1 } (some (.ofWidth [200] 2)))).run
        [(.far, .act 0 (.call 0 (.awaitStart 0 9))), (.near, .act 0 (.call 0 (.start 0 9))),
          (.far, .receive 1), (.near, .receive 2),
          (.near, .act 3 (.call 1 (.send (.single .interrogation .activation 1 0
            [.interrogationQualifier 20])))),
          (.far, .receive 4), (.near, .receive 5)]
      n.near.ledger.released = 1 ∧ n.far.ledger.accepted.length = 1 ∧
        n.near.link.window.outstanding.toList = [] ∧
        n.far.ledger.accepted <+: n.near.ledger.informations.map (·.apdu.asdu) := by
  have hvalid : ({ k := 1, w := 1 } : Settings).Valid := (Settings.validate_eq_ok_iff _).mp rfl
  have hextension : ∀ x, some (Extension.ofWidth [200] 2) = some x → x.RefusesInvalid := by
    rintro x ⟨⟩
    exact Extension.refusesInvalid_ofWidth _ _
  obtain ⟨-, -, -, houtstanding, hprefix, -⟩ := agreement _ _ _ _ hvalid hvalid hextension
    hextension
    [(.far, .act 0 (.call 0 (.awaitStart 0 9))), (.near, .act 0 (.call 0 (.start 0 9))),
      (.far, .receive 1), (.near, .receive 2),
      (.near, .act 3 (.call 1 (.send (.single .interrogation .activation 1 0
        [.interrogationQualifier 20])))),
      (.far, .receive 4), (.near, .receive 5)] .near
  exact ⟨hvalid, hextension, rfl, rfl, houtstanding, hprefix⟩

end Network

end Telecontrol
