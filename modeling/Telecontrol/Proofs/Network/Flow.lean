import Telecontrol.Proofs.Link.Queue
import Telecontrol.Proofs.Network.Handshake

/-!
# Windows when nothing is on its way

A station releases the frames that the other one acknowledges as soon as it learns of it
(`Network.Heeds`). So when both connections are open and nothing is on its way, what is outstanding
at one station is what the other one owes (`Network.Accounted.outstanding_eq`). A station owes
fewer than `w` frames, and `w` is at most `k`: the window has room then, and no call waits for it
(`Network.flow_never_stalls`).
-/

namespace Telecontrol

namespace Network

/-- The near station has released what the last frame that arrived at it acknowledges, unless its
connection is closed. -/
def Heeds (n : Network) : Prop :=
  ∃ arrived, n.far.ledger.sent = arrived ++ n.inward ∧
    (n.near.link.closed = none → n.near.ledger.released = lastAccepted arrived)

/-- Both stations heed what the other one acknowledges. -/
structure Accounted (n : Network) : Prop where
  consistent : n.Consistent
  near : n.Heeds
  far : n.flip.Heeds

/-- Both connections are open, and no frame is on its way. -/
structure Quiet (n : Network) : Prop where
  near : n.near.link.closed = none
  far : n.far.link.closed = none
  outward : n.outward = []
  inward : n.inward = []

variable {n : Network} {now : Nat} {input : LinkInput} {packet : Packet} {rest : List Packet}

theorem Accounted.flip (h : n.Accounted) : n.flip.Accounted := ⟨h.consistent.flip, h.far, h.near⟩

theorem Accounted.view (h : n.Accounted) (side : Side) : (n.view side).Accounted := by
  cases side with
  | near => exact h
  | far => exact h.flip

/-! ### One step -/

theorem Heeds.act (h : n.Heeds) (hlocal : input.isLocal) : (n.stepNear now input).Heeds := by
  obtain ⟨arrived, hsent, hreleased⟩ := h
  refine ⟨arrived, hsent, fun hopen => ?_⟩
  exact (Station.released_local hlocal).trans (hreleased (Station.open_before hopen))

/-- What the near station does is nothing that arrives at the far one. -/
theorem Heeds.other (h : n.flip.Heeds) : (n.stepNear now input).flip.Heeds := by
  obtain ⟨arrived, hsent, hreleased⟩ := h
  have hsent : n.near.ledger.sent = arrived ++ n.outward := hsent
  refine ⟨arrived, ?_, hreleased⟩
  show (n.near.step now input).ledger.sent = arrived ++ (n.outward ++ n.near.emits now input)
  rw [Station.sent_step, hsent, List.append_assoc]

/-- If the connection stays open, what a frame acknowledges is released when it arrives. -/
theorem Consistent.released_eq (h : n.Consistent) (hinward : n.inward = packet :: rest)
    (hopen : (n.near.step now (.frame packet.apdu)).link.closed = none) :
    (n.near.step now (.frame packet.apdu)).ledger.released =
      if packet.apdu.control.receive?.isSome then packet.accepted
      else n.near.ledger.released := by
  have hbefore : n.near.link.closed = none := Station.open_before hopen
  rw [Station.released_frame]
  cases hreceive : packet.apdu.control.receive? with
  | none =>
    rw [Endpoint.releases, hreceive, Option.map_none]
    split <;> rfl
  | some receive =>
    -- Data transfer is started, as the frame would have closed the connection.
    have hstate : n.near.endpoint.state = .started := by
      refine LinkState.eq_started_of_ne fun hstopped => ?_
      have hstep := Link.endpoint_handleFrame (l := n.near.link) now hbefore packet.apdu
      obtain ⟨fault, hclosed⟩ := hstep.closed_of_stopped hstopped (by rw [hreceive]; rfl)
      cases hopen.symm.trans hclosed
    obtain ⟨window, hack⟩ := h.acknowledge_eq hinward hreceive
    have hack : n.near.endpoint.window.acknowledge receive = _ := hack
    rw [Endpoint.releases, if_pos ⟨hbefore, hstate⟩, hreceive, Option.map_some, hack]
    exact Nat.add_sub_cancel' (h.accepted_bounds hinward).1

theorem Heeds.receive (h : n.Heeds) (hconsistent : n.Consistent)
    (hinward : n.inward = packet :: rest) :
    ({ n with inward := rest }.stepNear now (.frame packet.apdu)).Heeds := by
  obtain ⟨arrived, hsent, hreleased⟩ := h
  refine ⟨arrived ++ [packet], ?_, fun hopen => ?_⟩
  · show n.far.ledger.sent = arrived ++ [packet] ++ rest
    rw [hsent, hinward, List.append_assoc]
    rfl
  · have hbefore : n.near.link.closed = none := Station.open_before hopen
    rw [lastAccepted_concat, ← hreleased hbefore]
    exact hconsistent.released_eq hinward hopen

theorem Accounted.act (h : n.Accounted) (hlocal : input.isLocal) :
    (n.stepNear now input).Accounted :=
  ⟨h.consistent.act hlocal, h.near.act hlocal, h.far.other⟩

theorem Accounted.receive (h : n.Accounted) (hinward : n.inward = packet :: rest) :
    ({ n with inward := rest }.stepNear now (.frame packet.apdu)).Accounted :=
  ⟨h.consistent.receive hinward, h.near.receive h.consistent hinward, h.far.other⟩

/-! ### Runs -/

theorem Accounted.run (h : n.Accounted) (events : List (Side × NetworkEvent)) :
    (n.run events).Accounted :=
  run_induction (fun _ h => h.flip) (fun _ _ _ hlocal h => h.act hlocal)
    (fun _ _ _ _ hinward h => h.receive hinward) h events

theorem accounted_new {settings settings' : Settings} (hvalid : settings.Valid)
    (hvalid' : settings'.Valid) (extension extension' : Option Extension) :
    (new (.new settings extension) (.new settings' extension')).Accounted :=
  ⟨consistent_new hvalid hvalid' extension extension', ⟨[], rfl, fun _ => rfl⟩,
    ⟨[], rfl, fun _ => rfl⟩⟩

/-- When nothing is on its way, one station waits for what the other one owes. -/
theorem Accounted.outstanding_eq (h : n.Accounted) (hquiet : n.Quiet) :
    n.near.link.window.outstanding.size = n.far.link.window.unacknowledged.toNat := by
  have hsize := h.consistent.near.ledger.records.size_outstanding
  rw [List.length_map] at hsize
  have hcount := h.consistent.far.ledger.records.accepted_eq
  -- Everything arrived that was sent, in both directions.
  have haccepted : n.far.ledger.accepted.length = n.near.ledger.informations.length := by
    obtain ⟨arrived, hsent, -, hunits⟩ := h.consistent.outward.delivered
    rw [hquiet.outward, List.append_nil] at hsent
    rw [hunits hquiet.far, ← hsent, Ledger.length_units]
  have hreleased : n.near.ledger.released = n.far.ledger.covered := by
    obtain ⟨arrived, hsent, hreleased⟩ := h.near
    rw [hquiet.inward, List.append_nil] at hsent
    rw [hreleased hquiet.near, ← hsent, Ledger.covered_eq]
  calc n.near.link.window.outstanding.size
      = n.near.ledger.informations.length - n.near.ledger.released := hsize
    _ = n.far.ledger.accepted.length - n.far.ledger.covered := by rw [haccepted, hreleased]
    _ = n.far.link.window.unacknowledged.toNat := by
      rw [hcount]
      exact Nat.add_sub_cancel_left _ _

theorem settings_of_new (settings : Settings) (extension extension' : Option Extension)
    (events : List (Side × NetworkEvent)) (side : Side) :
    (((new (.new settings extension) (.new settings extension')).run events).view
      side).near.link.settings = settings := by
  rw [settings_run]
  cases side <;> rfl

theorem alert_of_new (settings : Settings) (extension extension' : Option Extension)
    (events : List (Side × NetworkEvent)) (side : Side) :
    (((new (.new settings extension) (.new settings extension')).run events).view
      side).near.link.queue.Alert := by
  rw [near_run, Station.run_link]
  cases side <;> exact Link.alert_run _ _ _

/-- Whatever happens at two connected stations with the same settings, when both connections are
open and nothing is on its way, as many frames of one are outstanding as the other one owes, and
these are fewer than `k`: no call that is to send a unit waits for room in the window. -/
theorem flow_never_stalls (settings : Settings) (extension extension' : Option Extension)
    (hvalid : settings.Valid) (events : List (Side × NetworkEvent)) (side : Side) :
    let n := ((new (.new settings extension) (.new settings extension')).run events).view side
    n.Quiet →
      n.near.link.window.outstanding.size = n.far.link.window.unacknowledged.toNat ∧
      n.near.link.window.outstanding.size < settings.k.toNat ∧
      n.near.link.Flows := by
  intro n hquiet
  have hn : n.Accounted := ((accounted_new hvalid hvalid extension extension').run events).view side
  have hsize := hn.outstanding_eq hquiet
  have hk : n.near.link.window.k = settings.k := by
    rw [hn.consistent.near.k_eq, settings_of_new]
  have hw : n.far.link.window.w = settings.w := by
    rw [hn.consistent.far.w_eq, far_view, settings_of_new]
  have hlt : n.near.link.window.outstanding.size < settings.k.toNat := by
    have howed := hn.consistent.far.prompt.unacknowledged_lt hquiet.far
    calc n.near.link.window.outstanding.size = n.far.link.window.unacknowledged.toNat := hsize
      _ < n.far.link.window.w.toNat := howed
      _ = settings.w.toNat := by rw [hw]
      _ ≤ settings.k.toNat := hvalid.w_le
  have hroom : n.near.link.window.isFull = false := by
    rw [Window.isFull, hk]
    exact decide_eq_false (Nat.not_le_of_lt hlt)
  exact ⟨hsize, hlt, .of_room hroom (alert_of_new settings extension extension' events side)⟩

/-- With windows of one frame, a unit is sent while another call waits: its acknowledgment makes
room again. -/
theorem second_unit_flows :
    ({ k := 1, w := 1 } : Settings).Valid ∧
      let n := (new (.new { k := 1, w := 1 } none) (.new { k := 1, w := 1 } none)).run
        [(.far, .act 0 (.call 0 (.awaitStart 0 9))), (.near, .act 0 (.call 0 (.start 0 9))),
          (.far, .receive 1), (.near, .receive 2),
          (.near, .act 3 (.call 1 (.send (.single .interrogation .activation 1 0
            [.interrogationQualifier 20])))),
          (.near, .act 3 (.call 2 (.send (.single .interrogation .activation 1 0
            [.interrogationQualifier 20])))),
          (.far, .receive 4), (.near, .receive 5)]
      n.Quiet ∧ n.near.link.senders.map (·.call) = [2] ∧
        n.near.link.window.outstanding.size < 1 ∧ n.near.link.Flows := by
  have hvalid : ({ k := 1, w := 1 } : Settings).Valid := (Settings.validate_eq_ok_iff _).mp rfl
  refine ⟨hvalid, ?_⟩
  intro n
  have hquiet : n.Quiet := ⟨rfl, rfl, rfl, rfl⟩
  obtain ⟨-, hlt, hflows⟩ := flow_never_stalls { k := 1, w := 1 } none none hvalid
    [(.far, .act 0 (.call 0 (.awaitStart 0 9))), (.near, .act 0 (.call 0 (.start 0 9))),
      (.far, .receive 1), (.near, .receive 2),
      (.near, .act 3 (.call 1 (.send (.single .interrogation .activation 1 0
        [.interrogationQualifier 20])))),
      (.near, .act 3 (.call 2 (.send (.single .interrogation .activation 1 0
        [.interrogationQualifier 20])))),
      (.far, .receive 4), (.near, .receive 5)] .near hquiet
  exact ⟨hquiet, rfl, hlt, hflows⟩

end Network

end Telecontrol
