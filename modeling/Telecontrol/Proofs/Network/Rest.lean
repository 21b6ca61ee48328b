import Telecontrol.Proofs.Link.Acknowledgment
import Telecontrol.Proofs.Link.Supervision
import Telecontrol.Proofs.Network.Flow

/-!
# What a stop leaves behind

When both connections are open and nothing is on its way, no activation waits for a confirmation
(`Network.Quiet.confirmed`), and t1 runs at a station only for frames that the other one owes
(`Network.Quiet.t1_eq_none_iff`). If the other one is stopped, it will not acknowledge them before
data transfer starts again. It acknowledges what it owes before it confirms that it stops, but not
before it asks for the end itself: what it leaves unacknowledged then runs t1 out
(`Network.waiting_after_stop_iff`).
-/

namespace Telecontrol

namespace Network

variable {n : Network}

/-- When nothing is on its way, nobody waits for a confirmation that t1 supervises. -/
theorem Quiet.confirmed (hquiet : n.Quiet) (h : n.IsCourteous) :
    n.near.link.testSent = none ∧ n.near.link.stopSent? = none := by
  have hcourtesy := h.outward
  rw [hquiet.outward, hquiet.inward] at hcourtesy
  have hnear : n.near.endpoint.posture.isOpen := Option.isNone_iff_eq_none.mpr hquiet.near
  have hfar : n.far.endpoint.posture.isOpen := Option.isNone_iff_eq_none.mpr hquiet.far
  constructor
  · have htesting : n.near.link.testSent.isSome.toNat ≤ 0 := hcourtesy.tests.ge hnear hfar
    simpa using htesting
  · have hstopping : n.near.endpoint.posture.awaits .stopAct ≤ 0 := hcourtesy.stops.ge hnear hfar
    refine Option.not_isSome_iff_eq_none.mp fun hsome => ?_
    rw [Link.isSome_stopSent?, beq_iff_eq] at hsome
    have hawaits : n.near.endpoint.posture.awaits .stopAct = 1 := if_pos hsome
    omega

/-- When nothing is on its way, t1 runs only for frames that are outstanding. -/
theorem Quiet.t1_eq_none_iff (hquiet : n.Quiet) (h : n.IsCourteous)
    (harmed : n.near.link.watch.supervision.deadline? = n.near.link.watch.supervision.due?) :
    n.near.link.timers.t1 = none ↔ n.near.link.window.outstanding.size = 0 := by
  obtain ⟨htest, hstop⟩ := hquiet.confirmed h
  have hcandidates : n.near.link.watch.supervision.candidates =
      (n.near.link.window.outstanding.toList.map (·.sent)).head?.toList := by
    show _ ++ n.near.link.testSent.toList ++ n.near.link.stopSent?.toList = _
    rw [htest, hstop, Option.toList_none, List.append_nil, List.append_nil]
    rfl
  have harmed : n.near.link.timers.t1 = n.near.link.watch.supervision.due? := harmed
  rw [harmed, Supervision.due?, hcandidates]
  simp

/-- The rules for starting and stopping data transfer are kept, whatever units are exchanged. -/
theorem IsCourteous.run (h : n.IsCourteous) (hn : n.Consistent)
    (events : List (Side × NetworkEvent)) : (n.run events).IsCourteous := by
  have hrun : (n.run events).Consistent ∧ (n.run events).IsCourteous :=
    @run_induction (fun n => n.Consistent ∧ n.IsCourteous)
      (fun _ h => ⟨h.1.flip, h.2.flip⟩)
      (fun _ _ _ hlocal h => ⟨h.1.act hlocal, h.2.act h.1.near.prompt hlocal⟩)
      (fun _ _ _ _ hinward h => ⟨h.1.receive hinward, h.2.receive hinward⟩) _ ⟨hn, h⟩ events
  exact hrun.2

theorem IsCourteous.view (h : n.IsCourteous) (side : Side) : (n.view side).IsCourteous := by
  cases side with
  | near => exact h
  | far => exact h.flip

/-- A station of a network has gone through a run of its own. -/
theorem near_of_new (settings : Settings) (extension extension' : Option Extension)
    (events : List (Side × NetworkEvent)) (side : Side) :
    let start := new (.new settings extension) (.new settings extension')
    ∃ x, (start.view side).near = .new settings x ∧
      ((start.run events).view side).near =
        (Station.new settings x).run (start.inputs side events) := by
  intro start
  have hnew : ∃ x, (start.view side).near = .new settings x := by
    cases side <;> exact ⟨_, rfl⟩
  obtain ⟨x, hx⟩ := hnew
  exact ⟨x, hx, by rw [near_run, hx]⟩

/-- Whatever happens at two connected stations with the same settings, when both connections are
open, nothing is on its way and one of them is stopped, the other one waits for an acknowledgment
exactly if the stopped one left frames unacknowledged when the end of data transfer was last
confirmed to it, and still does. -/
theorem waiting_after_stop_iff (settings : Settings) (extension extension' : Option Extension)
    (hvalid : settings.Valid) (events : List (Side × NetworkEvent)) (side : Side) :
    let start := new (.new settings extension) (.new settings extension')
    let n := (start.run events).view side
    let j := (start.view side.other).near.journal {} (start.inputs side.other events)
    n.Quiet → n.far.link.state = .stopped →
      (n.near.link.timers.t1 = none ↔ n.far.link.window.unacknowledged = 0) ∧
      (n.near.link.timers.t1 = none ↔ j.stopped ≤ n.far.ledger.covered) := by
  intro start n j hquiet hstopped
  have hstart : start.Accounted := accounted_new hvalid hvalid extension extension'
  have hcourteous : n.IsCourteous := by
    have hnew : start.IsCourteous := Courteous.new
    exact (hnew.run hstart.consistent events).view side
  have hsize : n.near.link.window.outstanding.size = n.far.link.window.unacknowledged.toNat :=
    ((hstart.run events).view side).outstanding_eq hquiet
  obtain ⟨x, -, hnear⟩ := near_of_new settings extension extension' events side
  obtain ⟨x', hnew, hfar⟩ := near_of_new settings extension extension' events side.other
  rw [← far_view] at hfar
  have harmed : n.near.link.watch.supervision.deadline? = n.near.link.watch.supervision.due? := by
    have hopen : n.near.link.closed = none := hquiet.near
    revert hopen
    rw [show n.near = _ from hnear]
    exact Station.t1_run settings x _
  have hwaits : n.near.link.timers.t1 = none ↔ n.far.link.window.unacknowledged = 0 := by
    rw [hquiet.t1_eq_none_iff hcourteous harmed, hsize, ← UInt16.toNat_inj, UInt16.toNat_zero]
  refine ⟨hwaits, hwaits.trans ?_⟩
  have hj : j = (Station.new settings x').journal {} (start.inputs side.other events) := by
    rw [← hnew]
  have hopen : n.far.link.closed = none := hquiet.far
  revert hopen hstopped
  rw [hj, show n.far = _ from hfar]
  exact fun hstopped hopen => Station.owed_of_stopped settings x' hvalid _ hopen hstopped

/-- Data transfer is started, and a command is sent that the far station receives. -/
def commandReceived : List (Side × NetworkEvent) :=
  [(.far, .act 0 (.call 0 (.awaitStart 0 9))), (.near, .act 0 (.call 0 (.start 0 9))),
    (.far, .receive 1), (.near, .receive 1),
    (.near, .act 2 (.call 1 (.send (.single .interrogation .activation 1 0
      [.interrogationQualifier 20])))),
    (.far, .receive 3)]

/-- The sender of the command stops data transfer. -/
def stopBySender : List (Side × NetworkEvent) :=
  commandReceived ++ [(.near, .act 4 (.call 2 .stop)), (.far, .receive 5), (.near, .receive 6),
    (.near, .receive 6)]

/-- The receiver of the command stops data transfer. -/
def stopByReceiver : List (Side × NetworkEvent) :=
  commandReceived ++ [(.far, .act 4 (.call 1 .stop)), (.near, .receive 5), (.far, .receive 6)]

/-- If the sender of a command asks for the end, the receiver acknowledges the command before it
stops. -/
theorem nobody_waits_after_stop_by_sender :
    ({ t1 := 10, t2 := 5 } : Settings).Valid ∧
      let n := (new (.new { t1 := 10, t2 := 5 } none) (.new { t1 := 10, t2 := 5 } none)).run
        stopBySender
      n.Quiet ∧ n.far.link.state = .stopped ∧ n.near.link.timers.t1 = none := by
  have hvalid : ({ t1 := 10, t2 := 5 } : Settings).Valid :=
    (Settings.validate_eq_ok_iff _).mp rfl
  refine ⟨hvalid, ?_⟩
  intro n
  have hquiet : n.Quiet := ⟨rfl, rfl, rfl, rfl⟩
  obtain ⟨hwaits, -⟩ :=
    waiting_after_stop_iff _ none none hvalid stopBySender .near hquiet rfl
  exact ⟨hquiet, rfl, hwaits.mpr rfl⟩

/-- If the receiver asks for the end, it leaves the command unacknowledged. Nothing is on its way
and both stations are stopped then, but the sender still waits, and its connection ends when t1
has passed. -/
theorem sender_waits_after_stop_by_receiver :
    ({ t1 := 10, t2 := 5 } : Settings).Valid ∧
      let n := (new (.new { t1 := 10, t2 := 5 } none) (.new { t1 := 10, t2 := 5 } none)).run
        stopByReceiver
      n.Quiet ∧ n.near.link.state = .stopped ∧ n.far.link.state = .stopped ∧
        n.near.link.handshake = none ∧ n.far.link.handshake = none ∧
        n.near.link.timers.t1 = some 12 ∧
        (n.near.link.step 12 .timers).closed = some (.timeout .acknowledgment) := by
  refine ⟨(Settings.validate_eq_ok_iff _).mp rfl, ?_⟩
  intro n
  exact ⟨⟨rfl, rfl, rfl, rfl⟩, rfl, rfl, rfl, rfl, rfl, rfl⟩

end Network

end Telecontrol
