import Telecontrol.Proofs.Link.Endpoint
import Telecontrol.Proofs.Window

/-!
# The ledger of a station

A `Ledger` keeps, for a whole run, what a window keeps only modulo the number of frame
numbers: every frame that was sent, the information frames that were accepted, and how many
of those sent were released. `Ledger.Sound` says that an endpoint agrees with its ledger.
It is proved for each way in which an endpoint changes, `Endpoint.Act` and
`Endpoint.Receive`.
-/

namespace Telecontrol

namespace Control

/-- The number of an information frame. -/
def send? : Control → Option UInt16
  | information send _ => some send
  | _ => none

/-- The number up to which a frame acknowledges others. -/
def receive? : Control → Option UInt16
  | information _ receive => some receive
  | supervisory receive => some receive
  | unnumbered _ => none

end Control

/-- A frame, with what its sender had done when it was sent. -/
structure Packet where
  apdu : Apdu
  /-- The instant at which it was sent. -/
  sent : Nat
  /-- How many information frames its sender had accepted by then. -/
  accepted : Nat
  /-- Its sender was waiting for the confirmation of the end of data transfer. -/
  stopping : Bool

/-- What a station has sent and received. -/
structure Ledger where
  /-- The frames sent, oldest first. -/
  sent : List Packet := []
  /-- How many of the information frames sent were released by an acknowledgment. -/
  released : Nat := 0
  /-- The units of the information frames accepted, oldest first. -/
  accepted : List Octets := []

namespace Endpoint

/-- The activation that stops data transfer is not yet confirmed. -/
def stopping (e : Endpoint) : Bool := e.pending == some .stopAct

/-- How many outstanding frames a received frame releases. -/
def releases (e : Endpoint) (apdu : Apdu) : Nat :=
  if e.closed = none ∧ e.state = .started then
    match apdu.control.receive?.map e.window.acknowledge with
    | some (.ok (released, _)) => released
    | _ => 0
  else 0

/-- The unit of a received frame, if it is an information frame that is accepted. -/
def accepts? (e : Endpoint) (apdu : Apdu) : Option Octets :=
  if e.closed = none ∧ e.state = .started then
    match apdu.control with
    | .information send receive =>
      match e.window.acknowledge receive with
      | .ok (_, window) => (window.accept send).toOption.map fun _ => apdu.asdu
      | .error _ => none
    | _ => none
  else none

theorem accepts?_eq_or (e : Endpoint) (apdu : Apdu) :
    e.accepts? apdu = none ∨
      e.closed = none ∧ apdu.control.isInformation ∧ e.accepts? apdu = some apdu.asdu := by
  unfold accepts?
  split
  · next h =>
    split
    · next hcontrol =>
      split
      · next window _ =>
        cases window.accept _ with
        | ok _ => exact .inr ⟨h.1, by rw [hcontrol]; rfl, rfl⟩
        | error _ => exact .inl rfl
      · exact .inl rfl
    · exact .inl rfl
  · exact .inl rfl

theorem accepts?_of_not_information (e : Endpoint) {apdu : Apdu}
    (h : apdu.control.isInformation = false) : e.accepts? apdu = none := by
  rcases e.accepts?_eq_or apdu with hnone | ⟨-, hinformation, -⟩
  · exact hnone
  · cases h.symm.trans hinformation

/-- If the connection is still open after an information frame, the frame was accepted. -/
theorem Receive.accepts?_eq {e e' : Endpoint} {apdu : Apdu} (h : e.Receive apdu e')
    (hclosed : e.closed = none) (hopen : e'.closed = none)
    (hinformation : apdu.control.isInformation) : e.accepts? apdu = some apdu.asdu := by
  cases h with
  | information hstate hack haccept | informationDue hstate hack haccept =>
    simp [accepts?, hclosed, hstate, hack, haccept, Except.toOption]
  | informationStopped | informationRefused | numberRefused | unitRefused => cases hopen
  | _ => cases hinformation

end Endpoint

/-- How many accepted frames the last of some frames covers that acknowledges any. -/
def lastAccepted (packets : List Packet) : Nat :=
  ((packets.filter fun p => p.apdu.control.receive?.isSome).getLast?.map (·.accepted)).getD 0

theorem lastAccepted_concat (packets : List Packet) (p : Packet) :
    lastAccepted (packets ++ [p]) =
      if p.apdu.control.receive?.isSome then p.accepted else lastAccepted packets := by
  simp only [lastAccepted, List.filter_append, List.filter_cons, List.filter_nil]
  split
  · rw [List.getLast?_concat]
    rfl
  · rw [List.append_nil]

namespace Ledger

/-- The information frames sent. -/
def informations (b : Ledger) : List Packet :=
  b.sent.filter fun p => p.apdu.control.isInformation

/-- How many accepted frames the last frame covers that acknowledges any. -/
def covered (b : Ledger) : Nat :=
  ((b.sent.filter fun p => p.apdu.control.receive?.isSome).getLast?.map (·.accepted)).getD 0

/-- A frame that is sent now. -/
def packet (b : Ledger) (now : Nat) (stopping : Bool) (apdu : Apdu) : Packet :=
  ⟨apdu, now, b.accepted.length, stopping⟩

/-- Enter frames that are sent. -/
def post (b : Ledger) (now : Nat) (stopping : Bool) (frames : List Apdu) : Ledger :=
  { b with sent := b.sent ++ frames.map (b.packet now stopping) }

/-- Enter a frame that is received. -/
def receive (b : Ledger) (e : Endpoint) (apdu : Apdu) : Ledger :=
  { b with
    released := b.released + e.releases apdu
    accepted := b.accepted ++ (e.accepts? apdu).toList }

/-- Enter what happens in a step from one endpoint to another. -/
def record (b : Ledger) (e : Endpoint) (now : Nat) (input : LinkInput) (e' : Endpoint) :
    Ledger :=
  let received :=
    match input with
    | .frame apdu => b.receive e apdu
    | _ => b
  received.post now e.stopping (e'.frames.drop e.frames.length)

@[simp] theorem post_nil (b : Ledger) (now : Nat) (stopping : Bool) :
    b.post now stopping [] = b := by
  simp [post]

theorem post_append (b : Ledger) (now : Nat) (stopping : Bool) (first rest : List Apdu) :
    b.post now stopping (first ++ rest) =
      (b.post now stopping first).post now stopping rest := by
  simp [post, packet]

theorem informations_post (b : Ledger) (now : Nat) (stopping : Bool) (apdu : Apdu) :
    (b.post now stopping [apdu]).informations =
      b.informations ++
        if apdu.control.isInformation then [b.packet now stopping apdu] else [] := by
  simp only [informations, post, List.map_singleton, List.filter_append, List.filter_cons,
    List.filter_nil]
  rfl

theorem covered_eq (b : Ledger) : b.covered = lastAccepted b.sent := rfl

theorem covered_post (b : Ledger) (now : Nat) (stopping : Bool) (apdu : Apdu) :
    (b.post now stopping [apdu]).covered =
      if apdu.control.receive?.isSome then b.accepted.length else b.covered :=
  lastAccepted_concat b.sent (b.packet now stopping apdu)

section Receive

variable {e : Endpoint} {send number : UInt16} {octets? : Option Octets} {released : Nat}
  {window accepted : Window} {due : Bool} {cause : Fault}

theorem receive_of_not_started (b : Ledger) (apdu : Apdu)
    (h : ¬(e.closed = none ∧ e.state = .started)) : b.receive e apdu = b := by
  simp [receive, Endpoint.releases, Endpoint.accepts?, if_neg h]

theorem receive_unnumbered (b : Ledger) (e : Endpoint) (function : LinkFunction) :
    b.receive e ⟨.unnumbered function, octets?⟩ = b := by
  simp [receive, Endpoint.releases, Endpoint.accepts?, Control.receive?]

theorem receive_supervisory (b : Ledger) (hclosed : e.closed = none)
    (hstate : e.state = .started)
    (hack : e.window.acknowledge number = .ok (released, window)) :
    b.receive e ⟨.supervisory number, octets?⟩ =
      { b with released := b.released + released } := by
  simp [receive, Endpoint.releases, Endpoint.accepts?, Control.receive?, hclosed, hstate, hack]

theorem receive_supervisory_refused (b : Ledger)
    (hack : e.window.acknowledge number = .error cause) :
    b.receive e ⟨.supervisory number, octets?⟩ = b := by
  simp [receive, Endpoint.releases, Endpoint.accepts?, Control.receive?, hack]

theorem receive_information (b : Ledger) (hclosed : e.closed = none)
    (hstate : e.state = .started)
    (hack : e.window.acknowledge number = .ok (released, window))
    (haccept : window.accept send = .ok (due, accepted)) :
    b.receive e ⟨.information send number, octets?⟩ =
      { b with
        released := b.released + released
        accepted := b.accepted ++ [octets?.getD []] } := by
  simp [receive, Endpoint.releases, Endpoint.accepts?, Control.receive?, hclosed, hstate, hack,
    haccept, Except.toOption, Apdu.asdu]

theorem receive_information_refused (b : Ledger)
    (hack : e.window.acknowledge number = .error cause) :
    b.receive e ⟨.information send number, octets?⟩ = b := by
  simp [receive, Endpoint.releases, Endpoint.accepts?, Control.receive?, hack]

theorem receive_number_refused (b : Ledger) (hclosed : e.closed = none)
    (hstate : e.state = .started)
    (hack : e.window.acknowledge number = .ok (released, window))
    (haccept : window.accept send = .error cause) :
    b.receive e ⟨.information send number, octets?⟩ =
      { b with released := b.released + released } := by
  simp [receive, Endpoint.releases, Endpoint.accepts?, Control.receive?, hclosed, hstate, hack,
    haccept, Except.toOption]

end Receive

/-- An endpoint agrees with its ledger. -/
structure Sound (b : Ledger) (e : Endpoint) : Prop where
  frames : b.sent.map (·.apdu) = e.frames
  k : e.window.k = e.settings.k
  w : e.window.w = e.settings.w
  records : e.window.Records (b.informations.map (·.sent)) b.released b.accepted.length
    b.covered
  numbered : ∀ i p, b.informations[i]? = some p → p.apdu.control.send? = some (frameNumber i)
  acknowledges : ∀ p ∈ b.sent, ∀ receive, p.apdu.control.receive? = some receive →
    receive = frameNumber p.accepted
  ordered : b.sent.Pairwise fun p q => p.accepted ≤ q.accepted
  accepted_le : ∀ p ∈ b.sent, p.accepted ≤ b.accepted.length
  carries : ∀ p ∈ b.sent, p.apdu.control.isInformation → p.apdu.asdu?.isSome

variable {b : Ledger} {e e' : Endpoint} {now : Nat} {stopping : Bool}

namespace Sound

theorem new (settings : Settings) (extension : Option Extension) :
    ({} : Ledger).Sound (Link.new settings extension).endpoint where
  frames := rfl
  k := rfl
  w := rfl
  records := Window.Records.new settings.k settings.w
  numbered := by simp [informations]
  acknowledges := by simp
  ordered := List.Pairwise.nil
  accepted_le := by simp
  carries := by simp

/-- Only the settings, the window and the frames matter. -/
theorem congr (h : b.Sound e) (hsettings : e'.settings = e.settings)
    (hwindow : e'.window = e.window) (hframes : e'.frames = e.frames) : b.Sound e' where
  frames := h.frames.trans hframes.symm
  k := by rw [hwindow, hsettings]; exact h.k
  w := by rw [hwindow, hsettings]; exact h.w
  records := by rw [hwindow]; exact h.records
  numbered := h.numbered
  acknowledges := h.acknowledges
  ordered := h.ordered
  accepted_le := h.accepted_le
  carries := h.carries

/-- A frame that is sent must carry the right numbers. -/
theorem post (h : b.Sound e) {apdu : Apdu} (hframes : e'.frames = e.frames ++ [apdu])
    (hk : e'.window.k = e'.settings.k) (hw : e'.window.w = e'.settings.w)
    (hrecords : e'.window.Records ((b.post now stopping [apdu]).informations.map (·.sent))
      b.released b.accepted.length (b.post now stopping [apdu]).covered)
    (hsend : apdu.control.isInformation →
      apdu.control.send? = some (frameNumber b.informations.length))
    (hreceive : ∀ receive, apdu.control.receive? = some receive →
      receive = frameNumber b.accepted.length)
    (hcarries : apdu.control.isInformation → apdu.asdu?.isSome) :
    (b.post now stopping [apdu]).Sound e' where
  frames := by
    rw [hframes, ← h.frames]
    simp [Ledger.post, packet]
  k := hk
  w := hw
  records := hrecords
  numbered := by
    intro i p hp
    rw [informations_post] at hp
    -- Either an earlier frame is meant, or the one that is sent now.
    by_cases hi : i < b.informations.length
    · rw [List.getElem?_append_left hi] at hp
      exact h.numbered i p hp
    · rw [List.getElem?_append_right (Nat.le_of_not_lt hi)] at hp
      split at hp
      · next hinformation =>
        obtain ⟨hlt, rfl⟩ := List.getElem?_eq_some_iff.mp hp
        have hlast : i = b.informations.length := by
          rw [List.length_singleton] at hlt
          omega
        rw [List.getElem_singleton, hlast]
        exact hsend hinformation
      · cases hp
  acknowledges := by
    intro p hp
    rcases List.mem_append.mp hp with hp | hp
    · exact h.acknowledges p hp
    · rw [List.mem_singleton.mp hp]
      exact hreceive
  ordered := by
    refine List.pairwise_append.mpr ⟨h.ordered, List.pairwise_singleton _ _, ?_⟩
    intro p hp q hq
    rw [List.mem_singleton.mp hq]
    exact h.accepted_le p hp
  accepted_le := by
    intro p hp
    rcases List.mem_append.mp hp with hp | hp
    · exact h.accepted_le p hp
    · rw [List.mem_singleton.mp hp]
      exact Nat.le_refl _
  carries := by
    intro p hp
    rcases List.mem_append.mp hp with hp | hp
    · exact h.carries p hp
    · rw [List.mem_singleton.mp hp]
      exact hcarries

theorem transmit_unnumbered (h : b.Sound e) (function : LinkFunction) :
    (b.post now stopping [.unnumbered function]).Sound
      (e.transmit (.unnumbered function)) := by
  refine h.post rfl h.k h.w ?_ nofun nofun nofun
  have hrecords := h.records
  rwa [informations_post, covered_post, if_neg (by exact Bool.false_ne_true),
    if_neg (by exact Bool.false_ne_true), List.append_nil]

theorem sendSupervisory (h : b.Sound e) :
    (b.post now stopping [.supervisory e.window.receive]).Sound e.sendSupervisory := by
  obtain ⟨heq, hrecords⟩ := h.records.acknowledgeReceived
  refine h.post rfl h.k h.w ?_ nofun ?_ nofun
  · rwa [informations_post, covered_post, if_neg (by exact Bool.false_ne_true),
      if_pos (by rfl), List.append_nil]
  · rintro receive ⟨⟩
    exact h.records.receive

theorem sendInformation (h : b.Sound e) (hroom : e.window.isFull = false)
    (octets : Octets) :
    (b.post now stopping [.information e.window.send e.window.receive octets]).Sound
      (e.sendInformation now octets) := by
  obtain ⟨window, heq, hrecords, hk, hw, -⟩ := h.records.nextSend hroom now
  have hwindow : (e.sendInformation now octets).window = window := by
    simp only [Endpoint.sendInformation, heq]
    rfl
  refine h.post rfl ?_ ?_ ?_ ?_ ?_ fun _ => rfl
  · rw [hwindow, hk]
    exact h.k
  · rw [hwindow, hw]
    exact h.w
  · rw [hwindow, informations_post, covered_post, if_pos (by rfl), if_pos (by rfl),
      List.map_append]
    exact hrecords
  · intro _
    rw [← List.length_map (·.sent)]
    exact congrArg some h.records.send
  · rintro receive ⟨⟩
    exact h.records.receive

/-- Frames are released. -/
theorem release (h : b.Sound e) {number : UInt16} {released : Nat} {window : Window}
    (hack : e.window.acknowledge number = .ok (released, window)) :
    ({ b with released := b.released + released } : Ledger).Sound
      { e with window := window } := by
  obtain ⟨hrecords, hk, hw, -⟩ := h.records.acknowledge hack
  exact ⟨h.frames, hk.trans h.k, hw.trans h.w, hrecords, h.numbered, h.acknowledges,
    h.ordered, h.accepted_le, h.carries⟩

/-- A frame is accepted. -/
theorem accept (h : b.Sound e) (hcount : e.window.unacknowledged.toNat < 65535)
    {number : UInt16} {due : Bool} {window : Window}
    (haccept : e.window.accept number = .ok (due, window)) (octets : Octets) :
    ({ b with accepted := b.accepted ++ [octets] } : Ledger).Sound
      { e with window := window } := by
  obtain ⟨hrecords, hk, hw, -⟩ := h.records.accept hcount haccept
  refine ⟨h.frames, hk.trans h.k, hw.trans h.w, ?_, h.numbered, h.acknowledges, h.ordered,
    ?_, h.carries⟩
  · rw [List.length_append, List.length_singleton]
    exact hrecords
  · intro p hp
    rw [List.length_append]
    exact Nat.le_add_right_of_le (h.accepted_le p hp)

end Sound

end Ledger

end Telecontrol
