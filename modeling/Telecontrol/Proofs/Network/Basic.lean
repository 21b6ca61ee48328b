import Telecontrol.Proofs.Link.Station

/-!
# Two stations that are connected

A `Network` is two stations and, for each direction, the frames that are on their way. A
channel loses nothing and keeps the order. Stations differ only in where one looks from:
`Network.flip` exchanges them, so that what happens at one station is described once
(`Network.happen`) and a property that does not change when they are exchanged is proved for
steps of one station only (`Network.run_induction`).
-/

namespace Telecontrol

/-- What happens at a station itself, of which the other one knows nothing, with a stream
that fails as a stream does. -/
def LinkInput.isLocal : LinkInput → Bool
  | .frame _ => false
  | .lost (.transport _ _) => true
  | .lost _ => false
  | _ => true

/-- The frames that a station sends in a step. -/
def Station.emits (s : Station) (now : Nat) (input : LinkInput) : List Packet :=
  (s.step now input).ledger.sent.drop s.ledger.sent.length

theorem Station.sent_step (s : Station) (now : Nat) (input : LinkInput) :
    (s.step now input).ledger.sent = s.ledger.sent ++ s.emits now input := by
  have hprefix : ∃ packets, (s.step now input).ledger.sent = s.ledger.sent ++ packets := by
    cases input <;> exact ⟨_, rfl⟩
  obtain ⟨packets, hpackets⟩ := hprefix
  rw [emits, hpackets, List.drop_left]

/-- Two stations and the frames between them. -/
structure Network where
  near : Station
  far : Station
  /-- The frames on the way from the near to the far station, oldest first. -/
  outward : List Packet := []
  /-- The frames on the way from the far to the near station, oldest first. -/
  inward : List Packet := []

/-- What can happen at a station of a network. -/
inductive NetworkEvent
  /-- Something happens at the station itself. -/
  | act (now : Nat) (input : LinkInput)
  /-- The oldest frame on its way arrives. -/
  | receive (now : Nat)

/-- The stations of a network. -/
inductive Side
  | near
  | far
  deriving DecidableEq

/-- The other side. -/
def Side.other : Side → Side
  | near => far
  | far => near

namespace Network

/-- Two stations at the beginning of a connection. -/
def new (near far : Station) : Network where
  near := near
  far := far

/-- The network, looked at from the other station. -/
def flip (n : Network) : Network where
  near := n.far
  far := n.near
  outward := n.inward
  inward := n.outward

/-- The network, looked at from one of the stations. -/
def view (n : Network) : Side → Network
  | .near => n
  | .far => n.flip

/-- The near station takes a step. -/
def stepNear (n : Network) (now : Nat) (input : LinkInput) : Network :=
  { n with
    near := n.near.step now input
    outward := n.outward ++ n.near.emits now input }

/-- Something happens at the near station. -/
def happen (n : Network) : NetworkEvent → Network
  | .act now input => if input.isLocal then n.stepNear now input else n
  | .receive now =>
    match n.inward with
    | [] => n
    | packet :: rest => { n with inward := rest }.stepNear now (.frame packet.apdu)

/-- Something happens at a station. -/
def step (n : Network) : Side × NetworkEvent → Network
  | (.near, event) => n.happen event
  | (.far, event) => (n.flip.happen event).flip

/-- What happens at the stations, one thing after the other. -/
def run (n : Network) (events : List (Side × NetworkEvent)) : Network := events.foldl step n

@[simp] theorem run_nil (n : Network) : n.run [] = n := rfl

@[simp] theorem run_cons (n : Network) (move : Side × NetworkEvent)
    (events : List (Side × NetworkEvent)) :
    n.run (move :: events) = (n.step move).run events := rfl

/-- A property that does not depend on where one looks from holds throughout if it holds at
the beginning and the near station keeps it. -/
theorem run_induction {Holds : Network → Prop} (hflip : ∀ n, Holds n → Holds n.flip)
    (hact : ∀ n now input, input.isLocal → Holds n → Holds (n.stepNear now input))
    (hreceive : ∀ n now packet rest, n.inward = packet :: rest → Holds n →
      Holds ({ n with inward := rest }.stepNear now (.frame packet.apdu)))
    {n : Network} (h : Holds n) (events : List (Side × NetworkEvent)) :
    Holds (n.run events) := by
  have hhappen : ∀ n event, Holds n → Holds (n.happen event) := by
    intro n event h
    cases event with
    | act now input =>
      simp only [happen]
      split
      · next hlocal => exact hact n now input hlocal h
      · exact h
    | receive now =>
      simp only [happen]
      split
      · exact h
      · next packet rest hinward => exact hreceive n now packet rest hinward h
  induction events generalizing n with
  | nil => exact h
  | cons move events ih =>
    obtain ⟨side, event⟩ := move
    cases side with
    | near => exact ih (hhappen n event h)
    | far => exact ih (hflip _ (hhappen n.flip event (hflip n h)))

/-- A step, looked at from the station that takes it. -/
theorem view_step_self (n : Network) (side : Side) (event : NetworkEvent) :
    (n.step (side, event)).view side = (n.view side).happen event := by
  cases side <;> rfl

theorem far_happen (n : Network) (event : NetworkEvent) : (n.happen event).far = n.far := by
  cases event with
  | act now input =>
    simp only [happen]
    split <;> rfl
  | receive now =>
    simp only [happen]
    split <;> rfl

/-- A step, looked at from the other station. -/
theorem near_view_step (n : Network) {side other : Side} (hne : side ≠ other)
    (event : NetworkEvent) :
    ((n.step (other, event)).view side).near = (n.view side).near := by
  cases side <;> cases other <;> first | exact absurd rfl hne | exact far_happen _ event

/-! ### A station of a network by itself -/

/-- What an event at the near station is for this station, if it is anything. -/
def input? (n : Network) : NetworkEvent → Option (Nat × LinkInput)
  | .act now input => if input.isLocal then some (now, input) else none
  | .receive now => n.inward.head?.map fun packet => (now, .frame packet.apdu)

theorem near_happen (n : Network) (event : NetworkEvent) :
    (n.happen event).near = n.near.run (n.input? event).toList := by
  cases event with
  | act now input =>
    simp only [happen, input?]
    split <;> rfl
  | receive now =>
    simp only [happen, input?]
    split
    · next hinward =>
      rw [hinward]
      rfl
    · next hinward =>
      rw [hinward]
      rfl

/-- What happens at one of the stations in the course of a run. -/
def inputs (n : Network) (side : Side) : List (Side × NetworkEvent) → List (Nat × LinkInput)
  | [] => []
  | (other, event) :: events =>
    (if side = other then ((n.view side).input? event).toList else []) ++
      (n.step (other, event)).inputs side events

/-- Each station of a network goes through what happens at it as if it were alone. -/
theorem near_run (n : Network) (side : Side) (events : List (Side × NetworkEvent)) :
    ((n.run events).view side).near = (n.view side).near.run (n.inputs side events) := by
  induction events generalizing n with
  | nil => rfl
  | cons move events ih =>
    obtain ⟨other, event⟩ := move
    rw [run_cons, ih, inputs, Station.run_append]
    congr 1
    by_cases hside : side = other
    · subst hside
      rw [if_pos rfl, view_step_self, near_happen]
    · rw [if_neg hside, near_view_step n hside]
      rfl

theorem far_view (n : Network) (side : Side) : (n.view side).far = (n.view side.other).near := by
  cases side <;> rfl

theorem settings_run (n : Network) (side : Side) (events : List (Side × NetworkEvent)) :
    ((n.run events).view side).near.link.settings = (n.view side).near.link.settings := by
  rw [near_run, Station.settings_run]

end Network

end Telecontrol
