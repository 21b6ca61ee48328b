import Mathlib.Data.List.Chain
import Telecontrol.Proofs.Link.Transfer

/-!
# The reports of the start and the end of data transfer

The state that a link reported last is its state, whatever the other station and the calls do.
The states that it reports alternate, too, with one exception: the confirmation of an activation
is reported even if data transfer is in the state that the activation asks for, because the other
station has started or stopped it meanwhile (`Link.Reconfirms`). The states alternate exactly if
this does not happen (`Link.changes_alternate_iff`); when both stations stop data transfer at the
same time, it does (`Link.crossing_stops_reported_twice`).
-/

namespace Telecontrol

/-- States of data transfer alternate, beginning with `started`: each differs from the one before
it, and the first from the state before any report. -/
def Alternating (states : List LinkState) : Prop := (.stopped :: states).IsChain (· ≠ ·)

theorem alternating_concat (states : List LinkState) (state : LinkState) :
    Alternating (states ++ [state]) ↔ Alternating states ∧ states.getLastD .stopped ≠ state := by
  rw [Alternating, ← List.cons_append, List.isChain_append]
  simp [Alternating, List.getLast?_cons]

namespace Link

/-- The other station confirms an activation that asks for the state in which data transfer is
already. -/
def Reconfirms (l : Link) (input : LinkInput) : Prop :=
  l.closed = none ∧ l.handshake.map (·.function) = some l.state.activation ∧
    input.confirms l.state.activation = true

variable {l : Link} {now : Nat} {input : LinkInput}

/-- Such a confirmation is reported again. -/
theorem changes_of_reconfirms (h : l.Reconfirms input) :
    (l.step now input).changes = l.changes ++ [l.state] := by
  obtain ⟨hopen, hfunction, hconfirms⟩ := h
  obtain ⟨handshake, hhandshake, hfunction⟩ := Option.map_eq_some_iff.mp hfunction
  exact congrArg Transfer.changes (transfer_confirmed hopen hhandshake hfunction hconfirms)

/-- Any other step reports nothing, or a state other than that before it. -/
theorem changes_of_not_reconfirms (now : Nat) (h : ¬l.Reconfirms input) :
    (l.step now input).changes = l.changes ∨
      ∃ state, l.state ≠ state ∧ (l.step now input).changes = l.changes ++ [state] := by
  have hmove := l.transfer_step now input
  show (l.step now input).transfer.changes = _ ∨
    ∃ state, _ ∧ (l.step now input).transfer.changes = _
  revert hmove
  generalize (l.step now input).transfer = t
  intro hmove
  cases hmove with
  | stays | closes | asksStart | asksStop | awaitsStart => exact .inl rfl
  | grantsStart _ hstate | startedByOther _ hstate =>
    exact .inr ⟨.started, by rw [show l.state = .stopped from hstate]; nofun, rfl⟩
  | stoppedByOther _ hstate =>
    exact .inr ⟨.stopped, by rw [show l.state = .started from hstate]; nofun, rfl⟩
  | confirmed goal hopen hhandshake hfunction hconfirms =>
    refine .inr ⟨goal, ?_, rfl⟩
    rintro rfl
    exact h ⟨hopen, Option.map_eq_some_iff.mpr ⟨_, hhandshake, hfunction⟩, hconfirms⟩

theorem alternating_step (hsound : l.transfer.Sound) :
    Alternating (l.step now input).changes ↔
      Alternating l.changes ∧ ¬l.Reconfirms input := by
  have hlast : l.changes.getLastD .stopped = l.state := hsound.reported
  by_cases h : l.Reconfirms input
  · rw [changes_of_reconfirms h, alternating_concat, hlast]
    simp [h]
  · rcases changes_of_not_reconfirms now h with heq | ⟨state, hne, heq⟩
    · simp [heq, h]
    · rw [heq, alternating_concat, hlast]
      simp [hne, h]

theorem alternating_run (hsound : l.transfer.Sound) (inputs : List (Nat × LinkInput)) :
    Alternating (l.run inputs).changes ↔
      Alternating l.changes ∧ l.Throughout (fun l _ input => ¬l.Reconfirms input) inputs := by
  induction inputs generalizing l with
  | nil => exact (and_iff_left trivial).symm
  | cons input inputs ih =>
    rw [run_cons, ih ((l.transfer_step input.1 input.2).sound hsound), alternating_step hsound,
      and_assoc]
    rfl

/-- Whatever the calls and the other station do, the state that was reported last is the state of
data transfer, and that is stopped if none was reported. The states reported alternate, beginning
with `started`, exactly if no activation is confirmed that asks for the state in which data
transfer is already. -/
theorem changes_alternate_iff (settings : Settings) (extension : Option Extension)
    (inputs : List (Nat × LinkInput)) :
    let l := (new settings extension).run inputs
    l.changes.getLastD .stopped = l.state ∧
      (Alternating l.changes ↔
        (new settings extension).Throughout (fun l _ input => ¬l.Reconfirms input) inputs) := by
  have hsound := transfer_new settings extension
  have hnew : Alternating (new settings extension).changes := List.isChain_singleton _
  exact ⟨(transfer_run hsound inputs).reported,
    (alternating_run hsound inputs).trans (and_iff_right hnew)⟩

/-- Both stations stop data transfer at the same time: this one receives the activation of the
other before the confirmation of its own. -/
def crossingStops : List (Nat × LinkInput) :=
  [(0, .call 0 (.start 0 9)), (1, .frame (.unnumbered .startCon)), (2, .call 1 .stop),
    (3, .frame (.unnumbered .stopAct)), (4, .frame (.unnumbered .stopCon))]

/-- The end of data transfer is reported twice. -/
theorem crossing_stops_reported_twice :
    let l := (new {} none).run crossingStops
    l.closed = none ∧ l.changes = [.started, .stopped, .stopped] ∧ ¬Alternating l.changes := by
  have hchanges : ((new {} none).run crossingStops).changes = [.started, .stopped, .stopped] := rfl
  refine ⟨rfl, hchanges, ?_⟩
  rw [hchanges]
  simp [Alternating]

end Link

end Telecontrol
