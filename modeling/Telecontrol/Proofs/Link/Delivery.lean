import Mathlib.Data.List.Induction
import Mathlib.Data.List.Perm.Subperm
import Telecontrol.Proofs.Link.Record
import Telecontrol.Proofs.Link.Station

/-!
# Where received units go

Every unit that is accepted while the connection stays open is handed over once, in the order of
arrival: to the listener, or to one call whose command it confirms (`Station.accepted_units`,
`Desk.Handed.recipients`).

A call that waits for the confirmation of its command returns the unit at once. A call that is
still to send its command holds the unit until it can. Data transfer may be stopped before that:
then the call fails, and neither the listener nor a call ever sees the unit.
`Station.delivered_once_iff` says that no unit is lost in another way.
-/

namespace Telecontrol

/-- The unit that is handed over, with the call to which it is handed; without one if it is
reported. -/
def Occurrence.handover? : Occurrence → Option (Asdu × Option CallId)
  | hands asdu call => some (asdu, some call)
  | reports event => event.unit?.map fun asdu => (asdu, none)
  | _ => none

namespace History

/-- The received units that were handed over, each with the call to which it was handed, if it was
not reported. -/
def handovers (h : History) : List (Asdu × Option CallId) := h.filterMap Occurrence.handover?

variable (h : History)

theorem map_handovers : h.handovers.map (·.1) = h.units := by
  rw [handovers, units, List.map_filterMap]
  refine List.filterMap_congr fun x _ => ?_
  cases x with
  | reports event =>
    simp only [Occurrence.handover?, Occurrence.unit?, Option.map_map, Function.comp_def]
    exact Option.map_id' ..
  | _ => rfl

theorem filterMap_handovers : h.handovers.filterMap (·.2) = h.recipients := by
  rw [handovers, recipients, List.filterMap_filterMap]
  refine List.filterMap_congr fun x _ => ?_
  cases x with
  | reports event =>
    simp only [Occurrence.handover?, Occurrence.recipient?]
    cases event.unit? <;> rfl
  | _ => rfl

theorem filter_handovers :
    (h.handovers.filter (·.2.isNone)).map (·.1) = h.reported.filterMap LinkEvent.unit? := by
  induction h with
  | nil => rfl
  | cons x h ih =>
    rw [handovers, List.filterMap_cons, reported, List.filterMap_cons]
    cases x with
    | hands => exact ih
    | reports event =>
      simp only [Occurrence.handover?, Occurrence.event?, List.filterMap_cons]
      cases event.unit? with
      | none => exact ih
      | some asdu => exact congrArg (asdu :: ·) ih
    | _ => exact ih

variable {h}

theorem mem_handovers {asdu : Asdu} {call : CallId} :
    (asdu, some call) ∈ h.handovers ↔ .hands asdu call ∈ h := by
  rw [handovers, List.mem_filterMap]
  constructor
  · rintro ⟨x, hx, hcall⟩
    cases x with
    | hands =>
      cases hcall
      exact hx
    | reports event =>
      obtain ⟨_, -, hequal⟩ := Option.map_eq_some_iff.mp hcall
      cases hequal
    | _ => cases hcall
  · exact fun hhands => ⟨_, hhands, rfl⟩

end History

/-! ### Every accepted unit is handed over -/

namespace Desk

variable {d d' : Desk} {asdu : Asdu}

theorem units_asking (d : Desk) (input : LinkInput) : (d.asking input).units = [] := by
  cases input with
  | call call request => cases request <;> rfl
  | _ => rfl

theorem units_outcome (d : Desk) (caller? : Option CallId) (d' : Desk) :
    (d.outcome caller? d').units =
      (d'.events.drop d.events.length).filterMap LinkEvent.unit? := by
  have hsends (octets : List Octets) :
      History.units (octets.filterMap fun _ => caller?.map .sends) = [] := by
    cases caller? <;> simp [History.units]
  have hreturns (returns : List (CallId × Reply)) :
      History.units (returns.map fun p => .returns p.1 p.2) = [] := by
    simp [History.units, List.filterMap_map, Function.comp_def]
  rw [outcome, History.units_append, History.units_append, hsends, hreturns, List.append_nil,
    List.nil_append, History.units, List.filterMap_map]
  rfl

/-- There is a call for each confirmation that is expected. -/
theorem Orderly.taker (h : d.Orderly) {e : Expectation}
    (hfind : (d.expectations.find? fun e => e.isMetBy asdu) = some e) :
    ∃ call, d.taker? asdu = some call := by
  simp only [taker?, hfind, Option.bind_some, holder?]
  split
  · next a _ => exact ⟨a.call, rfl⟩
  · next hwaiting =>
    have hsender : ∃ s ∈ d.senders, s.ticket? = some e.ticket := by
      refine (h.held e (List.mem_of_find?_eq_some hfind)).resolve_left ?_
      simpa using hwaiting
    obtain ⟨s, hs⟩ : ∃ s, d.senders.find? (fun s => s.ticket? == some e.ticket) = some s :=
      Option.isSome_iff_exists.mp (List.find?_isSome.mpr (by simpa using hsender))
    exact ⟨s.call, by rw [hs]; rfl⟩

/-- A received unit is handed to one call or reported. -/
theorem Orderly.units_handOver (h : d.Orderly) (asdu : Asdu) (caller? : Option CallId) :
    (d.handing asdu).units ++ (d.outcome caller? (d.handOver asdu)).units = [asdu] := by
  rw [units_outcome]
  cases hfind : d.expectations.find? fun e => e.isMetBy asdu with
  | none =>
    simp [handing, taker?, Desk.handOver, hfind, post, LinkEvent.unit?]
  | some e =>
    obtain ⟨call, htaker⟩ := h.taker hfind
    have hevents : (d.handOver asdu).events = d.events := by
      simp only [Desk.handOver, hfind, confirm]
      split <;> rfl
    simp [handing, htaker, hevents]

/-- The unit that is accepted in a step is handed over once, and no other. -/
theorem Move.units {input : LinkInput} {unit? : Option Asdu} (h : d.Orderly)
    (hmove : d.Move input unit? d') : (d.occurrences input unit? d').units = unit?.toList := by
  have hquiet (hevents : d'.events = d.events) :
      (d'.events.drop d.events.length).filterMap LinkEvent.unit? = [] := by
    rw [hevents, List.drop_length, List.filterMap_nil]
  have hstate {event : LinkEvent} (hevents : d'.events = d.events ++ [event])
      (hevent : event.unit? = none) :
      (d'.events.drop d.events.length).filterMap LinkEvent.unit? = [] := by
    rw [hevents, List.drop_left]
    simp [hevent]
  rw [occurrences, History.units_append, History.units_append, units_asking, List.nil_append]
  cases hmove with
  | hands asdu hopen hwoken =>
    rw [Option.toList_some, List.flatMap_singleton]
    rcases hwoken with rfl | rfl
    · exact h.units_handOver asdu none
    · have hunits := h.wake.units_handOver asdu none
      rwa [handing_wake] at hunits
  | closes => exact (units_outcome ..).trans (hstate rfl rfl)
  | starts | startsWaiter | confirmsStart | stops | confirmsStop =>
    exact (units_outcome ..).trans (hstate rfl rfl)
  | sends hsubmission => exact (units_outcome ..).trans (hquiet hsubmission.sameEvents.2)
  | commands hsubmission =>
    exact (units_outcome ..).trans
      (hquiet (Submission.sameEvents (d := d.expect _) hsubmission).2)
  | resumes _ _ hattempt =>
    exact (units_outcome ..).trans
      (hquiet (Attempt.sameEvents (d := { d with senders := _ }) hattempt).2)
  | _ => exact (units_outcome ..).trans (hquiet rfl)

end Desk

/-- A frame that leaves the connection open has a unit that can be read, if it is to have one. -/
theorem Endpoint.Receive.readable {e e' : Endpoint} {apdu : Apdu} (h : e.Receive apdu e')
    (hopen : e'.closed = none) (hinformation : apdu.control.isInformation) :
    ∃ asdu, e.format.decode apdu.asdu = .ok asdu := by
  have hread {octets? : Option Octets} (hunit : e.unitFault? octets? = none) :
      ∃ asdu, e.format.decode (octets?.getD []) = .ok asdu := by
    cases octets? with
    | none => cases hunit
    | some octets =>
      cases hdecode : e.format.decode octets with
      | ok asdu => exact ⟨asdu, hdecode⟩
      | error cause => simp [unitFault?, hdecode] at hunit
  cases h with
  | information _ _ _ hunit | informationDue _ _ _ hunit => exact hread hunit
  | informationStopped | informationRefused | numberRefused | unitRefused => cases hopen
  | _ => cases hinformation

namespace Link

variable {l : Link} {now : Nat} {input : LinkInput}

theorem units_occurrences {h : History} (hr : l.desk.Record h) (hmade : h.made.Nodup) (now : Nat)
    (input : LinkInput) : (l.occurrences now input).units = (l.unit? input).toList :=
  Desk.Move.units (hr.orderly hmade) (l.desk_step now input)

/-- If the connection stays open, the unit of an accepted frame can be read. -/
theorem decode_accepted {apdu : Apdu} (hopen : (l.step now (.frame apdu)).closed = none) :
    (l.endpoint.accepts? apdu).map l.format.decode = (l.unit? (.frame apdu)).map .ok := by
  rcases l.endpoint.accepts?_eq_or apdu with hnone | ⟨hclosed, hinformation, haccepts⟩
  · rw [unit?, hnone]
    rfl
  · obtain ⟨asdu, hasdu⟩ := (endpoint_handleFrame now hclosed apdu).readable hopen hinformation
    have hasdu : l.format.decode apdu.asdu = .ok asdu := hasdu
    rw [unit?, haccepts, Option.map_some, Option.bind_some, hasdu]
    rfl

end Link

namespace Station

/-- If the connection stays open, the unit that is entered in the ledger is handed over. -/
theorem accepted_step {s : Station} {now : Nat} {input : LinkInput}
    (hopen : (s.step now input).link.closed = none) :
    (s.step now input).ledger.accepted.map s.link.format.decode =
      s.ledger.accepted.map s.link.format.decode ++ (s.link.unit? input).toList.map .ok := by
  cases input with
  | frame apdu =>
    rw [accepted_frame, List.map_append, ← Option.toList_map, ← Option.toList_map,
      Link.decode_accepted hopen]
  | _ => exact (List.append_nil _).symm

theorem format_run (settings : Settings) (extension : Option Extension)
    (inputs : List (Nat × LinkInput)) :
    ((new settings extension).run inputs).link.format = settings.format extension := by
  rw [run_link]
  exact Link.format_run _ inputs

/-- Every unit accepted while the connection stays open is handed over once, in order. -/
theorem accepted_units (settings : Settings) (extension : Option Extension)
    {inputs : List (Nat × LinkInput)} (hcalls : (callsMade inputs).Nodup)
    (hopen : ((new settings extension).run inputs).link.closed = none) :
    ((new settings extension).run inputs).ledger.accepted.map (settings.format extension).decode =
      ((Link.new settings extension).history inputs).units.map .ok := by
  induction inputs using List.reverseRecOn with
  | nil => rfl
  | append_singleton inputs input ih =>
    rw [callsMade_append] at hcalls
    have hfirst := (List.nodup_append.mp hcalls).1
    have hmade := hfirst
    rw [← Link.made_history (Link.new settings extension)] at hmade
    have hlink := run_link (new settings extension) inputs
    have hlast : ((Link.new settings extension).history (inputs ++ [input])).units =
        ((Link.new settings extension).history inputs).units ++
          (((new settings extension).run inputs).link.unit? input.2).toList := by
      rw [Link.history_append, History.units_append, Link.history, Link.history, List.append_nil,
        Link.units_occurrences (Link.record_history settings extension hfirst) hmade, hlink]
      rfl
    rw [run_concat] at hopen ⊢
    rw [hlast, List.map_append, ← ih hfirst (open_before hopen),
      ← format_run settings extension inputs]
    exact accepted_step hopen

end Station

/-! ### What becomes of a unit that is handed to a call -/

namespace Desk

/-- A call that is still to send its command holds the confirmation of it. -/
def Holds (d : Desk) (call : CallId) (asdu : Asdu) : Prop :=
  ∃ s ∈ d.senders, s.call = call ∧ s.confirmation? = some asdu

/-- A call to which a unit was handed fails only if it has not sent its command, and, as long as
the connection is open, only because data transfer is stopped. -/
def FailsUnsent (d : Desk) (h : History) : Prop :=
  ∀ asdu call cause, .hands asdu call ∈ h → .returns call (.failed cause) ∈ h →
    .sends call ∉ h ∧ (d.closed = none → cause = .notStarted)

section Turn

attribute [local grind] wake post close seat answer enqueue expect giveUp forget dismiss send
  await keep

theorem FailsUnsent.turn {d d' : Desk} {h o : History} (hr : d.Record h) (hd : d.FailsUnsent h)
    (turn : d.Turn o d') (hmade : (h ++ o).made.Nodup) : d'.FailsUnsent (h ++ o) := by
  have hreturned := @hr.not_returned _ _ (History.nodup_made_of_append hmade)
  have hwaiting := @waiting_outstanding d
  have hsenders := @sender_outstanding d
  -- Of the calls that are outstanding, only one that is still to send holds a confirmation.
  have hunhanded := @hr.waiting_not_handed
  have hbystander := @hr.bystander_not_handed
  have hkept := hr.kept
  have hunsent := hr.unsent
  intro asdu call cause hhands hreturns
  have hold := hd asdu call cause
  cases turn with
  | leaves _ hperm =>
    have hleaves := hperm.symm.subset (List.mem_cons_self ..)
    grind
  | closes =>
    have hpending := d.pendingCalls_perm.subset
    grind
  | _ => grind

end Turn

/-- What becomes of a unit that is handed to a call while the connection stays open. -/
theorem Record.handed_settled {d : Desk} {h : History} (hr : d.Record h) (hd : d.FailsUnsent h)
    (hmade : h.made.Nodup) (hopen : d.closed = none) {asdu : Asdu} {call : CallId}
    (hhands : .hands asdu call ∈ h) :
    (d.replies call = [.confirmed asdu] ∨ d.Holds call asdu) ∨
      .sends call ∉ h ∧ d.replies call = [.failed .notStarted] := by
  obtain ⟨e, he, -⟩ := hr.confirms asdu call hhands
  rcases hr.place he with ⟨a, ha, rfl⟩ | ⟨s, hs, rfl⟩ | ⟨reply, hreturns⟩
  · exact absurd hhands (hr.waiting_not_handed ha asdu)
  · exact .inl (.inr ⟨s, hs, rfl, (hr.kept s hs asdu).mpr hhands⟩)
  · have hreplies := hr.replies_eq hmade (hr.returns ▸ History.mem_returned.mpr hreturns)
    rcases hr.settled asdu call reply hhands hreturns with rfl | ⟨cause, rfl⟩
    · exact .inl (.inl hreplies)
    · obtain ⟨hunsent, hcause⟩ := hd asdu call cause hhands hreturns
      rw [hcause hopen] at hreplies
      exact .inr ⟨hunsent, hreplies⟩

end Desk

namespace Station

/-- The destinations of the units accepted by a station: the call that returns the unit, or none
if the listener has it. -/
structure Delivers (s : Station) (destinations : List (Asdu × Option CallId)) : Prop where
  accepted : s.ledger.accepted.map s.link.format.decode = destinations.map fun p => .ok p.1
  /-- The units that no call returns are reported, in the order of arrival. -/
  reported : s.link.desk.events.filterMap LinkEvent.unit? =
    (destinations.filter (·.2.isNone)).map (·.1)
  /-- No call has two units, -/
  calls : (destinations.filterMap (·.2)).Nodup
  /-- and each returns its unit, or holds it until it can. -/
  returned : ∀ asdu call, (asdu, some call) ∈ destinations →
    s.link.desk.replies call = [.confirmed asdu] ∨ s.link.desk.Holds call asdu
  confirmed : ∀ asdu call, .confirmed asdu ∈ s.link.desk.replies call →
    (asdu, some call) ∈ destinations

/-- Every unit accepted by a station goes to one place: to its listener, or to one call. -/
def DeliversOnce (s : Station) : Prop := ∃ destinations, s.Delivers destinations

theorem length_destinations (destinations : List (Asdu × Option CallId)) :
    destinations.length = (destinations.filter (·.2.isNone)).length +
      (destinations.filterMap (·.2)).length := by
  induction destinations with
  | nil => rfl
  | cons p destinations ih =>
    obtain ⟨asdu, call?⟩ := p
    cases call? <;> simp [ih] <;> omega

/-- Every unit that is handed to a call has that call as its destination. -/
theorem Delivers.calls_perm {s : Station} {destinations : List (Asdu × Option CallId)}
    {h : History} (hdelivers : s.Delivers destinations) (hr : s.link.desk.Record h)
    (haccepted : s.ledger.accepted.map s.link.format.decode =
      h.handovers.map fun p => .ok p.1) :
    (destinations.filterMap (·.2)).Perm h.recipients := by
  have hsubset : destinations.filterMap (·.2) ⊆ h.recipients := by
    intro call hcall
    obtain ⟨⟨asdu, call?⟩, hmem, rfl⟩ := List.mem_filterMap.mp hcall
    refine History.mem_recipients.mpr ⟨asdu, ?_⟩
    rcases hdelivers.returned asdu call hmem with hreplies | ⟨t, ht, rfl, hconfirmation⟩
    · have hreply : Reply.confirmed asdu ∈ s.link.desk.replies call := by
        rw [hreplies]
        exact List.mem_singleton_self _
      rw [Desk.mem_replies, hr.returns] at hreply
      exact hr.confirmed asdu call (History.mem_returned.mp hreply)
    · exact (hr.kept t ht asdu).mp hconfirmation
  -- There are as many units for calls as were handed to calls.
  have hlength : destinations.length = h.handovers.length := by
    have heq := congrArg List.length (hdelivers.accepted.symm.trans haccepted)
    simpa only [List.length_map] using heq
  have hlistener : (destinations.filter (·.2.isNone)).length =
      (h.handovers.filter (·.2.isNone)).length := by
    have heq := hdelivers.reported
    rw [hr.events, ← History.filter_handovers] at heq
    simpa only [List.length_map] using (congrArg List.length heq).symm
  have hcount := length_destinations destinations
  have hcount' := length_destinations h.handovers
  rw [History.filterMap_handovers] at hcount'
  exact (hdelivers.calls.subperm hsubset).perm_of_length_le (by omega)

/-- As long as the connection is open, every accepted unit goes to one place, unless a call fails
that has not sent its command because data transfer is stopped, and a unit was handed to it that
confirms the command. -/
theorem delivered_once_iff (settings : Settings) (extension : Option Extension)
    (inputs : List (Nat × LinkInput)) (hcalls : (callsMade inputs).Nodup) :
    let s := (new settings extension).run inputs
    let h := (Link.new settings extension).history inputs
    s.link.closed = none →
      (s.DeliversOnce ↔ ∀ asdu call, .hands asdu call ∈ h → .sends call ∉ h →
        s.link.desk.replies call ≠ [.failed .notStarted]) := by
  intro s h hopen
  have hlink : s.link = (Link.new settings extension).run inputs := run_link ..
  have hr : s.link.desk.Record h := by
    rw [hlink]
    exact Link.record_history settings extension hcalls
  have hfails : s.link.desk.FailsUnsent h := by
    rw [hlink]
    exact Link.history_induction Desk.FailsUnsent.turn settings extension
      (fun _ _ _ hhands => absurd hhands List.not_mem_nil) hcalls
  have haccepted : s.ledger.accepted.map s.link.format.decode =
      h.handovers.map fun p => .ok p.1 := by
    rw [format_run, accepted_units settings extension hcalls hopen, ← History.map_handovers,
      List.map_map]
    rfl
  have hreported : s.link.desk.events.filterMap LinkEvent.unit? =
      (h.handovers.filter (·.2.isNone)).map (·.1) := by
    rw [History.filter_handovers, hr.events]
  rw [← Link.made_history (Link.new settings extension)] at hcalls
  constructor
  · rintro ⟨destinations, hdelivers⟩ asdu call hhands - hfailed
    have hcall : call ∈ destinations.filterMap (·.2) :=
      (hdelivers.calls_perm hr haccepted).symm.subset (History.mem_recipients.mpr ⟨asdu, hhands⟩)
    obtain ⟨⟨unit, call?⟩, hmem, rfl⟩ := List.mem_filterMap.mp hcall
    rcases hdelivers.returned unit call hmem with hreplies | ⟨t, ht, rfl, -⟩
    · cases hfailed.symm.trans hreplies
    · have hwaits := hr.replies_of_outstanding hcalls (Desk.sender_outstanding t ht)
      cases hfailed.symm.trans hwaits
  · intro hnone
    refine ⟨h.handovers, haccepted, hreported, ?_, fun asdu call hmem => ?_,
      fun asdu call hmem => ?_⟩
    · rw [History.filterMap_handovers]
      exact hr.recipients
    · have hhands := History.mem_handovers.mp hmem
      refine (hr.handed_settled hfails hcalls hopen hhands).resolve_right ?_
      rintro ⟨hunsent, hfailed⟩
      exact hnone asdu call hhands hunsent hfailed
    · rw [Desk.mem_replies, hr.returns] at hmem
      exact History.mem_handovers.mpr (hr.confirmed asdu call (History.mem_returned.mp hmem))

/-- A command to a station. -/
def interrogation (commonAddress : UInt16) : Asdu :=
  .single .interrogation .activation commonAddress 0 [.interrogationQualifier 20]

/-- Its confirmation. -/
def confirmation (commonAddress : UInt16) : Asdu :=
  .single .interrogation .activationConfirm commonAddress 0 [.interrogationQualifier 20]

/-- A command for which there is no room in the window, and a received unit that confirms it. -/
def earlyConfirmation : List (Nat × LinkInput) :=
  [(0, .call 0 (.start 0 9)), (1, .frame (.unnumbered .startCon)),
    (2, .call 1 (.send (interrogation 2))), (3, .call 2 (.sendConfirmed (interrogation 1))),
    (4, .frame (.information 0 0 [100, 1, 7, 0, 1, 0, 0, 0, 0, 20]))]

/-- There is room before data transfer is stopped. -/
def earlyThenSent : List (Nat × LinkInput) :=
  earlyConfirmation ++ [(5, .frame (.supervisory 1)), (5, .resume 2)]

/-- The call returns the unit then. -/
theorem early_confirmation_returned :
    (callsMade earlyThenSent).Nodup ∧
      ((new { k := 1, w := 1 } none).run earlyThenSent).link.closed = none ∧
      ((new { k := 1, w := 1 } none).run earlyThenSent).DeliversOnce := by
  have hcalls : (callsMade earlyThenSent).Nodup := by decide
  have hreturns : ((new { k := 1, w := 1 } none).run earlyThenSent).link.desk.returns =
      [(0, .done), (1, .done), (2, .confirmed (confirmation 1))] := rfl
  refine ⟨hcalls, rfl, (delivered_once_iff { k := 1, w := 1 } none _ hcalls rfl).mpr ?_⟩
  rintro asdu call - - hfailed
  have hreply := Desk.mem_replies.mp (hfailed ▸ List.mem_singleton_self _)
  rw [hreturns] at hreply
  simp at hreply

/-- Data transfer is stopped before there is room. -/
def earlyThenStopped : List (Nat × LinkInput) :=
  earlyConfirmation ++ [(5, .frame (.unnumbered .stopAct)), (5, .resume 2)]

/-- The unit is lost then. -/
theorem early_confirmation_lost :
    (callsMade earlyThenStopped).Nodup ∧
      ((new { k := 1, w := 1 } none).run earlyThenStopped).link.closed = none ∧
      ((new { k := 1, w := 1 } none).run earlyThenStopped).ledger.accepted =
        [[100, 1, 7, 0, 1, 0, 0, 0, 0, 20]] ∧
      ¬((new { k := 1, w := 1 } none).run earlyThenStopped).DeliversOnce := by
  have haccepted : ((new { k := 1, w := 1 } none).run earlyThenStopped).ledger.accepted =
      [[100, 1, 7, 0, 1, 0, 0, 0, 0, 20]] := rfl
  have hevents : ((new { k := 1, w := 1 } none).run earlyThenStopped).link.desk.events =
      [.stateChanged .started, .stateChanged .stopped] := rfl
  have hreturns : ((new { k := 1, w := 1 } none).run earlyThenStopped).link.desk.returns =
      [(0, .done), (1, .done), (2, .failed .notStarted)] := rfl
  have hsenders : ((new { k := 1, w := 1 } none).run earlyThenStopped).link.desk.senders = [] :=
    rfl
  refine ⟨by decide, rfl, haccepted, ?_⟩
  rintro ⟨destinations, hdelivers⟩
  have hlength := congrArg List.length hdelivers.accepted
  rw [haccepted, List.length_map, List.length_map] at hlength
  obtain ⟨⟨asdu, call?⟩, rfl⟩ := List.length_eq_one_iff.mp hlength.symm
  cases call? with
  | none =>
    have hreported := hdelivers.reported
    rw [hevents] at hreported
    cases hreported
  | some call =>
    rcases hdelivers.returned asdu call (List.mem_singleton_self _) with hreplies | ⟨t, ht, -⟩
    · have hreply := Desk.mem_replies.mp (hreplies ▸ List.mem_singleton_self _)
      rw [hreturns] at hreply
      simp at hreply
    · rw [hsenders] at ht
      cases ht

end Station

end Telecontrol
