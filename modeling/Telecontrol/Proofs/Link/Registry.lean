import Telecontrol.Proofs.Link.Pairing

/-!
# The confirmations that are expected

A confirmation is expected only as long as the call of its command waits for it
(`Desk.Registers`): a call that was handed one, could not send its command, did not get a
confirmation in time or ended with the connection leaves nothing behind. As long as the connection
is open, what is expected is what the commands that are not settled ask for, oldest first
(`Desk.Record.expectations_eq`).

So a confirmation that arrives late is not lost on the call that it was meant for.
`Link.expected_by_waiting_calls` says where it goes: to the first command that is not settled and
that it confirms, or to the listener if there is none.
-/

namespace Telecontrol

namespace History

variable {h : History}

theorem settled_iff {call : CallId} :
    h.Settled call ↔ call ∈ h.recipients ∨ call ∈ h.returned.map (·.1) := by
  rw [Settled, mem_recipients, List.mem_map]
  refine or_congr_right ⟨?_, ?_⟩
  · rintro ⟨reply, hreturns⟩
    exact ⟨(call, reply), mem_returned.mpr hreturns, rfl⟩
  · rintro ⟨⟨call, reply⟩, hreturns, rfl⟩
    exact ⟨reply, mem_returned.mp hreturns⟩

instance (h : History) : DecidablePred h.Settled := fun _ => decidable_of_iff _ settled_iff.symm

/-- The commands that are not settled, each with its call, oldest first. -/
def unsettled (h : History) : List (CallId × Expectation) :=
  h.expected.filter fun p => ¬h.Settled p.1

/-- No unit was handed to a call that had been handed one before, or had returned. -/
def HandsUnsettled (h : History) : Prop := h.AtHandings fun first call => ¬first.Settled call

theorem mem_unsettled {p : CallId × Expectation} :
    p ∈ h.unsettled ↔ p ∈ h.expected ∧ ¬h.Settled p.1 := by
  rw [unsettled, List.mem_filter, decide_eq_true_iff]

end History

/-- Lists that are sorted by the numbers of commands are equal if they have the same members. -/
theorem Expectation.eq_of_increasing {es es' : List Expectation}
    (hes : es.Pairwise fun e e' => e.ticket < e'.ticket)
    (hes' : es'.Pairwise fun e e' => e.ticket < e'.ticket) (hmem : ∀ e, e ∈ es ↔ e ∈ es') :
    es = es' := by
  have hne {e e' : Expectation} (hlt : e.ticket < e'.ticket) : e ≠ e' := fun heq =>
    Nat.ne_of_lt hlt (congrArg ticket heq)
  have hperm := (List.perm_ext_iff_of_nodup (hes.imp hne) (hes'.imp hne)).mpr hmem
  exact hperm.eq_of_pairwise (fun e e' _ _ hlt hgt => absurd hlt (Nat.lt_asymm hgt)) hes hes'

namespace Desk

variable {d d' : Desk} {h o : History} {asdu : Asdu}

/-! ### Whose confirmations are expected -/

namespace Record

/-- A command whose confirmation is expected is not settled. -/
theorem not_settled (hr : d.Record h) {call : CallId} {e : Expectation}
    (he : e ∈ d.expectations) (hcommand : (call, e) ∈ h.expected) : ¬h.Settled call := by
  obtain ⟨other, hother, hhands, hreturns⟩ := hr.pending e he
  obtain ⟨rfl, -⟩ := Prod.mk.inj (hr.eq_of_ticket_eq hcommand hother rfl)
  rintro (⟨asdu, hhanded⟩ | ⟨reply, hreturned⟩)
  · exact hhands asdu hhanded
  · exact hreturns reply hreturned

/-- A call whose command is not settled is in progress. -/
theorem outstanding_of_not_settled (hr : d.Record h) {call : CallId} {e : Expectation}
    (hcommand : (call, e) ∈ h.expected) (hsettled : ¬h.Settled call) : call ∈ d.outstanding :=
  (hr.waits_or_returned (hr.toNumbered.made hcommand)).resolve_right fun hreturned =>
    hsettled (.inr hreturned)

/-- As long as the connection is open, the confirmations of all commands that are not settled are
expected, and no others. -/
theorem mem_expectations_iff (hr : d.Record h) (hmade : h.made.Nodup) (hopen : d.closed = none)
    {e : Expectation} : e ∈ d.expectations ↔ ∃ call, (call, e) ∈ h.unsettled := by
  simp only [History.mem_unsettled]
  constructor
  · intro he
    obtain ⟨call, hcommand, -⟩ := hr.pending e he
    exact ⟨call, hcommand, hr.not_settled he hcommand⟩
  · rintro ⟨call, hcommand, hsettled⟩
    exact (hr.expected_or_settled hmade hopen hcommand).resolve_right hsettled

theorem expectations_eq (hr : d.Record h) (hmade : h.made.Nodup) (hopen : d.closed = none) :
    d.expectations = h.unsettled.map (·.2) := by
  have hunsettled : (h.unsettled.map (·.2)).Pairwise fun e e' => e.ticket < e'.ticket :=
    List.pairwise_map.mpr (hr.sorted.sublist List.filter_sublist)
  refine Expectation.eq_of_increasing hr.increasing hunsettled fun e => ?_
  rw [hr.mem_expectations_iff hmade hopen, List.mem_map]
  constructor
  · rintro ⟨call, hcommand⟩
    exact ⟨(call, e), hcommand, rfl⟩
  · rintro ⟨⟨call, e⟩, hcommand, rfl⟩
    exact ⟨call, hcommand⟩

end Record

/-- The confirmations that are expected are those of calls that still wait for them. -/
structure Registers (d : Desk) (h : History) : Prop where
  /-- Commands have different numbers, and those given earlier come first. -/
  increasing : d.expectations.Pairwise fun e e' => e.ticket < e'.ticket
  /-- Each command is that of one call, which is in progress and was not handed a confirmation. -/
  owned : ∀ e ∈ d.expectations, ∃ call ∈ d.outstanding, ¬h.Settled call ∧
    ∀ other, .expects other e ∈ h ↔ other = call
  /-- Nothing is expected for a call that was handed its confirmation or has returned, -/
  forgotten : ∀ call, h.Settled call → ∀ e ∈ d.expectations, .expects call e ∉ h
  /-- and no unit was handed to such a call. -/
  handed : h.HandsUnsettled
  /-- Every call that still waits for a confirmation is known. -/
  known : d.closed = none → d.expectations = h.unsettled.map (·.2)

theorem Record.registers (hr : d.Record h) (hmade : h.made.Nodup)
    (hhanded : h.HandsUnsettled) : d.Registers h where
  increasing := hr.increasing
  owned := by
    intro e he
    obtain ⟨call, hcommand, -⟩ := hr.pending e he
    have hsettled := hr.not_settled he hcommand
    refine ⟨call, hr.outstanding_of_not_settled hcommand hsettled, hsettled, fun other => ?_⟩
    constructor
    · intro hother
      exact (hr.same_command hmade (History.mem_expected.mpr hother) hcommand (.inr rfl)).1
    · rintro rfl
      exact History.mem_expected.mp hcommand
  forgotten := fun call hsettled e he hcommand =>
    hr.not_settled he (History.mem_expected.mpr hcommand) hsettled
  handed := hhanded
  known := hr.expectations_eq hmade

/-- A turn hands no unit to a call that is settled. -/
theorem Record.handsUnsettled_turn (hr : d.Record h) (hhanded : h.HandsUnsettled)
    (turn : d.Turn o d') : (h ++ o).HandsUnsettled := by
  refine hhanded.append fun first asdu call rest ho => ?_
  obtain ⟨rfl, -, e, hfind, hcommand⟩ := hr.handed_command turn ho
  rw [List.append_nil]
  exact hr.not_settled (List.mem_of_find?_eq_some hfind) hcommand

/-! ### Where a received unit goes -/

/-- The unit that is accepted in a step is handed to the call that takes it. -/
theorem hands_mem_occurrences {input : LinkInput} {call : CallId} :
    .hands asdu call ∈ d.occurrences input (some asdu) d' ↔ d.taker? asdu = some call := by
  have hasking : .hands asdu call ∉ d.asking input := by
    cases input with
    | call _ request => cases request <;> simp [asking, Request.command?]
    | _ => exact List.not_mem_nil
  have houtcome : .hands asdu call ∉ d.outcome input.caller? d' := by
    simp [outcome, -List.map_drop]
  simp [occurrences, handing, hasking, houtcome]

/-- A unit is accepted only while the connection is open. -/
theorem Move.open_of_unit {input : LinkInput} (hmove : d.Move input (some asdu) d') :
    d.closed = none := by
  cases hmove with
  | hands _ hopen => exact hopen

/-- The call that takes a unit has given the first command of those expected that it confirms. -/
theorem Record.command_of_taker (hr : d.Record h) (hmade : h.made.Nodup) (hopen : d.closed = none)
    {call : CallId} (htaker : d.taker? asdu = some call) :
    ∃ e, d.expectations.find? (·.isMetBy asdu) = some e ∧ (call, e) ∈ h.expected := by
  have hturn := (hr.orderly hmade).handOver hopen asdu none
  have ho : d.handing asdu ++ d.outcome none (d.handOver asdu) =
      [] ++ .hands asdu call :: d.outcome none (d.handOver asdu) := by
    rw [handing, htaker]
    rfl
  exact (hr.handed_command hturn ho).2.2

/-- The call that takes a unit is the first of those not settled whose command it confirms. -/
theorem Record.taker?_eq (hr : d.Record h) (hmade : h.made.Nodup) (hopen : d.closed = none)
    (asdu : Asdu) : d.taker? asdu = (h.unsettled.find? (·.2.isMetBy asdu)).map (·.1) := by
  have hfind : d.expectations.find? (·.isMetBy asdu) =
      (h.unsettled.find? (·.2.isMetBy asdu)).map (·.2) := by
    rw [hr.expectations_eq hmade hopen, List.find?_map]
    rfl
  cases hfirst : h.unsettled.find? (·.2.isMetBy asdu) with
  | none =>
    rw [hfirst] at hfind
    rw [taker?, hfind]
    rfl
  | some p =>
    rw [hfirst] at hfind
    obtain ⟨call, htaker⟩ := (hr.orderly hmade).taker hfind
    obtain ⟨e, hfind', hcommand⟩ := hr.command_of_taker hmade hopen htaker
    obtain rfl : p.2 = e := Option.some.inj (hfind.symm.trans hfind')
    have hp := (History.mem_unsettled.mp (List.mem_of_find?_eq_some hfirst)).1
    rw [htaker, (hr.same_command hmade hcommand hp (.inr rfl)).1]
    rfl

end Desk

namespace Link

open Station (confirmation)

variable {l : Link} {h : History} {now : Nat} {input : LinkInput}

/-- The unit that is accepted in a step goes to the call that takes it, or else to the listener. -/
theorem handovers_occurrences (hr : l.desk.Record h) (hmade : h.made.Nodup) {asdu : Asdu}
    (hunit : l.unit? input = some asdu) :
    (l.occurrences now input).handovers = [(asdu, l.desk.taker? asdu)] := by
  have hunits := units_occurrences hr hmade now input
  rw [hunit, ← History.map_handovers] at hunits
  obtain ⟨⟨unit, call?⟩, hhandovers, heq⟩ := List.map_eq_singleton_iff.mp hunits
  obtain rfl : unit = asdu := heq
  have hiff (call : CallId) : call? = some call ↔ l.desk.taker? unit = some call := by
    have hhands := @Desk.hands_mem_occurrences l.desk (l.step now input).desk unit input call
    rw [← hunit] at hhands
    change Occurrence.hands unit call ∈ l.occurrences now input ↔ _ at hhands
    rw [← hhands, ← History.mem_handovers, hhandovers, List.mem_singleton, Prod.mk.injEq,
      eq_self_iff_true, true_and, eq_comm]
  rw [hhandovers, Option.ext hiff]

/-- In the course of every run, and between the turns of whatever comes next, only confirmations of
calls that wait for them are expected. A unit that is accepted goes to the first call that is not
settled and whose command it confirms, and to the listener if there is none. -/
theorem expected_by_waiting_calls (settings : Settings) (extension : Option Extension)
    (inputs : List (Nat × LinkInput)) (hcalls : (callsMade inputs).Nodup) :
    let l := (Link.new settings extension).run inputs
    let h := (Link.new settings extension).history inputs
    l.desk.Registers h ∧
      (∀ o d, l.desk.Turns o d → (h ++ o).made.Nodup → d.Registers (h ++ o)) ∧
      ∀ now input asdu, l.unit? input = some asdu →
        (l.occurrences now input).handovers =
          [(asdu, (h.unsettled.find? (·.2.isMetBy asdu)).map (·.1))] := by
  intro l h
  have hr : l.desk.Record h := record_history settings extension hcalls
  have hhanded : h.HandsUnsettled := history_induction (motive := fun _ h => h.HandsUnsettled)
    (fun hr hhanded turn _ => hr.handsUnsettled_turn hhanded turn) settings extension
    (fun first asdu call rest heq => by simp at heq) hcalls
  rw [← made_history (Link.new settings extension)] at hcalls
  refine ⟨hr.registers hcalls hhanded, fun o d turns hmade => ?_, fun now input asdu hunit => ?_⟩
  · obtain ⟨hr', hhanded'⟩ := hr.turns (motive := fun _ h => h.HandsUnsettled)
      (fun hr hhanded turn _ => hr.handsUnsettled_turn hhanded turn) hhanded turns hmade
    exact hr'.registers hmade hhanded'
  · have hopen : l.desk.closed = none := (hunit ▸ l.desk_step now input).open_of_unit
    rw [handovers_occurrences hr hcalls hunit, hr.taker?_eq hcalls hopen]

/-- The same command, given twice, of which the first is not confirmed in time. -/
def unconfirmedInTime : List (Nat × LinkInput) := identicalCommands.take 4 ++ [(4, .expire 1)]

/-- A confirmation of the command. -/
def lateConfirmation (number : UInt16) : LinkInput :=
  .frame (.information number 2 [100, 1, 7, 0, 1, 0, 0, 0, 0, 20])

/-- A confirmation that is too late for the first call goes to the second, and another one to the
listener. -/
theorem late_confirmations_handed_on :
    let l := (new { responseTimeout := 2 } none).run unconfirmedInTime
    (callsMade unconfirmedInTime).Nodup ∧
      l.desk.returns = [(0, .done), (1, .failed .responseTimeout)] ∧
      l.desk.Registers ((new { responseTimeout := 2 } none).history unconfirmedInTime) ∧
      (l.occurrences 5 (lateConfirmation 0)).handovers = [(confirmation 1, some 2)] ∧
      ((l.step 5 (lateConfirmation 0)).occurrences 6 (lateConfirmation 1)).handovers =
        [(confirmation 1, none)] := by
  have hcalls : (callsMade unconfirmedInTime).Nodup := by decide
  have hcalls' : (callsMade (unconfirmedInTime ++ [(5, lateConfirmation 0)])).Nodup := by decide
  have hnow := expected_by_waiting_calls { responseTimeout := 2 } none _ hcalls
  have hlater := expected_by_waiting_calls { responseTimeout := 2 } none _ hcalls'
  exact ⟨hcalls, rfl, hnow.1, hnow.2.2 5 _ (confirmation 1) rfl,
    hlater.2.2 6 _ (confirmation 1) rfl⟩

end Link

end Telecontrol
