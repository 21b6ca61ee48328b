import Telecontrol.Proofs.Link.Delivery

/-!
# Confirmations and their commands

The confirmations of two commands that agree in their type, their station and the address of their
first object cannot be told apart. They are handed out in the order in which the commands were given
(`Desk.Record.settled_of_given_before`). Commands are sent in another order if calls overtake each
other on the way to the window, and a confirmation that arrives too early is handed to a call that
has yet to send its command. `Link.confirmations_paired_iff` says that nothing else confuses the
pairing of confirmations with the commands sent.
-/

namespace Telecontrol

namespace Expectation

/-- The confirmations of two commands cannot be told apart. -/
def Alike (e e' : Expectation) : Prop :=
  e.type = e'.type ∧ e.commonAddress = e'.commonAddress ∧ e.address? = e'.address?

theorem Alike.symm {e e' : Expectation} (h : e.Alike e') : e'.Alike e :=
  ⟨h.1.symm, h.2.1.symm, h.2.2.symm⟩

theorem Alike.isMetBy_eq {e e' : Expectation} (h : e.Alike e') (asdu : Asdu) :
    e.isMetBy asdu = e'.isMetBy asdu := by
  obtain ⟨htype, haddress, hobject⟩ := h
  rw [isMetBy, isMetBy, htype, haddress, hobject]

end Expectation

/-- The call that sends its unit. -/
def Occurrence.sent? : Occurrence → Option CallId
  | sends call => some call
  | _ => none

namespace History

/-- Something happened before something else. -/
def Precedes (h : History) (x y : Occurrence) : Prop := [x, y].Sublist h

/-- A call does not wait for a confirmation any longer: it was handed one, or has returned. -/
def Settled (h : History) (call : CallId) : Prop :=
  (∃ asdu, .hands asdu call ∈ h) ∨ ∃ reply, .returns call reply ∈ h

/-- Whenever a unit was handed to a call, this held of what had happened before. -/
def AtHandings (P : History → CallId → Prop) (h : History) : Prop :=
  ∀ (first : History) asdu call rest, h = first ++ .hands asdu call :: rest → P first call

section AtHandings

variable {P : History → CallId → Prop} {h o : History}

theorem AtHandings.append (hh : h.AtHandings P)
    (ho : ∀ first asdu call rest, o = first ++ .hands asdu call :: rest → P (h ++ first) call) :
    (h ++ o).AtHandings P := by
  intro first asdu call rest heq
  rcases List.append_eq_append_iff.mp heq with ⟨middle, rfl, hrest⟩ | ⟨middle, hfirst, hrest⟩
  · exact ho middle asdu call rest hrest
  · cases middle with
    | nil =>
      have hnil := ho [] asdu call rest (by simpa using hrest.symm)
      rwa [List.append_nil, hfirst, List.append_nil] at hnil
    | cons x middle =>
      obtain ⟨rfl, -⟩ := List.cons.inj hrest
      exact hh first asdu call middle hfirst

end AtHandings

end History

namespace Desk

variable {d d' : Desk} {h o : History} {asdu : Asdu}

/-- What is known when a unit is handed to a call. -/
theorem Turn.handing (turn : d.Turn o d') {first rest : History} {call : CallId}
    (ho : o = first ++ .hands asdu call :: rest) :
    first = [] ∧ d.closed = none ∧ ∃ e, d.expectations.find? (·.isMetBy asdu) = some e ∧
      ((∃ a ∈ d.waiting, a.call = call ∧ a.ticket = e.ticket) ∨
        ∃ s ∈ d.senders, s.call = call ∧ s.ticket? = some e.ticket) := by
  have hmem : Occurrence.hands asdu call ∈ o := by simp [ho]
  cases turn with
  | @confirms unit e a hopen hfind ha hticket =>
    cases first with
    | nil =>
      obtain ⟨hhands, -⟩ := List.cons.inj ho
      cases hhands
      exact ⟨rfl, hopen, e, hfind, .inl ⟨a, ha, rfl, hticket⟩⟩
    | cons x first => simp [List.cons_eq_append_iff] at ho
  | @keeps unit e s hopen hfind hs hticket =>
    cases first with
    | nil =>
      obtain ⟨hhands, -⟩ := List.cons.inj ho
      cases hhands
      exact ⟨rfl, hopen, e, hfind, .inr ⟨s, hs, rfl, hticket⟩⟩
    | cons x first => simp at ho
  | _ => simp at hmem

/-- A confirmation that is expected is the one of the command whose number it has. -/
theorem Record.expected_of_ticket (hr : d.Record h) {e e' : Expectation}
    (he : e ∈ d.expectations) {call : CallId} (he' : (call, e') ∈ h.expected)
    (hticket : e'.ticket = e.ticket) : (call, e) ∈ h.expected := by
  obtain ⟨other, hother, -⟩ := hr.pending e he
  obtain ⟨-, rfl⟩ := Prod.mk.inj (hr.eq_of_ticket_eq he' hother hticket)
  exact he'

/-- A unit is handed to the call of the first confirmation expected that it meets. -/
theorem Record.handed_command (hr : d.Record h) (turn : d.Turn o d') {first rest : History}
    {call : CallId} (ho : o = first ++ .hands asdu call :: rest) :
    first = [] ∧ d.closed = none ∧ ∃ e, d.expectations.find? (·.isMetBy asdu) = some e ∧
      (call, e) ∈ h.expected := by
  obtain ⟨rfl, hopen, e, hfind, htaker⟩ := turn.handing ho
  have he := List.mem_of_find?_eq_some hfind
  refine ⟨rfl, hopen, e, hfind, ?_⟩
  rcases htaker with ⟨a, ha, rfl, hticket⟩ | ⟨s, hs, rfl, hticket⟩
  · obtain ⟨-, e', -, he', hticket'⟩ := hr.waiting a ha
    exact hr.expected_of_ticket he he' (hticket'.trans hticket)
  · obtain ⟨e', he', hticket', -⟩ := hr.command s hs e.ticket hticket
    exact hr.expected_of_ticket he he' hticket'

/-- A command of which the confirmation is not expected any longer is settled. -/
theorem Record.expected_or_settled (hr : d.Record h) (hmade : h.made.Nodup)
    (hopen : d.closed = none) {call : CallId} {e : Expectation} (he : (call, e) ∈ h.expected) :
    e ∈ d.expectations ∨ h.Settled call := by
  rcases hr.place he with ⟨a, ha, rfl⟩ | ⟨s, hs, rfl⟩ | hreturned
  · obtain ⟨-, e', hexpected, he', -⟩ := hr.waiting a ha
    obtain ⟨-, rfl⟩ := hr.same_command hmade he he' (.inl rfl)
    exact .inl hexpected
  · obtain ⟨e', he', -, hexpected⟩ := hr.command s hs e.ticket (hr.sender_ticket hmade hs he)
    obtain ⟨-, rfl⟩ := hr.same_command hmade he he' (.inl rfl)
    cases hconfirmation : s.confirmation? with
    | none => exact .inl (hexpected hopen hconfirmation)
    | some asdu => exact .inr (.inl ⟨asdu, (hr.kept s hs asdu).mp hconfirmation⟩)
  · exact .inr (.inr hreturned)

/-- The confirmations of commands given earlier are expected first. -/
theorem Numbered.increasing (hn : d.Numbered h) :
    d.expectations.Pairwise fun e e' => e.ticket < e'.ticket := by
  have hall : (h.expected.map (·.2)).Pairwise fun e e' => e.ticket < e'.ticket :=
    List.pairwise_map.mpr hn.sorted
  exact hall.sublist hn.listed

/-- The confirmation that a unit meets is the earliest of those that it could meet. -/
theorem Numbered.le_of_find? (hn : d.Numbered h) {e e' : Expectation}
    (hfind : d.expectations.find? (·.isMetBy asdu) = some e) (he' : e' ∈ d.expectations)
    (hmet : e'.isMetBy asdu) : e.ticket ≤ e'.ticket := by
  have hsorted := hn.increasing
  obtain ⟨-, earlier, later, heq, hunmet⟩ := List.find?_eq_some_iff_append.mp hfind
  rw [heq] at he' hsorted
  rcases List.mem_append.mp he' with hearlier | hlater
  · cases hmet.symm.trans (by simpa using hunmet e' hearlier)
  · rcases List.mem_cons.mp hlater with rfl | hlater
    · exact Nat.le_refl _
    · exact Nat.le_of_lt (List.rel_of_pairwise_cons (List.pairwise_append.mp hsorted).2.1 hlater)

end Desk

namespace History

/-- The commands that are given before a command and cannot be told apart from it are settled. -/
def FirstGiven (h : History) (call : CallId) : Prop :=
  ∃ e, (call, e) ∈ h.expected ∧ ∀ other e', (other, e') ∈ h.expected → e'.Alike e →
    e'.ticket < e.ticket → h.Settled other

end History

namespace Desk

variable {d d' : Desk} {h o : History} {asdu : Asdu}

/-- Units are handed to the first command given that they confirm. -/
theorem Record.firstGiven_turn (hr : d.Record h) (hh : h.AtHandings History.FirstGiven)
    (turn : d.Turn o d') (hmade : (h ++ o).made.Nodup) :
    (h ++ o).AtHandings History.FirstGiven := by
  have hmade := History.nodup_made_of_append hmade
  refine hh.append fun first asdu call rest ho => ?_
  obtain ⟨rfl, hopen, e, hfind, hcommand⟩ := hr.handed_command turn ho
  have hmet : e.isMetBy asdu := List.find?_some (p := (Expectation.isMetBy · asdu)) hfind
  rw [List.append_nil]
  refine ⟨e, hcommand, fun other e' he' halike hticket => ?_⟩
  refine (hr.expected_or_settled hmade hopen he').resolve_left fun hexpected => ?_
  have hle := hr.toNumbered.le_of_find? hfind hexpected ((halike.isMetBy_eq asdu).trans hmet)
  omega

end Desk

namespace History

variable {h : History}

theorem Precedes.mem_left {x y : Occurrence} (hxy : h.Precedes x y) : x ∈ h :=
  hxy.subset (List.mem_cons_self ..)

theorem Precedes.mem_right {x y : Occurrence} (hxy : h.Precedes x y) : y ∈ h :=
  hxy.subset (List.mem_cons_of_mem _ (List.mem_singleton_self _))

/-- Of two different things that happened, one happened before the other. -/
theorem precedes_or {x y : Occurrence} (hx : x ∈ h) (hy : y ∈ h) (hne : x ≠ y) :
    h.Precedes x y ∨ h.Precedes y x := by
  obtain ⟨first, rest, rfl⟩ := List.append_of_mem hx
  rw [List.mem_append, List.mem_cons] at hy
  rcases hy with hfirst | rfl | hrest
  · exact .inr ((List.singleton_sublist.mpr hfirst).append
      ((List.nil_sublist rest).cons_cons x))
  · exact absurd rfl hne
  · exact .inl (((List.singleton_sublist.mpr hrest).cons_cons x).trans
      (List.sublist_append_right ..))

/-- Two calls give commands whose confirmations cannot be told apart. -/
def Alike (h : History) (call other : CallId) : Prop :=
  ∃ e e', .expects call e ∈ h ∧ .expects other e' ∈ h ∧ e.Alike e'

/-- A call gives its command before another, from which it cannot be told apart. -/
def GivenBefore (h : History) (call other : CallId) : Prop :=
  ∃ e e', h.Precedes (.expects call e) (.expects other e') ∧ e.Alike e'

/-- A call gives its command after another, from which it cannot be told apart, and sends it
first. -/
def Overtakes (h : History) (call other : CallId) : Prop :=
  h.GivenBefore other call ∧ h.Precedes (.sends call) (.sends other)

/-- Confirmations are paired with the commands in the order in which they were sent. -/
structure Paired (h : History) : Prop where
  /-- A call to which a confirmation is handed has sent its command. -/
  sent : h.AtHandings fun first call => .sends call ∈ first
  /-- The commands that cannot be told apart from it and were sent before it are settled. -/
  inOrder : h.AtHandings fun first call => ∀ other, other ≠ call → h.Alike other call →
    h.Precedes (.sends other) (.sends call) → first.Settled other

end History

namespace Desk

variable {d : Desk} {h : History}

/-- A command that is given before another has a smaller number. -/
theorem Numbered.lt_of_precedes (hn : d.Numbered h) {call other : CallId} {e e' : Expectation}
    (hbefore : h.Precedes (.expects call e) (.expects other e')) : e.ticket < e'.ticket := by
  have hexpected : [(call, e), (other, e')].Sublist h.expected :=
    hbefore.filterMap Occurrence.expectation?
  exact List.rel_of_pairwise_cons (hn.sorted.sublist hexpected) (List.mem_singleton_self _)

/-- A call gives one command. -/
theorem Record.ne_of_givenBefore (hr : d.Record h) (hmade : h.made.Nodup) {call other : CallId}
    (hgiven : h.GivenBefore call other) : call ≠ other := by
  obtain ⟨e, e', hbefore, -⟩ := hgiven
  rintro rfl
  have hticket := hr.toNumbered.lt_of_precedes hbefore
  obtain ⟨-, rfl⟩ := hr.same_command hmade (History.mem_expected.mpr hbefore.mem_left)
    (History.mem_expected.mpr hbefore.mem_right) (.inl rfl)
  exact Nat.lt_irrefl _ hticket

/-- When a confirmation is handed to a call, the commands that cannot be told apart from its own and
were given before are settled. -/
theorem Record.settled_of_given_before (hr : d.Record h) (hmade : h.made.Nodup)
    (hfirst : h.AtHandings History.FirstGiven) :
    h.AtHandings fun first call => ∀ other, h.GivenBefore other call → first.Settled other := by
  rintro first asdu call rest heq other ⟨e', e, hbefore, halike⟩
  obtain ⟨e₀, he₀, hgiven⟩ := hfirst first asdu call rest heq
  have hticket := hr.toNumbered.lt_of_precedes hbefore
  have hsplit : h.expected = first.expected ++ History.expected rest := by
    rw [heq, History.expected_append, History.expected_cons]
    rfl
  have he : (call, e) ∈ h.expected := History.mem_expected.mpr hbefore.mem_right
  have he' : (other, e') ∈ h.expected := History.mem_expected.mpr hbefore.mem_left
  obtain ⟨-, rfl⟩ := hr.same_command hmade he (hsplit ▸ List.mem_append_left _ he₀) (.inl rfl)
  refine hgiven other e' ?_ halike hticket
  -- What is expected after the handing has a larger number.
  have hsorted := hr.sorted
  rw [hsplit, List.mem_append] at he'
  rw [hsplit, List.pairwise_append] at hsorted
  refine he'.resolve_right fun hlater => ?_
  have hlt := hsorted.2.2 _ he₀ _ hlater
  exact absurd hticket (Nat.lt_asymm hlt)

end Desk

namespace Link

open Station (interrogation confirmation)

/-- Confirmations that cannot be told apart are handed out in the order in which the commands were
given. They are paired with the commands in the order in which these were sent as long as none is
handed to a call that has yet to send its command, and none to a call that was overtaken by another
that still waits. -/
theorem confirmations_paired_iff (settings : Settings) (extension : Option Extension)
    (inputs : List (Nat × LinkInput)) (hcalls : (callsMade inputs).Nodup) :
    let h := (Link.new settings extension).history inputs
    (h.AtHandings fun first call => ∀ other, h.GivenBefore other call → first.Settled other) ∧
      (h.Paired ↔ h.AtHandings fun first call =>
        .sends call ∈ first ∧ ∀ other, h.Overtakes other call → first.Settled other) := by
  intro h
  have hr := record_history settings extension hcalls
  have hfirst := history_induction (motive := fun _ h => h.AtHandings History.FirstGiven)
    Desk.Record.firstGiven_turn settings extension
    (fun first asdu call rest heq => by simp at heq) hcalls
  rw [← made_history (Link.new settings extension)] at hcalls
  have hgiven := hr.settled_of_given_before hcalls hfirst
  refine ⟨hgiven, fun hpaired first asdu call rest heq => ?_, fun hhandings => ⟨?_, ?_⟩⟩
  · refine ⟨hpaired.sent first asdu call rest heq, fun other hovertakes => ?_⟩
    obtain ⟨hbefore, hsent⟩ := hovertakes
    have hne := hr.ne_of_givenBefore hcalls hbefore
    obtain ⟨e, e', hexpects, halike⟩ := hbefore
    exact hpaired.inOrder first asdu call rest heq other hne.symm
      ⟨e', e, hexpects.mem_right, hexpects.mem_left, halike.symm⟩ hsent
  · intro first asdu call rest heq
    exact (hhandings first asdu call rest heq).1
  · intro first asdu call rest heq other hne halike hsent
    obtain ⟨e', e, he', he, halike⟩ := halike
    have hexpects : Occurrence.expects other e' ≠ .expects call e := by
      rintro ⟨⟩
      exact hne rfl
    -- Of the two commands, one was given first.
    rcases History.precedes_or he' he hexpects with hbefore | hafter
    · exact hgiven first asdu call rest heq other ⟨e', e, hbefore, halike⟩
    · exact (hhandings first asdu call rest heq).2 other ⟨⟨e, e', hafter, halike.symm⟩, hsent⟩

/-- The same command, given twice, and a confirmation for each. -/
def identicalCommands : List (Nat × LinkInput) :=
  [(0, .call 0 (.start 0 9)), (1, .frame (.unnumbered .startCon)),
    (2, .call 1 (.sendConfirmed (interrogation 1))),
    (3, .call 2 (.sendConfirmed (interrogation 1))),
    (4, .frame (.information 0 2 [100, 1, 7, 0, 1, 0, 0, 0, 0, 20])),
    (5, .frame (.information 1 2 [100, 1, 7, 0, 1, 0, 0, 0, 0, 20]))]

/-- Commands are confirmed in the order in which they were sent. -/
theorem identical_commands_paired :
    (callsMade identicalCommands).Nodup ∧
      ((new {} none).run identicalCommands).desk.returns =
        [(0, .done), (1, .confirmed (confirmation 1)), (2, .confirmed (confirmation 1))] ∧
      ((new {} none).history identicalCommands).Paired := by
  have hcalls : (callsMade identicalCommands).Nodup := by decide
  have hhistory : (new {} none).history identicalCommands =
      [.calls 0 (.start 0 9), .reports (.stateChanged .started), .returns 0 .done,
        .calls 1 (.sendConfirmed (interrogation 1)),
        .expects 1 ⟨0, .standard .interrogation, 1, some 0⟩, .sends 1,
        .calls 2 (.sendConfirmed (interrogation 1)),
        .expects 2 ⟨1, .standard .interrogation, 1, some 0⟩, .sends 2,
        .hands (confirmation 1) 1, .returns 1 (.confirmed (confirmation 1)),
        .hands (confirmation 1) 2, .returns 2 (.confirmed (confirmation 1))] := rfl
  refine ⟨hcalls, rfl, (confirmations_paired_iff {} none _ hcalls).2.mpr ?_⟩
  rw [hhistory]
  intro first asdu call rest heq
  constructor
  · simp [List.cons_eq_append_iff] at heq
    obtain ⟨middle, rfl, ⟨-, ⟨-, rfl⟩, -⟩ | ⟨-, ⟨-, rfl⟩, -⟩⟩ := heq <;> simp
  · rintro other ⟨⟨e, e', hgiven, -⟩, hsent⟩
    have hgiven := (hgiven.filterMap Occurrence.expectation?).eq_of_length rfl
    have hsent := (hsent.filterMap Occurrence.sent?).eq_of_length rfl
    cases hgiven
    cases hsent

/-- A confirmation may be handed to a call before the command is sent. -/
theorem early_confirmation_unpaired :
    (callsMade Station.earlyThenSent).Nodup ∧
      ((new { k := 1, w := 1 } none).run Station.earlyThenSent).closed = none ∧
      ¬((new { k := 1, w := 1 } none).history Station.earlyThenSent).Paired := by
  have hhistory : (new { k := 1, w := 1 } none).history Station.earlyThenSent =
      [.calls 0 (.start 0 9), .reports (.stateChanged .started), .returns 0 .done,
        .calls 1 (.send (interrogation 2)), .sends 1, .returns 1 .done,
        .calls 2 (.sendConfirmed (interrogation 1)),
        .expects 2 ⟨0, .standard .interrogation, 1, some 0⟩] ++
      .hands (confirmation 1) 2 :: [.sends 2, .returns 2 (.confirmed (confirmation 1))] := rfl
  refine ⟨by decide, rfl, fun hpaired => ?_⟩
  have hsent := hpaired.sent _ _ _ _ hhistory
  simp at hsent

end Link

end Telecontrol
