import Mathlib.Data.List.Nodup
import Telecontrol.Proofs.Link.History

/-!
# The record of a link

A desk and the history that led to it agree (`Desk.Record`): every call that was made waits at one
place or has returned once; a call that waits for a confirmation has sent its command, and one that
waits for room in the window has not; a confirmation is expected until it is handed to the call of
its command or that call returns; and a unit that was handed to a call is all that the call can
return, unless it fails.

Every turn keeps this (`Desk.Record.turn`), and so does every run in which no two calls have the
same identity (`Link.record_history`). Whatever else every turn keeps holds in the course of such a
run as well (`Link.history_induction`).
-/

namespace Telecontrol

namespace Desk

/-! ### Who has called and who has returned -/

/-- A desk agrees with a history on the events reported, and on the calls made: each of them
either waits, at one place, or has returned once. -/
structure Tally (d : Desk) (h : History) : Prop where
  events : d.events = h.reported
  returns : d.returns = h.returned
  calls : (d.outstanding ++ d.returned).Perm h.made

section Outstanding

variable {d : Desk} {call : CallId}

theorem outstanding_dismiss (hnodup : d.outstanding.Nodup)
    (hcall : call ∈ d.waiting.map (·.call) ++ d.senders.map (·.call)) :
    d.outstanding.Perm (call :: (d.dismiss call).outstanding) := by
  have hmem : call ∈ d.outstanding := List.mem_append_right _ hcall
  have hbystanders : d.bystanders.filter (· != call) = d.bystanders := by
    obtain ⟨-, -, hne⟩ := List.nodup_append.mp hnodup
    exact List.filter_eq_self.mpr fun other hother => bne_iff_ne.mpr (hne _ hother _ hcall)
  have hdismiss : (d.dismiss call).outstanding = d.outstanding.erase call := by
    rw [hnodup.erase_eq_filter, outstanding, outstanding, List.filter_append, List.filter_append,
      hbystanders, List.filter_map, List.filter_map]
    rfl
  rw [hdismiss]
  exact List.perm_cons_erase hmem

@[simp] theorem outstanding_wake (d : Desk) : d.wake.outstanding = d.outstanding := by
  simp only [outstanding, bystanders, wake, List.map_map, Function.comp_def]

@[simp] theorem outstanding_keep (d : Desk) (call : CallId) (asdu : Asdu) :
    (d.keep call asdu).outstanding = d.outstanding := by
  have hcalls : (d.keep call asdu).senders.map (·.call) = d.senders.map (·.call) := by
    simp only [keep, List.map_map]
    refine List.map_congr_left fun s _ => ?_
    simp only [Function.comp]
    split <;> rfl
  rw [outstanding, outstanding, hcalls]
  rfl

theorem outstanding_enqueue (d : Desk) (s : Sender) :
    (d.enqueue s).outstanding.Perm (s.call :: d.outstanding) := by
  simp only [outstanding, enqueue, List.map_append, List.map_singleton, ← List.append_assoc]
  exact List.perm_append_singleton _ _

theorem outstanding_await (d : Desk) (a : Waiting) :
    (d.await a).outstanding.Perm (a.call :: d.outstanding) := by
  simp only [outstanding, await, List.map_append, List.map_singleton, List.append_assoc,
    List.singleton_append]
  rw [← List.append_assoc, ← List.append_assoc]
  exact List.perm_middle

theorem pendingCalls_perm (d : Desk) :
    d.pendingCalls.Perm (d.bystanders ++ d.waiting.map (·.call)) := by
  simp only [pendingCalls, bystanders, List.append_assoc]
  exact (List.perm_append_comm.append_left _).append_left _

end Outstanding

namespace Turn

variable {d d' : Desk} {o : History}

theorem events_eq (turn : d.Turn o d') : d'.events = d.events ++ o.reported := by
  cases turn <;>
    simp [wake, post, close, seat, answer, enqueue, expect, giveUp, forget, dismiss, send, await,
      keep]

theorem returns_eq (turn : d.Turn o d') : d'.returns = d.returns ++ o.returned := by
  cases turn <;>
    simp [wake, post, close, seat, answer, enqueue, expect, giveUp, forget, dismiss, send, await,
      keep]

/-- A call waits at one place or has returned. -/
theorem calls_perm (turn : d.Turn o d') (hnodup : d.outstanding.Nodup) :
    (d'.outstanding ++ d'.returned).Perm (o.made ++ (d.outstanding ++ d.returned)) := by
  have hreturned : d'.returned = d.returned ++ o.returned.map (·.1) := by
    simp only [returned, turn.returns_eq, List.map_append]
  -- A call that leaves its place returns, or takes another.
  have hreturns {call : CallId} {calls : List CallId}
      (hperm : d.outstanding.Perm (call :: calls)) :
      (calls ++ (d.returned ++ [call])).Perm (d.outstanding ++ d.returned) := by
    rw [← List.append_assoc]
    exact (List.perm_append_singleton _ _).trans (hperm.symm.append_right d.returned)
  have hstays {calls new : List CallId} (hperm : calls.Perm (new ++ d.outstanding)) :
      (calls ++ (d.returned ++ [])).Perm (new ++ (d.outstanding ++ d.returned)) := by
    rw [List.append_nil, ← List.append_assoc]
    exact hperm.append_right _
  have hwaiting {a : Waiting} (ha : a ∈ d.waiting) :
      d.outstanding.Perm (a.call :: (d.dismiss a.call).outstanding) :=
    outstanding_dismiss hnodup (List.mem_append_left _ (List.mem_map_of_mem ha))
  have hsenders {s : Sender} (hs : s ∈ d.senders) :
      d.outstanding.Perm (s.call :: (d.dismiss s.call).outstanding) :=
    outstanding_dismiss hnodup (List.mem_append_right _ (List.mem_map_of_mem hs))
  rw [hreturned]
  cases turn with
  | wakes => exact @hstays _ [] (by rw [outstanding_wake]; rfl)
  | reports | posts => exact @hstays _ [] (.refl _)
  | closes cause =>
    have hcalls : (d.pendingCalls ++ d.senders.map (·.call)).Perm d.outstanding := by
      rw [outstanding, ← List.append_assoc]
      exact d.pendingCalls_perm.append_right _
    have hclose : (d.close cause).outstanding = d.senders.map (·.call) := by
      simp [outstanding, bystanders, close, wake]
    rw [hclose]
    simp only [History.made_cons, Occurrence.made?, History.made_returning, History.returned_cons,
      Occurrence.return?, Option.toList_none, List.nil_append, History.returned_returning,
      List.map_map, Function.comp_def, List.map_id']
    refine (List.perm_append_comm.trans ?_).trans (hcalls.append_right _)
    rw [List.append_assoc]
    exact List.perm_append_comm
  | joins _ hperm => exact @hstays _ [_] (hperm.append_right _)
  | leaves _ hperm => exact hreturns (hperm.append_right _)
  | queues => exact @hstays _ [_] (outstanding_enqueue d _)
  | commands => exact @hstays _ [_] (outstanding_enqueue (d.expect _) _)
  | fails _ hs => exact hreturns (hsenders hs)
  | waits hs => exact @hstays _ [] ((outstanding_enqueue _ _).trans (hsenders hs).symm)
  | sends hs => exact hreturns (hsenders hs)
  | sendsCommand _ hs => exact @hstays _ [] ((outstanding_await _ _).trans (hsenders hs).symm)
  | sendsConfirmed hs => exact hreturns (hsenders hs)
  | expires ha => exact hreturns (hwaiting ha)
  | confirms _ _ ha => exact hreturns (hwaiting ha)
  | keeps => exact @hstays _ [] (by rw [outstanding_keep]; rfl)

end Turn

theorem Tally.turn {d d' : Desk} {h o : History} (htally : d.Tally h)
    (hnodup : d.outstanding.Nodup) (turn : d.Turn o d') : d'.Tally (h ++ o) where
  events := by rw [turn.events_eq, htally.events, History.reported_append]
  returns := by rw [turn.returns_eq, htally.returns, History.returned_append]
  calls := by
    rw [History.made_append]
    exact (turn.calls_perm hnodup).trans
      ((htally.calls.append_left o.made).trans List.perm_append_comm)

/-! ### The numbers of commands -/

/-- A number is that of one command only, commands that are given later have larger ones, and a
call gives one command at most. -/
structure Numbered (d : Desk) (h : History) : Prop where
  lt : ∀ p ∈ h.expected, p.2.ticket < d.nextTicket
  sorted : h.expected.Pairwise fun p q => p.2.ticket < q.2.ticket
  askers : (h.expected.map (·.1)).Sublist h.made
  listed : d.expectations.Sublist (h.expected.map (·.2))

section Numbered

variable {d d' : Desk} {h o : History}

/-- A turn gives at most one command, and else expects no more than before. -/
theorem Turn.expecting (turn : d.Turn o d') :
    o.expected = [] ∧ d'.nextTicket = d.nextTicket ∧
        d'.expectations.Sublist d.expectations ∨
      ∃ call asdu, o.expected = [(call, .ofAsdu d.nextTicket asdu)] ∧ o.made = [call] ∧
        d'.nextTicket = d.nextTicket + 1 ∧
        d'.expectations = d.expectations ++ [.ofAsdu d.nextTicket asdu] := by
  cases turn with
  | @commands call asdu => exact .inr ⟨call, asdu, rfl, rfl, rfl, rfl⟩
  | fails | expires | confirms => exact .inl ⟨rfl, rfl, List.filter_sublist⟩
  | keeps => exact .inl ⟨rfl, rfl, List.filter_sublist⟩
  | closes => exact .inl ⟨by simp, rfl, List.nil_sublist _⟩
  | _ => exact .inl ⟨rfl, rfl, List.Sublist.refl _⟩

theorem Numbered.turn (hn : d.Numbered h) (turn : d.Turn o d') : d'.Numbered (h ++ o) := by
  rcases turn.expecting with ⟨ho, hnext, hsublist⟩ | ⟨call, asdu, ho, hmade, hnext, hlist⟩
  · constructor
    · rw [History.expected_append, ho, List.append_nil, hnext]
      exact hn.lt
    · rw [History.expected_append, ho, List.append_nil]
      exact hn.sorted
    · rw [History.expected_append, ho, List.append_nil, History.made_append]
      exact hn.askers.trans (List.sublist_append_left _ _)
    · rw [History.expected_append, ho, List.append_nil]
      exact hsublist.trans hn.listed
  · constructor
    · intro p hp
      rw [History.expected_append, ho, List.mem_append, List.mem_singleton] at hp
      rcases hp with hp | rfl
      · have hlt := hn.lt p hp
        omega
      · rw [hnext]
        exact Nat.lt_succ_self _
    · rw [History.expected_append, ho, List.pairwise_append]
      refine ⟨hn.sorted, List.pairwise_singleton _ _, fun p hp q hq => ?_⟩
      rw [List.mem_singleton.mp hq]
      exact hn.lt p hp
    · rw [History.expected_append, ho, History.made_append, hmade, List.map_append]
      exact hn.askers.append_right [call]
    · rw [History.expected_append, ho, hlist, List.map_append]
      exact hn.listed.append_right _

theorem Numbered.eq_of_ticket_eq (hn : d.Numbered h) {p q : CallId × Expectation}
    (hp : p ∈ h.expected) (hq : q ∈ h.expected) (hticket : p.2.ticket = q.2.ticket) : p = q := by
  have hnodup : (h.expected.map fun p => p.2.ticket).Nodup :=
    List.pairwise_map.mpr (hn.sorted.imp Nat.ne_of_lt)
  exact List.inj_on_of_nodup_map hnodup hp hq hticket

theorem Numbered.eq_of_call_eq (hn : d.Numbered h) (hmade : h.made.Nodup)
    {p q : CallId × Expectation} (hp : p ∈ h.expected) (hq : q ∈ h.expected)
    (hcall : p.1 = q.1) : p = q :=
  List.inj_on_of_nodup_map (hn.askers.nodup hmade) hp hq hcall

theorem Numbered.made (hn : d.Numbered h) {p : CallId × Expectation} (hp : p ∈ h.expected) :
    p.1 ∈ h.made :=
  hn.askers.mem (List.mem_map_of_mem hp)

end Numbered

/-! ### The calls of commands, and the units handed to them -/

/-- What a history says of the calls that wait, and of the confirmations that are expected. -/
structure Placed (d : Desk) (h : History) : Prop where
  bystander : ∀ call ∈ d.bystanders, ∀ e, (call, e) ∉ h.expected
  /-- A call that waits for the confirmation of a command has sent it. -/
  waiting : ∀ a ∈ d.waiting, .sends a.call ∈ h ∧
    ∃ e ∈ d.expectations, (a.call, e) ∈ h.expected ∧ e.ticket = a.ticket
  /-- A call that waits for room in the window has sent nothing. -/
  unsent : ∀ s ∈ d.senders, .sends s.call ∉ h
  /-- It may have been handed a confirmation all the same. -/
  kept : ∀ s ∈ d.senders, ∀ asdu, s.confirmation? = some asdu ↔ .hands asdu s.call ∈ h
  plain : ∀ s ∈ d.senders, s.ticket? = none → ∀ e, (s.call, e) ∉ h.expected
  command : ∀ s ∈ d.senders, ∀ ticket, s.ticket? = some ticket →
    ∃ e, (s.call, e) ∈ h.expected ∧ e.ticket = ticket ∧
      (d.closed = none → s.confirmation? = none → e ∈ d.expectations)
  /-- A confirmation is expected until it is handed to the call, or the call returns. -/
  pending : ∀ e ∈ d.expectations, ∃ call, (call, e) ∈ h.expected ∧
    (∀ asdu, .hands asdu call ∉ h) ∧ ∀ reply, .returns call reply ∉ h

/-- What becomes of a unit that is handed to a call. -/
structure Handed (d : Desk) (h : History) : Prop where
  sent : ∀ call, .sends call ∈ h → call ∈ h.made
  confirms : ∀ asdu call, .hands asdu call ∈ h → ∃ e, (call, e) ∈ h.expected ∧ e.isMetBy asdu
  recipients : h.recipients.Nodup
  /-- The call returns the unit, or fails. -/
  settled : ∀ asdu call reply, .hands asdu call ∈ h → .returns call reply ∈ h →
    reply = .confirmed asdu ∨ ∃ cause, reply = .failed cause
  confirmed : ∀ asdu call, .returns call (.confirmed asdu) ∈ h → .hands asdu call ∈ h

/-- A desk agrees with a history. -/
structure Record (d : Desk) (h : History) : Prop extends
  d.Tally h, d.Numbered h, d.Placed h, d.Handed h

section Record

variable {d d' : Desk} {h o : History}

theorem Tally.nodup (ht : d.Tally h) (hmade : h.made.Nodup) : (d.outstanding ++ d.returned).Nodup :=
  ht.calls.nodup_iff.mpr hmade

theorem Tally.made (ht : d.Tally h) {call : CallId} (hcall : call ∈ d.outstanding) :
    call ∈ h.made :=
  ht.calls.subset (List.mem_append_left _ hcall)

namespace Record

theorem outstanding_nodup (hr : d.Record h) (hmade : h.made.Nodup) : d.outstanding.Nodup :=
  (List.nodup_append.mp (hr.nodup hmade)).1

theorem same_command (hr : d.Record h) (hmade : h.made.Nodup) {call call' : CallId}
    {e e' : Expectation} (he : (call, e) ∈ h.expected) (he' : (call', e') ∈ h.expected)
    (hsame : call = call' ∨ e.ticket = e'.ticket) : call = call' ∧ e = e' := by
  rcases hsame with hcall | hticket
  · exact Prod.mk.inj (hr.eq_of_call_eq hmade he he' hcall)
  · exact Prod.mk.inj (hr.eq_of_ticket_eq he he' hticket)

theorem handed_made (hr : d.Record h) {asdu : Asdu} {call : CallId}
    (hhands : .hands asdu call ∈ h) : call ∈ h.made := by
  obtain ⟨e, he, -⟩ := hr.confirms asdu call hhands
  exact hr.toNumbered.made he

theorem returned_made (hr : d.Record h) {call : CallId} {reply : Reply}
    (hreturns : .returns call reply ∈ h) : call ∈ h.made := by
  refine hr.calls.subset (List.mem_append_right _ ?_)
  rw [returned, hr.returns]
  exact List.mem_map_of_mem (History.mem_returned (p := (call, reply)).mpr hreturns)

theorem not_returned (hr : d.Record h) (hmade : h.made.Nodup) {call : CallId}
    (hcall : call ∈ d.outstanding) (reply : Reply) : .returns call reply ∉ h := by
  intro hreturns
  obtain ⟨-, -, hne⟩ := List.nodup_append.mp (hr.nodup hmade)
  refine hne call hcall call ?_ rfl
  rw [returned, hr.returns]
  exact List.mem_map_of_mem (History.mem_returned (p := (call, reply)).mpr hreturns)

/-- The call of a command that is still to be sent knows its number. -/
theorem sender_ticket (hr : d.Record h) (hmade : h.made.Nodup) {s : Sender} (hs : s ∈ d.senders)
    {e : Expectation} (he : (s.call, e) ∈ h.expected) : s.ticket? = some e.ticket := by
  cases hticket : s.ticket? with
  | none => exact absurd he (hr.plain s hs hticket e)
  | some ticket =>
    obtain ⟨e', he', rfl, -⟩ := hr.command s hs ticket hticket
    rw [(hr.same_command hmade he he' (.inl rfl)).2]

/-- So does the call of a command that was sent. -/
theorem waiting_ticket (hr : d.Record h) (hmade : h.made.Nodup) {a : Waiting}
    (ha : a ∈ d.waiting) {e : Expectation} (he : (a.call, e) ∈ h.expected) :
    a.ticket = e.ticket := by
  obtain ⟨-, e', -, he', hticket⟩ := hr.waiting a ha
  rw [(hr.same_command hmade he he' (.inl rfl)).2, hticket]

theorem not_handed (hr : d.Record h) {e : Expectation} (he : e ∈ d.expectations)
    {call : CallId} {e' : Expectation} (he' : (call, e') ∈ h.expected)
    (hticket : e'.ticket = e.ticket) (asdu : Asdu) : .hands asdu call ∉ h := by
  obtain ⟨other, hother, hhands, -⟩ := hr.pending e he
  obtain ⟨rfl, -⟩ := Prod.mk.inj (hr.eq_of_ticket_eq he' hother hticket)
  exact hhands asdu

theorem waiting_not_handed (hr : d.Record h) {a : Waiting} (ha : a ∈ d.waiting) (asdu : Asdu) :
    .hands asdu a.call ∉ h := by
  obtain ⟨-, e, he, hexpected, -⟩ := hr.waiting a ha
  exact hr.not_handed he hexpected rfl asdu

theorem bystander_not_handed (hr : d.Record h) {call : CallId} (hcall : call ∈ d.bystanders)
    (asdu : Asdu) : .hands asdu call ∉ h := by
  intro hhands
  obtain ⟨e, he, -⟩ := hr.confirms asdu call hhands
  exact hr.bystander call hcall e he

theorem sender_not_handed (hr : d.Record h) {s : Sender} (hs : s ∈ d.senders) {e : Expectation}
    (he : e ∈ d.expectations) (hticket : s.ticket? = some e.ticket) (asdu : Asdu) :
    .hands asdu s.call ∉ h := by
  obtain ⟨e', hexpected, hticket', -⟩ := hr.command s hs e.ticket hticket
  exact hr.not_handed he hexpected hticket' asdu

end Record

theorem Turn.mem_bystanders (turn : d.Turn o d') {call : CallId} (hcall : call ∈ d'.bystanders) :
    call ∈ d.bystanders ∨ o.made = [call] ∧ o.expected = [] := by
  cases turn with
  | joins _ hperm =>
    rcases List.mem_cons.mp (hperm.subset hcall) with rfl | hcall
    · exact .inr ⟨rfl, rfl⟩
    · exact .inl hcall
  | leaves _ hperm => exact .inl (hperm.symm.subset (List.mem_cons_of_mem _ hcall))
  | closes => cases hcall
  | _ => exact .inl hcall

/-! Every turn keeps each clause. A turn is about one call, or about none; that it leaves the other
calls alone follows from this: no call waits at two places, no two commands have the same number,
and a call that is made is new. -/

section Clauses

attribute [local grind] wake post close seat answer enqueue expect giveUp forget dismiss send
  await keep Expectation.ofAsdu

variable (hr : d.Record h) (turn : d.Turn o d')
include hr turn

theorem bystander_turn (hfresh : ∀ call ∈ o.made, call ∉ h.made) :
    ∀ call ∈ d'.bystanders, ∀ e, (call, e) ∉ (h ++ o).expected := by
  intro call hcall e he
  rw [History.expected_append, List.mem_append] at he
  rcases turn.mem_bystanders hcall with hcall | ⟨hnew, hexpected⟩
  · rcases he with he | he
    · exact hr.bystander call hcall e he
    · rcases turn.expecting with ⟨hexpected, -⟩ | ⟨asker, asdu, hexpected, hnew, -⟩
      · rw [hexpected] at he
        cases he
      · rw [hexpected, List.mem_singleton, Prod.mk.injEq] at he
        refine hfresh call ?_ (hr.toTally.made (List.mem_append_left _ hcall))
        rw [hnew, he.1]
        exact List.mem_singleton_self _
  · rw [hexpected] at he
    rcases he with he | he
    · refine hfresh call ?_ (hr.toNumbered.made he)
      rw [hnew]
      exact List.mem_singleton_self _
    · cases he

theorem waiting_turn (hmade : h.made.Nodup) : ∀ a ∈ d'.waiting, .sends a.call ∈ h ++ o ∧
    ∃ e ∈ d'.expectations, (a.call, e) ∈ (h ++ o).expected ∧ e.ticket = a.ticket := by
  have hnodup := hr.outstanding_nodup hmade
  have hne := waiting_ne_sender hnodup
  have heq := waiting_eq_of_call_eq hnodup
  have hsame := @hr.same_command _ _ hmade
  have hwaiting := hr.waiting
  have hcommand := hr.command
  cases turn <;> grind

theorem unsent_turn (hmade : h.made.Nodup) (hfresh : ∀ call ∈ o.made, call ∉ h.made) :
    ∀ s ∈ d'.senders, .sends s.call ∉ h ++ o := by
  have hnodup := hr.outstanding_nodup hmade
  have heq := sender_eq_of_call_eq hnodup
  have hunsent := hr.unsent
  have hsent := hr.sent
  cases turn <;> grind

theorem kept_turn (hmade : h.made.Nodup) (hfresh : ∀ call ∈ o.made, call ∉ h.made) :
    ∀ s ∈ d'.senders, ∀ asdu, s.confirmation? = some asdu ↔ .hands asdu s.call ∈ h ++ o := by
  have hnodup := hr.outstanding_nodup hmade
  have hne := waiting_ne_sender hnodup
  have heq := sender_eq_of_call_eq hnodup
  have hsame := @hr.same_command _ _ hmade
  have hhanded := @hr.handed_made
  have hkept := hr.kept
  have hcommand := hr.command
  have hpending := hr.pending
  cases turn <;> grind

theorem plain_turn (hfresh : ∀ call ∈ o.made, call ∉ h.made) :
    ∀ s ∈ d'.senders, s.ticket? = none → ∀ e, (s.call, e) ∉ (h ++ o).expected := by
  have hasked := @hr.toNumbered.made
  have hout : ∀ s ∈ d.senders, s.call ∈ h.made := fun s hs =>
    hr.toTally.made (sender_outstanding s hs)
  have hplain := hr.plain
  cases turn <;> grind

theorem command_turn (hmade : h.made.Nodup) (hfresh : ∀ call ∈ o.made, call ∉ h.made) :
    ∀ s ∈ d'.senders, ∀ ticket, s.ticket? = some ticket →
      ∃ e, (s.call, e) ∈ (h ++ o).expected ∧ e.ticket = ticket ∧
        (d'.closed = none → s.confirmation? = none → e ∈ d'.expectations) := by
  have hnodup := hr.outstanding_nodup hmade
  have hne := waiting_ne_sender hnodup
  have heq := sender_eq_of_call_eq hnodup
  have hsame := @hr.same_command _ _ hmade
  have hcommand := hr.command
  have hwaiting := hr.waiting
  cases turn <;> grind

theorem pending_turn (hmade : h.made.Nodup) (hfresh : ∀ call ∈ o.made, call ∉ h.made) :
    ∀ e ∈ d'.expectations, ∃ call, (call, e) ∈ (h ++ o).expected ∧
      (∀ asdu, .hands asdu call ∉ h ++ o) ∧ ∀ reply, .returns call reply ∉ h ++ o := by
  have hsender := @hr.sender_ticket _ _ hmade
  have hwaiting := @hr.waiting_ticket _ _ hmade
  have hbystander := hr.bystander
  have hkept := hr.kept
  intro e he
  -- Nothing happens to a call whose confirmation is still expected.
  have hstays (he : e ∈ d.expectations) (hleft : e ∈ d'.expectations) :
      ∃ call, (call, e) ∈ (h ++ o).expected ∧
        (∀ asdu, .hands asdu call ∉ h ++ o) ∧ ∀ reply, .returns call reply ∉ h ++ o := by
    obtain ⟨call, hcall, hhands, hreturns⟩ := hr.pending e he
    have hquiet : (∀ asdu, .hands asdu call ∉ o) ∧ ∀ reply, .returns call reply ∉ o := by
      cases turn with
      | leaves _ hperm =>
        have hleaves := hperm.symm.subset (List.mem_cons_self ..)
        grind
      | closes => cases hleft
      | _ => grind
    exact ⟨call, by simp [hcall], by simp [hhands, hquiet.1], by simp [hreturns, hquiet.2]⟩
  cases turn with
  | @commands call asdu octets =>
    rcases List.mem_append.mp he with hold | hadded
    · exact hstays hold he
    · have hcall := hfresh call (by simp)
      have hhands : ∀ asdu, .hands asdu call ∉ h := fun _ hhands => hcall (hr.handed_made hhands)
      have hreturns : ∀ reply, .returns call reply ∉ h := fun _ hreturns =>
        hcall (hr.returned_made hreturns)
      exact ⟨call, by simp [List.mem_singleton.mp hadded], by simpa using hhands,
        by simpa using hreturns⟩
  | closes => cases he
  | fails | expires | confirms | keeps => exact hstays (List.mem_of_mem_filter he) he
  | _ => exact hstays he he

theorem sent_turn : ∀ call, .sends call ∈ h ++ o → call ∈ (h ++ o).made := by
  have hout : ∀ s ∈ d.senders, s.call ∈ h.made := fun s hs =>
    hr.toTally.made (sender_outstanding s hs)
  have hsent := hr.sent
  cases turn <;> grind

theorem confirms_turn (hmade : h.made.Nodup) : ∀ asdu call, .hands asdu call ∈ h ++ o →
    ∃ e, (call, e) ∈ (h ++ o).expected ∧ e.isMetBy asdu := by
  have hsame := @hr.same_command _ _ hmade
  have hmet := fun (l : List Expectation) asdu e => @List.find?_some _ (fun e => e.isMetBy asdu) e l
  have hconfirms := hr.confirms
  have hcommand := hr.command
  have hwaiting := hr.waiting
  have hpending := hr.pending
  cases turn <;> grind

theorem settled_turn (hmade : h.made.Nodup) : ∀ asdu call reply, .hands asdu call ∈ h ++ o →
    .returns call reply ∈ h ++ o → reply = .confirmed asdu ∨ ∃ cause, reply = .failed cause := by
  have hreturned := @hr.not_returned _ _ hmade
  have hwaiting := @waiting_outstanding d
  have hsenders := @sender_outstanding d
  -- Only a call that is still to send its command can have been handed a unit.
  have hunhanded := @hr.waiting_not_handed
  have hbystander := @hr.bystander_not_handed
  have hconfirms := hr.confirms
  have hsettled := hr.settled
  have hkept := hr.kept
  have hplain := hr.plain
  cases turn with
  | leaves _ hperm =>
    have hleaves := hperm.symm.subset (List.mem_cons_self ..)
    grind
  | _ => grind

theorem confirmed_turn : ∀ asdu call, .returns call (.confirmed asdu) ∈ h ++ o →
    .hands asdu call ∈ h ++ o := by
  have hkept := hr.kept
  have hconfirmed := hr.confirmed
  cases turn <;> grind [Reply.unit?]

theorem recipients_turn : (h ++ o).recipients.Nodup := by
  have hrecipients := @History.mem_recipients h
  have hwaiting := @hr.waiting_not_handed
  have hsender := @hr.sender_not_handed
  have hnodup := hr.recipients
  cases turn <;> grind

end Clauses

/-- A turn keeps a desk and a history in agreement. -/
theorem Record.turn (hr : d.Record h) (turn : d.Turn o d') (hmade : (h ++ o).made.Nodup) :
    d'.Record (h ++ o) := by
  rw [History.made_append, List.nodup_append] at hmade
  obtain ⟨hmade, -, hne⟩ := hmade
  have hfresh : ∀ call ∈ o.made, call ∉ h.made := fun call ho hh => hne call hh call ho rfl
  exact
    { toTally := hr.toTally.turn (hr.outstanding_nodup hmade) turn
      toNumbered := hr.toNumbered.turn turn
      bystander := bystander_turn hr turn hfresh
      waiting := waiting_turn hr turn hmade
      unsent := unsent_turn hr turn hmade hfresh
      kept := kept_turn hr turn hmade hfresh
      plain := plain_turn hr turn hfresh
      command := command_turn hr turn hmade hfresh
      pending := pending_turn hr turn hmade hfresh
      sent := sent_turn hr turn
      confirms := confirms_turn hr turn hmade
      recipients := recipients_turn hr turn
      settled := settled_turn hr turn hmade
      confirmed := confirmed_turn hr turn }

/-- What every turn preserves holds after any number of turns. -/
theorem Record.turns {motive : Desk → History → Prop}
    (step : ∀ {d d' h o}, d.Record h → motive d h → d.Turn o d' → (h ++ o).made.Nodup →
      motive d' (h ++ o))
    (hr : d.Record h) (hd : motive d h) (turns : d.Turns o d') (hmade : (h ++ o).made.Nodup) :
    d'.Record (h ++ o) ∧ motive d' (h ++ o) := by
  induction turns generalizing h with
  | nil =>
    rw [List.append_nil]
    exact ⟨hr, hd⟩
  | cons turn _ ih =>
    rw [← List.append_assoc] at hmade ⊢
    have hfirst := History.nodup_made_of_append hmade
    exact ih (hr.turn turn hfirst) (step hr hd turn hfirst) hmade

/-- A call that was made waits or has returned. -/
theorem Record.waits_or_returned (hr : d.Record h) {call : CallId} (hcall : call ∈ h.made) :
    call ∈ d.outstanding ∨ ∃ reply, .returns call reply ∈ h := by
  rcases List.mem_append.mp (hr.calls.symm.subset hcall) with hout | hreturned
  · exact .inl hout
  · rw [returned, hr.returns] at hreturned
    obtain ⟨⟨call, reply⟩, hreturns, rfl⟩ := List.mem_map.mp hreturned
    exact .inr ⟨reply, History.mem_returned.mp hreturns⟩

/-- The call of a command is to send it, waits for the confirmation, or has returned. -/
theorem Record.place (hr : d.Record h) {call : CallId} {e : Expectation}
    (he : (call, e) ∈ h.expected) :
    (∃ a ∈ d.waiting, a.call = call) ∨ (∃ s ∈ d.senders, s.call = call) ∨
      ∃ reply, .returns call reply ∈ h := by
  rcases hr.waits_or_returned (hr.toNumbered.made he) with hout | hreturned
  · rw [outstanding, List.mem_append, List.mem_append, List.mem_map, List.mem_map] at hout
    rcases hout with hbystander | hwaiting | hsender
    · exact absurd he (hr.bystander call hbystander e)
    · exact .inl hwaiting
    · exact .inr (.inl hsender)
  · exact .inr (.inr hreturned)

theorem Record.orderly (hr : d.Record h) (hmade : h.made.Nodup) : d.Orderly where
  nodup := hr.outstanding_nodup hmade
  waiting := by
    intro a ha b hb hticket
    obtain ⟨-, e, -, he, hea⟩ := hr.waiting a ha
    obtain ⟨-, e', -, he', heb⟩ := hr.waiting b hb
    have hequal : e.ticket = e'.ticket := hea.trans (hticket.trans heb.symm)
    exact (hr.same_command hmade he he' (.inr hequal)).1
  senders := by
    intro s hs t ht hsome hequal
    obtain ⟨ticket, hticket⟩ := Option.isSome_iff_exists.mp hsome
    obtain ⟨e, he, rfl, -⟩ := hr.command s hs ticket hticket
    obtain ⟨e', he', hticket', -⟩ := hr.command t ht e.ticket (hequal ▸ hticket)
    exact (hr.same_command hmade he he' (.inr hticket'.symm)).1
  held := by
    intro e he
    obtain ⟨call, hexpected, -, hreturns⟩ := hr.pending e he
    rcases hr.place hexpected with ⟨a, ha, rfl⟩ | ⟨s, hs, rfl⟩ | ⟨reply, hreply⟩
    · exact .inl ⟨a, ha, hr.waiting_ticket hmade ha hexpected⟩
    · exact .inr ⟨s, hs, hr.sender_ticket hmade hs hexpected⟩
    · exact absurd hreply (hreturns reply)

end Record

/-! ### Replies -/

/-- How a call has returned: at most one reply. -/
def replies (d : Desk) (call : CallId) : List Reply :=
  (d.returns.filter fun p => p.1 == call).map (·.2)

theorem mem_replies {d : Desk} {call : CallId} {reply : Reply} :
    reply ∈ d.replies call ↔ (call, reply) ∈ d.returns := by
  simp [replies]

section Replies

variable {d : Desk} {h : History} {call : CallId} {reply : Reply}

/-- A call returns once. -/
theorem Record.replies_eq (hr : d.Record h) (hmade : h.made.Nodup)
    (hreply : (call, reply) ∈ d.returns) : d.replies call = [reply] := by
  have hnodup : (d.returns.map (·.1)).Nodup := (List.nodup_append.mp (hr.nodup hmade)).2.1
  obtain ⟨first, rest, heq⟩ := List.append_of_mem hreply
  rw [heq, List.map_append, List.map_cons, List.nodup_append, List.nodup_cons] at hnodup
  obtain ⟨-, ⟨hrest, -⟩, hfirst⟩ := hnodup
  have hnone {part : List (CallId × Reply)} (hpart : call ∉ part.map (·.1)) :
      (part.filter fun p => p.1 == call) = [] := by
    refine List.filter_eq_nil_iff.mpr fun p hp hcall => hpart ?_
    rw [← beq_iff_eq.mp hcall]
    exact List.mem_map_of_mem hp
  rw [replies, heq, List.filter_append, List.filter_cons, hnone hrest,
    hnone fun hmem => hfirst call hmem call (List.mem_cons_self ..) rfl, if_pos (by simp)]
  rfl

theorem Record.replies_of_outstanding (hr : d.Record h) (hmade : h.made.Nodup)
    (hcall : call ∈ d.outstanding) : d.replies call = [] := by
  refine List.eq_nil_iff_forall_not_mem.mpr fun reply hreply => ?_
  rw [mem_replies, hr.returns] at hreply
  exact hr.not_returned hmade hcall reply (History.mem_returned.mp hreply)

end Replies

end Desk

/-! ### Runs -/

/-- The calls made in the course of a run. -/
def callsMade (inputs : List (Nat × LinkInput)) : List CallId :=
  inputs.filterMap fun input => input.2.call?

@[simp] theorem callsMade_append (first rest : List (Nat × LinkInput)) :
    callsMade (first ++ rest) = callsMade first ++ callsMade rest := List.filterMap_append

namespace Desk

theorem made_asking (d : Desk) (input : LinkInput) :
    (d.asking input).made = input.call?.toList := by
  cases input with
  | call call request => cases request <;> rfl
  | _ => rfl

theorem made_handing (d : Desk) (asdu : Asdu) : (d.handing asdu).made = [] := by
  unfold handing
  cases d.taker? asdu <;> rfl

theorem made_outcome (d : Desk) (caller? : Option CallId) (d' : Desk) :
    (d.outcome caller? d').made = [] := by
  refine List.eq_nil_iff_forall_not_mem.mpr fun call hcall => ?_
  obtain ⟨request, hrequest⟩ := History.mem_made.mp hcall
  rw [outcome, List.mem_append, List.mem_append, List.mem_filterMap, List.mem_map,
    List.mem_map] at hrequest
  rcases hrequest with (⟨_, -, hsends⟩ | ⟨_, -, hreports⟩) | ⟨_, -, hreturns⟩
  · obtain ⟨_, -, hequal⟩ := Option.map_eq_some_iff.mp hsends
    cases hequal
  · cases hreports
  · cases hreturns

end Desk

namespace Link

theorem made_occurrences (l : Link) (now : Nat) (input : LinkInput) :
    (l.occurrences now input).made = input.call?.toList := by
  rw [occurrences, Desk.occurrences, History.made_append, History.made_append, Desk.made_asking,
    Desk.made_outcome, List.append_nil]
  cases l.unit? input with
  | none => exact List.append_nil _
  | some asdu =>
    rw [Option.toList_some, List.flatMap_singleton, Desk.made_handing, List.append_nil]

theorem made_history (l : Link) (inputs : List (Nat × LinkInput)) :
    (l.history inputs).made = callsMade inputs := by
  induction inputs generalizing l with
  | nil => rfl
  | cons input inputs ih =>
    rw [history, History.made_append, made_occurrences, ih, ← List.singleton_append,
      callsMade_append]
    cases hcall : input.2.call? <;> simp [callsMade, hcall]

theorem record_new (settings : Settings) (extension : Option Extension) :
    (Link.new settings extension).desk.Record [] := by
  constructor <;> constructor <;> simp [desk, new, Desk.outstanding, Desk.bystanders,
    Desk.returned]

/-- A step is made of turns if the desk and its history agree. -/
theorem turns_step {l : Link} {h : History} (hr : l.desk.Record h) (now : Nat)
    (input : LinkInput) (hmade : (h ++ l.occurrences now input).made.Nodup) :
    l.desk.Turns (l.occurrences now input) (l.step now input).desk := by
  rw [History.made_append, List.nodup_append, made_occurrences] at hmade
  obtain ⟨hmade, -, hne⟩ := hmade
  refine Desk.Move.turns (hr.orderly hmade) (l.desk_step now input) ?_
  intro call hcall hout
  exact hne call (hr.toTally.made hout) call (by simp [hcall]) rfl

section Runs

variable {motive : Desk → History → Prop}
  (step : ∀ {d d' h o}, d.Record h → motive d h → d.Turn o d' → (h ++ o).made.Nodup →
    motive d' (h ++ o))
include step

/-- What every turn preserves, every run preserves, and the desk and the history agree. -/
theorem run_induction {l : Link} {h : History} (hr : l.desk.Record h) (hl : motive l.desk h)
    (inputs : List (Nat × LinkInput)) (hmade : (h.made ++ callsMade inputs).Nodup) :
    (l.run inputs).desk.Record (h ++ l.history inputs) ∧
      motive (l.run inputs).desk (h ++ l.history inputs) := by
  induction inputs generalizing l h with
  | nil =>
    rw [history, List.append_nil]
    exact ⟨hr, hl⟩
  | cons input inputs ih =>
    rw [history, ← List.append_assoc]
    rw [← List.singleton_append, callsMade_append, ← List.append_assoc] at hmade
    have hstep : (h ++ l.occurrences input.1 input.2).made = h.made ++ callsMade [input] := by
      rw [History.made_append, made_occurrences]
      cases hcall : input.2.call? <;> simp [callsMade, hcall]
    rw [← hstep] at hmade
    have hfirst := (List.nodup_append.mp hmade).1
    obtain ⟨hr', hl'⟩ := hr.turns step hl (turns_step hr input.1 input.2 hfirst) hfirst
    exact ih hr' hl' hmade

/-- What holds at the beginning and every turn preserves holds in the course of every run in which
no two calls have the same identity. -/
theorem history_induction (settings : Settings) (extension : Option Extension)
    (hnew : motive (Link.new settings extension).desk []) {inputs : List (Nat × LinkInput)}
    (hcalls : (callsMade inputs).Nodup) :
    motive ((Link.new settings extension).run inputs).desk
      ((Link.new settings extension).history inputs) :=
  (run_induction step (record_new settings extension) hnew inputs hcalls).2

end Runs

/-- Every run in which no two calls have the same identity agrees with its history. -/
theorem record_history (settings : Settings) (extension : Option Extension)
    {inputs : List (Nat × LinkInput)} (hcalls : (callsMade inputs).Nodup) :
    ((Link.new settings extension).run inputs).desk.Record
      ((Link.new settings extension).history inputs) :=
  (run_induction (motive := fun _ _ => True) (fun _ _ _ _ => trivial)
    (record_new settings extension) trivial inputs hcalls).1

end Link

end Telecontrol
