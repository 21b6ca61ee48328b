import Telecontrol.Proofs.Link.Pairing
import Telecontrol.Proofs.Link.Queue
import Telecontrol.Proofs.Link.Transfer

/-!
# Calls that are blocked

A call that is to send a unit is blocked while the window is full. It is woken whenever that may
have changed, and when data transfer or the connection ends; so a call that sleeps is one of an open
connection on which data transfer is started and the window is full. Until it returns it is one of
those that wait (`Desk.Settles`). No call sends its unit twice, and one that fails has sent nothing,
unless it has sent a command and waited for the confirmation (`Desk.Sends`). All this is said of
every run in `Link.blocked_only_by_full_window`.
-/

namespace Telecontrol

namespace Desk

variable {d d' : Desk} {input : LinkInput} {unit? : Option Asdu}

/-- The state of data transfer, as it was reported last. -/
def state (d : Desk) : LinkState := (d.events.filterMap LinkEvent.change?).getLastD .stopped

@[simp] theorem state_post_stateChanged (d : Desk) (state : LinkState) :
    (d.post (.stateChanged state)).state = state := by
  simp [Desk.state, post, LinkEvent.change?, List.getLastD_eq_getLast?]

@[simp] theorem state_post_asdu (d : Desk) (asdu : Asdu) :
    (d.post (.asdu asdu)).state = d.state := by
  simp [Desk.state, post, LinkEvent.change?]

/-- The calls that wait for room in the window and were not woken wait on an open connection, on
which data transfer is started. -/
def Sleeps (d : Desk) : Prop :=
  ∀ s ∈ d.senders, s.woken = false → d.closed = none ∧ d.state = .started

theorem Sleeps.of_woken (h : ∀ s ∈ d.senders, s.woken = true) : d.Sleeps :=
  fun s hs hsleeps => by cases hsleeps.symm.trans (h s hs)

theorem woken_wake (d : Desk) : ∀ s ∈ d.wake.senders, s.woken = true := by
  intro s hs
  obtain ⟨_, -, rfl⟩ := List.mem_map.mp hs
  rfl

/-- Handing a unit over reports no state and does not close the connection, and no call is woken by
it or falls asleep. -/
theorem handOver_keeps (d : Desk) (asdu : Asdu) :
    (d.handOver asdu).closed = d.closed ∧ (d.handOver asdu).state = d.state ∧
      ∀ s ∈ (d.handOver asdu).senders, ∃ t ∈ d.senders, t.woken = s.woken := by
  unfold handOver
  split
  · unfold confirm
    split
    · exact ⟨rfl, rfl, fun s hs => ⟨s, hs, rfl⟩⟩
    · refine ⟨rfl, rfl, fun s hs => ?_⟩
      obtain ⟨t, ht, rfl⟩ := List.mem_map.mp hs
      refine ⟨t, ht, ?_⟩
      split <;> rfl
  · exact ⟨rfl, state_post_asdu d asdu, fun s hs => ⟨s, hs, rfl⟩⟩

/-- Whatever else than an attempt to send is made, no call falls asleep, and the calls are woken
when data transfer or the connection ends. -/
theorem Sleeps.move (h : d.Sleeps) (hmove : d.Move input unit? d')
    (hinput : ∀ call, input ≠ .resume call)
    (hrequest : ∀ call request, input = .call call request → request.unit? = none) :
    d'.Sleeps := by
  cases hmove with
  | idle | answers | activates | awaits | watches | expires => exact h
  | closes => exact .of_woken (woken_wake d)
  | wakes => exact .of_woken (woken_wake d)
  | starts | startsWaiter | confirmsStart =>
    exact fun s hs hsleeps => ⟨(h s hs hsleeps).1, state_post_stateChanged _ _⟩
  | stops => exact .of_woken (woken_wake d)
  | confirmsStop => exact .of_woken (woken_wake _)
  | @hands _ d₁ asdu _ hsame =>
    obtain ⟨hclosed, hstate, hsenders⟩ := d₁.handOver_keeps asdu
    intro s hs hsleeps
    obtain ⟨t, ht, hwoken⟩ := hsenders s hs
    rw [hclosed, hstate]
    rcases hsame with rfl | rfl
    · exact h t ht (hwoken.trans hsleeps)
    · cases (woken_wake d t ht).symm.trans (hwoken.trans hsleeps)
  | sends => cases hrequest _ _ rfl
  | commands => cases hrequest _ _ rfl
  | sleeps => exact absurd rfl (hinput _)
  | resumes => exact absurd rfl (hinput _)

end Desk

namespace Link

/-! ### Nobody sleeps in vain -/

/-- An attempt to send a unit puts a call to sleep only while the connection is open and data
transfer is started, and changes neither. -/
structure Attempts (l l' : Link) : Prop where
  transfer : l'.transfer = l.transfer
  senders : ∀ s ∈ l'.senders, s ∈ l.senders ∨ l.closed = none ∧ l.state = .started

variable {l : Link} {now : Nat} {input : LinkInput}

theorem attempts_attempt (l : Link) (now : Nat) (s : Sender) : l.Attempts (l.attempt now s) := by
  refine ⟨transfer_attempt .., fun t ht => ?_⟩
  by_cases hroom : l.window.isFull = false
  · rw [senders_attempt hroom] at ht
    exact .inl ht
  · unfold attempt at ht
    split at ht
    · exact .inl ht
    · next hopen =>
      split at ht
      · exact .inl ht
      · next hstate => exact .inr ⟨hopen, LinkState.eq_started_of_ne hstate⟩

theorem attempts_sendUnit (l : Link) (now : Nat) (call : CallId) (ticket? : Option Nat)
    (asdu : Asdu) : l.Attempts (l.sendUnit now call ticket? asdu) := by
  unfold sendUnit
  split
  · exact ⟨transfer_giveUp .., fun _ ht => .inl ht⟩
  · split
    · exact ⟨transfer_giveUp .., fun _ ht => .inl ht⟩
    · exact attempts_attempt ..

theorem attempts_resume (l : Link) (now : Nat) (call : CallId) :
    l.Attempts (l.resume now call) := by
  unfold resume
  split
  · next s _ =>
    have hattempt := attempts_attempt
      { l with senders := l.senders.filter fun other => other.call != call } now s
    exact ⟨hattempt.transfer, fun t ht => (hattempt.senders t ht).imp_left List.mem_of_mem_filter⟩
  · exact ⟨rfl, fun _ ht => .inl ht⟩

theorem Attempts.sleeps {l' : Link} (hattempts : l.Attempts l') (hstate : l.desk.state = l.state)
    (h : l.desk.Sleeps) : l'.desk.Sleeps := by
  intro s hs hsleeps
  have hclosed : l'.closed = l.closed := congrArg Transfer.closed hattempts.transfer
  have hsame : l'.desk.state = l.desk.state :=
    congrArg (fun t : Transfer => t.changes.getLastD .stopped) hattempts.transfer
  show l'.closed = none ∧ l'.desk.state = .started
  rw [hclosed, hsame]
  rcases hattempts.senders s hs with hs | ⟨hopen, hstarted⟩
  · exact h s hs hsleeps
  · exact ⟨hopen, hstate.trans hstarted⟩

theorem sleeps_step (hstate : l.desk.state = l.state) (h : l.desk.Sleeps) (now : Nat)
    (input : LinkInput) : (l.step now input).desk.Sleeps := by
  have hmove := h.move (l.desk_step now input)
  cases input with
  | call call request =>
    cases request with
    | send asdu => exact (attempts_sendUnit l now call none asdu).sleeps hstate h
    | sendConfirmed asdu =>
      exact (attempts_sendUnit
        { l with
          nextTicket := l.nextTicket + 1
          expectations := l.expectations ++ [Expectation.ofAsdu l.nextTicket asdu] }
        now call (some l.nextTicket) asdu).sleeps hstate h
    | _ => exact hmove nofun fun _ _ heq => by cases heq; rfl
  | resume call => exact (attempts_resume l now call).sleeps hstate h
  | expire | timers | frame | lost | close =>
    exact hmove (fun _ heq => by cases heq) (fun _ _ heq => by cases heq)

theorem sleeps_run (hsound : l.transfer.Sound) (h : l.desk.Sleeps)
    (inputs : List (Nat × LinkInput)) : (l.run inputs).desk.Sleeps := by
  induction inputs generalizing l with
  | nil => exact h
  | cons input inputs ih =>
    exact ih ((l.transfer_step input.1 input.2).sound hsound)
      (sleeps_step hsound.reported h input.1 input.2)

end Link

/-! ### What was sent -/

namespace History

/-- The calls that have sent their units, in the order in which they have. -/
def sent (h : History) : List CallId := h.filterMap Occurrence.sent?

theorem sent_append (h h' : History) : (h ++ h').sent = h.sent ++ h'.sent := List.filterMap_append

theorem mem_sent {h : History} {call : CallId} : call ∈ h.sent ↔ .sends call ∈ h := by
  rw [sent, List.mem_filterMap]
  constructor
  · rintro ⟨x, hx, hcall⟩
    cases x <;> simp [Occurrence.sent?] at hcall
    exact hcall ▸ hx
  · exact fun hcall => ⟨_, hcall, rfl⟩

theorem sent_returning (calls : List CallId) (reply : Reply) :
    (returning calls reply).sent = [] := by
  refine List.eq_nil_iff_forall_not_mem.mpr fun call hcall => ?_
  obtain ⟨_, -, heq⟩ := List.mem_map.mp (mem_sent.mp hcall)
  cases heq

end History

namespace Desk

/-- In a history, a call waits for room in the window, or it has sent its unit and returned, or it
has failed. -/
def Settles (d : Desk) (h : History) (call : CallId) : Prop :=
  (∃ s ∈ d.senders, s.call = call) ∨ .sends call ∈ h ∧ .returns call .done ∈ h ∨
    ∃ cause, .returns call (.failed cause) ∈ h

/-- What a history says of the units sent, and of the calls that fail. -/
structure Sends (d : Desk) (h : History) : Prop where
  /-- No call sends its unit twice. -/
  nodup : h.sent.Nodup
  units : d.units.length = h.sent.length
  bystander : ∀ call ∈ d.bystanders, .sends call ∉ h
  plain : ∀ call asdu, .calls call (.send asdu) ∈ h → ∀ e, (call, e) ∉ h.expected
  settles : ∀ call asdu, .calls call (.send asdu) ∈ h → d.Settles h call
  /-- A call that has sent its unit and fails has given a command, and waited for the
  confirmation. -/
  failed : ∀ call cause, .returns call (.failed cause) ∈ h → .sends call ∈ h →
    (∃ e, (call, e) ∈ h.expected) ∧ (cause = .responseTimeout ∨ d.closed = some cause)

section Turn

variable {d d' : Desk} {h o : History} {call : CallId}

/-- A turn sends nothing, or the unit of a call that waited for room in the window. -/
theorem Turn.sent_eq (turn : d.Turn o d') :
    o.sent = [] ∧ d'.units = d.units ∨
      ∃ s ∈ d.senders, o.sent = [s.call] ∧ d'.units = d.units ++ [s.octets] := by
  cases turn with
  | sends hs | sendsCommand _ hs | sendsConfirmed hs => exact .inr ⟨_, hs, rfl, rfl⟩
  | closes cause => exact .inl ⟨History.sent_returning _ _, rfl⟩
  | _ => exact .inl ⟨rfl, rfl⟩

/-- A call that is to send a unit, and waits for room in the window, goes on waiting until it
returns. -/
theorem Turn.settles (turn : d.Turn o d') (hnodup : d.outstanding.Nodup) {s : Sender}
    (hs : s ∈ d.senders) (hticket : s.ticket? = none) : d'.Settles o s.call := by
  have hwaits {d₁ : Desk} {t : Sender} (ht : t ∈ d₁.senders) (hcall : t.call = s.call) :
      d₁.Settles o s.call := .inl ⟨t, ht, hcall⟩
  have hstays {call : CallId} (hne : call ≠ s.call) : s ∈ (d.dismiss call).senders :=
    List.mem_filter.mpr ⟨hs, bne_iff_ne.mpr hne.symm⟩
  -- Whoever else leaves is not mistaken for the call.
  have hcommand {t : Sender} (ht : t ∈ d.senders) {ticket : Nat} (hsome : t.ticket? = some ticket) :
      t.call ≠ s.call := by
    intro hcall
    rw [sender_eq_of_call_eq hnodup t ht s hs hcall, hticket] at hsome
    cases hsome
  cases turn with
  | wakes | closes => exact hwaits (List.mem_map_of_mem hs) rfl
  | reports | joins | leaves | posts => exact hwaits hs rfl
  | queues | commands => exact hwaits (List.mem_append_left _ hs) rfl
  | @fails t cause ht =>
    by_cases hcall : t.call = s.call
    · exact .inr (.inr ⟨cause, by rw [hcall]; exact List.mem_singleton_self _⟩)
    · exact hwaits (hstays hcall) rfl
  | @waits t ht =>
    by_cases hcall : t.call = s.call
    · exact hwaits (List.mem_append_right _ (List.mem_singleton_self _)) hcall
    · exact hwaits (List.mem_append_left _ (hstays hcall)) rfl
  | @sends t ht =>
    by_cases hcall : t.call = s.call
    · rw [hcall]
      exact .inr (.inl ⟨by simp, by simp⟩)
    · exact hwaits (hstays hcall) rfl
  | sendsCommand _ ht _ hsome | sendsConfirmed ht hsome =>
    exact hwaits (hstays (hcommand ht hsome)) rfl
  | expires ha | confirms _ _ ha =>
    exact hwaits (hstays (waiting_ne_sender hnodup _ ha s hs)) rfl
  | keeps => exact hwaits (List.mem_map_of_mem hs) (by split <;> rfl)

/-- A call that is made to send a unit waits for room in the window first. -/
theorem Turn.enqueues (turn : d.Turn o d') {asdu : Asdu} (hcall : .calls call (.send asdu) ∈ o) :
    ∃ s ∈ d'.senders, s.call = call := by
  cases turn with
  | queues =>
    obtain ⟨rfl, -⟩ := Occurrence.calls.inj (List.mem_singleton.mp hcall)
    exact ⟨_, List.mem_append_right _ (List.mem_singleton_self _), rfl⟩
  | joins hplain =>
    obtain ⟨-, rfl⟩ := Occurrence.calls.inj (List.mem_singleton.mp hcall)
    cases hplain
  | closes =>
    rcases List.mem_cons.mp hcall with heq | hcall
    · cases heq
    · obtain ⟨_, -, heq⟩ := List.mem_map.mp hcall
      cases heq
  | _ => simp at hcall

theorem Settles.append (hsettles : d.Settles h call) (hsenders : ∀ s ∈ d.senders, s.call = call →
    d'.Settles o call) : d'.Settles (h ++ o) call := by
  rcases hsettles with ⟨s, hs, hcall⟩ | ⟨hsends, hreturns⟩ | ⟨cause, hfails⟩
  · rcases hsenders s hs hcall with hwaits | ⟨hsends, hreturns⟩ | ⟨cause, hfails⟩
    · exact .inl hwaits
    · exact .inr (.inl ⟨List.mem_append_right _ hsends, List.mem_append_right _ hreturns⟩)
    · exact .inr (.inr ⟨cause, List.mem_append_right _ hfails⟩)
  · exact .inr (.inl ⟨List.mem_append_left _ hsends, List.mem_append_left _ hreturns⟩)
  · exact .inr (.inr ⟨cause, List.mem_append_left _ hfails⟩)

variable (hr : d.Record h) (turn : d.Turn o d')
include hr turn

theorem sent_nodup_turn (hd : h.sent.Nodup) : (h ++ o).sent.Nodup := by
  rw [History.sent_append]
  rcases turn.sent_eq with ⟨ho, -⟩ | ⟨s, hs, ho, -⟩
  · rwa [ho, List.append_nil]
  · rw [ho, List.nodup_append]
    refine ⟨hd, List.nodup_singleton _, fun call hcall other hother heq => ?_⟩
    rw [List.mem_singleton] at hother
    refine hr.unsent s hs ?_
    rw [← hother, ← heq]
    exact History.mem_sent.mp hcall

attribute [local grind] wake post close seat answer enqueue expect giveUp forget dismiss send
  await keep

omit hr in
theorem units_turn (hd : d.units.length = h.sent.length) :
    d'.units.length = (h ++ o).sent.length := by
  rw [History.sent_append, List.length_append]
  rcases turn.sent_eq with ⟨ho, hunits⟩ | ⟨s, -, ho, hunits⟩
  · rw [ho, hunits, hd]
    rfl
  · rw [ho, hunits, List.length_append, hd]
    rfl

/-- A call that waits for something else is new, or was one before; and no call that was to send a
unit is one. -/
theorem bystander_unsent_turn (hmade : h.made.Nodup) (hfresh : ∀ call ∈ o.made, call ∉ h.made)
    (hd : ∀ call ∈ d.bystanders, .sends call ∉ h) :
    ∀ call ∈ d'.bystanders, .sends call ∉ h ++ o := by
  intro call hcall hsends
  rw [← History.mem_sent, History.sent_append, List.mem_append, History.mem_sent] at hsends
  -- A call that has sent its unit, or is just sending it, was made before.
  have hbefore : call ∈ h.made ∧ (.sends call ∉ h → call ∈ d.senders.map (·.call)) := by
    rcases hsends with hsends | hsends
    · exact ⟨hr.sent call hsends, fun hunsent => absurd hsends hunsent⟩
    · rcases turn.sent_eq with ⟨ho, -⟩ | ⟨s, hs, ho, -⟩
      · rw [ho] at hsends
        cases hsends
      · rw [ho, List.mem_singleton] at hsends
        subst hsends
        exact ⟨hr.toTally.made (sender_outstanding s hs), fun _ => List.mem_map_of_mem hs⟩
  rcases turn.mem_bystanders hcall with hcall | ⟨hnew, -⟩
  · obtain ⟨-, -, hne⟩ := List.nodup_append.mp (hr.outstanding_nodup hmade)
    exact hne call hcall call (List.mem_append_right _ (hbefore.2 (hd call hcall))) rfl
  · exact hfresh call (by rw [hnew]; exact List.mem_singleton_self _) hbefore.1

theorem plain_unexpected_turn (hfresh : ∀ call ∈ o.made, call ∉ h.made)
    (hd : ∀ call asdu, .calls call (.send asdu) ∈ h → ∀ e, (call, e) ∉ h.expected) :
    ∀ call asdu, .calls call (.send asdu) ∈ h ++ o → ∀ e, (call, e) ∉ (h ++ o).expected := by
  have hmade := fun call asdu (hcalls : .calls call (.send asdu) ∈ h) =>
    History.mem_made.mpr ⟨_, hcalls⟩
  have hexpected := @hr.toNumbered.made
  cases turn <;> grind [Request.unit?]

theorem settles_turn (hmade : h.made.Nodup) (hd : d.Sends h) :
    ∀ call asdu, .calls call (.send asdu) ∈ h ++ o → d'.Settles (h ++ o) call := by
  intro call asdu hcall
  rcases List.mem_append.mp hcall with hcall | hcall
  · refine (hd.settles call asdu hcall).append ?_
    rintro s hs rfl
    refine turn.settles (hr.outstanding_nodup hmade) hs ?_
    cases hticket : s.ticket? with
    | none => rfl
    | some ticket =>
      obtain ⟨e, he, -⟩ := hr.command s hs ticket hticket
      exact absurd he (hd.plain s.call asdu hcall e)
  · exact .inl (turn.enqueues hcall)

theorem failed_turn (hmade : h.made.Nodup) (hd : d.Sends h) :
    ∀ call cause, .returns call (.failed cause) ∈ h ++ o → .sends call ∈ h ++ o →
      (∃ e, (call, e) ∈ (h ++ o).expected) ∧
        (cause = .responseTimeout ∨ d'.closed = some cause) := by
  have hreturned := @hr.not_returned _ _ hmade
  have hsenders := @sender_outstanding d
  have hwaiting := hr.waiting
  have hunsent := hr.unsent
  have hbystander := hd.bystander
  intro call cause hreturns hsends
  have hold := hd.failed call cause
  have hfailed : (∃ e, (call, e) ∈ h.expected) ∧
      (cause = .responseTimeout ∨ d'.closed = some cause) := by
    cases turn with
    | leaves _ hperm =>
      have hleaves := hperm.symm.subset (List.mem_cons_self ..)
      grind
    | closes =>
      have hpending := d.pendingCalls_perm.subset
      grind
    | _ => grind
  obtain ⟨⟨e, he⟩, hcause⟩ := hfailed
  refine ⟨⟨e, ?_⟩, hcause⟩
  rw [History.expected_append]
  exact List.mem_append_left _ he

end Turn

/-- Every turn keeps it. -/
theorem Sends.turn {d d' : Desk} {h o : History} (hr : d.Record h) (hd : d.Sends h)
    (turn : d.Turn o d') (hmade : (h ++ o).made.Nodup) : d'.Sends (h ++ o) := by
  have hbefore := History.nodup_made_of_append hmade
  rw [History.made_append, List.nodup_append] at hmade
  obtain ⟨-, -, hne⟩ := hmade
  have hfresh : ∀ call ∈ o.made, call ∉ h.made := fun call ho hh => hne call hh call ho rfl
  exact
    { nodup := sent_nodup_turn hr turn hd.nodup
      units := units_turn turn hd.units
      bystander := bystander_unsent_turn hr turn hbefore hfresh hd.bystander
      plain := plain_unexpected_turn hr turn hfresh hd.plain
      settles := settles_turn hr turn hbefore hd
      failed := failed_turn hr turn hbefore hd }

end Desk

/-! ### Runs -/

namespace Link

variable {settings : Settings} (extension : Option Extension) (inputs : List (Nat × LinkInput))

/-- A call that sleeps waits for room in a full window, on an open connection on which data transfer
is started. -/
theorem full_of_sleeps {l : Link} (hsleeps : l.desk.Sleeps) (hreported : l.desk.state = l.state)
    (halert : l.queue.Alert) {s : Sender} (hs : s ∈ l.senders) (hwoken : s.woken = false) :
    l.closed = none ∧ l.state = .started ∧ l.window.isFull = true := by
  obtain ⟨hopen, hstate⟩ := hsleeps s hs hwoken
  refine ⟨hopen, hreported.symm.trans hstate, ?_⟩
  by_contra hroom
  have hawake := halert (Bool.eq_false_iff.mpr hroom) s.woken (List.mem_map_of_mem hs)
  cases hwoken.symm.trans hawake

/-- A full window holds as many frames as may be outstanding, and not more. -/
theorem outstanding_eq_of_isFull {s : Station} (h : s.Sound) (hfull : s.link.window.isFull = true) :
    s.link.window.outstanding.size = s.link.settings.k.toNat := by
  have hsize := h.ledger.records.size_outstanding
  have hlength := h.ledger.records.length_le
  have hle : s.link.window.k.toNat ≤ s.link.window.outstanding.size := of_decide_eq_true hfull
  rw [← h.k_eq]
  refine Nat.le_antisymm ?_ hle
  have hsame : s.endpoint.window = s.link.window := rfl
  rw [hsame] at hsize hlength
  omega

/-- A call that sleeps in a run waits for an acknowledgment, and for nothing else. -/
theorem sleeps_full (hvalid : settings.Valid) :
    ∀ s ∈ ((new settings extension).run inputs).senders, s.woken = false →
      ((new settings extension).run inputs).closed = none ∧
        ((new settings extension).run inputs).state = .started ∧
        ((new settings extension).run inputs).window.outstanding.size = settings.k.toNat := by
  have hsound := (Station.sound_new hvalid extension).run inputs
  have hsettings := Station.settings_run (Station.new settings extension) inputs
  have hlink := Station.run_link (Station.new settings extension) inputs
  have htransfer := transfer_new settings extension
  have hsleeps : ((new settings extension).run inputs).desk.Sleeps :=
    sleeps_run htransfer (fun _ hs => by cases hs) inputs
  have hreported := (transfer_run htransfer inputs).reported
  have halert := alert_run settings extension inputs
  intro s hs hwoken
  obtain ⟨hopen, hstate, hfull⟩ := full_of_sleeps hsleeps hreported halert hs hwoken
  have hsize := outstanding_eq_of_isFull hsound (by rw [hlink]; exact hfull)
  rw [hsettings, hlink] at hsize
  exact ⟨hopen, hstate, hsize⟩

/-- Whatever the calls and the other station do, a call that is to send a unit is blocked only by a
full window: if it waits and was not woken, the connection is open, data transfer is started, and as
many frames are outstanding as may be. A call that neither waits nor has sent its unit and returned
has failed. No call sends its unit twice, and none that waits has sent it. A call that is to send a
unit and fails has not sent it; the call of a command may have sent it, if it fails for want of a
confirmation. -/
theorem blocked_only_by_full_window (hvalid : settings.Valid)
    (hcalls : (callsMade inputs).Nodup) :
    let l := (new settings extension).run inputs
    let h := (new settings extension).history inputs
    (∀ s ∈ l.senders, s.woken = false →
        l.closed = none ∧ l.state = .started ∧
          l.window.outstanding.size = settings.k.toNat) ∧
      (∀ call asdu, .calls call (.send asdu) ∈ h →
        (∃ s ∈ l.senders, s.call = call) ∨ call ∈ h.sent ∧ .returns call .done ∈ h ∨
          ∃ cause, .returns call (.failed cause) ∈ h) ∧
      (h.sent.Nodup ∧ l.desk.units.length = h.sent.length ∧ ∀ s ∈ l.senders, s.call ∉ h.sent) ∧
      (∀ call asdu cause, .calls call (.send asdu) ∈ h → .returns call (.failed cause) ∈ h →
        call ∉ h.sent) ∧
      ∀ call cause, .returns call (.failed cause) ∈ h → call ∈ h.sent →
        cause = .responseTimeout ∨ l.closed = some cause := by
  intro l h
  have hr : l.desk.Record h := record_history settings extension hcalls
  have hnew : (new settings extension).desk.Sends [] := by
    constructor <;> simp [desk, new, History.sent, Desk.bystanders]
  have hd : l.desk.Sends h := history_induction Desk.Sends.turn settings extension hnew hcalls
  refine ⟨sleeps_full extension inputs hvalid, ?_,
    ⟨hd.nodup, hd.units, fun s hs hsent => hr.unsent s hs (History.mem_sent.mp hsent)⟩, ?_, ?_⟩
  · intro call asdu hcall
    exact (hd.settles call asdu hcall).imp_right (.imp_left (.imp_left History.mem_sent.mpr))
  · intro call asdu cause hcall hfails hsent
    obtain ⟨⟨e, he⟩, -⟩ := hd.failed call cause hfails (History.mem_sent.mp hsent)
    exact hd.plain call asdu hcall e he
  · intro call cause hfails hsent
    exact (hd.failed call cause hfails (History.mem_sent.mp hsent)).2

/-- Two calls are to send a unit each, over a window with room for one. -/
def twoCalls : List (Nat × LinkInput) :=
  [(0, .call 0 (.start 0 9)), (1, .frame (.unnumbered .startCon)),
    (2, .call 1 (.send (Station.interrogation 1))),
    (3, .call 2 (.send (Station.interrogation 2)))]

/-- The second call is blocked, by the unit of the first. -/
theorem second_call_blocked :
    let l := (new { k := 1, w := 1 } none).run twoCalls
    (∃ s ∈ l.senders, s.call = 2) ∧ l.closed = none ∧ l.state = .started ∧
      l.window.outstanding.size = 1 := by
  intro l
  have hvalid : Settings.Valid { k := 1, w := 1 } := (Settings.validate_eq_ok_iff _).mp rfl
  obtain ⟨s, hs, hcall, hsleeps⟩ : ∃ s ∈ l.senders, s.call = 2 ∧ s.woken = false :=
    ⟨_, List.mem_singleton_self _, rfl, rfl⟩
  have hblocked := (blocked_only_by_full_window none twoCalls hvalid (by decide)).1
  exact ⟨⟨s, hs, hcall⟩, hblocked s hs hsleeps⟩

end Link

end Telecontrol
