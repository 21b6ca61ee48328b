import Telecontrol.Proofs.Link.Idle
import Telecontrol.Proofs.Link.Supervision

/-!
# Timers are handled once at an instant

When the expired timers have been handled, every timer that is armed expires later
(`Link.Ahead`): t1 is armed for the oldest of the things that must still be acknowledged, none of
which is overdue if t1 had not expired; t2 and t3 are armed a time limit ahead. Nothing that
happens at the same instant changes this, because whatever is sent or received then has a whole
time limit before it (`Link.Ahead.step`). So there is nothing to do for the timers until a later
instant, unless the connection was closed, and then it was for want of an acknowledgment
(`Link.timers_handled_once`).
-/

namespace Telecontrol

namespace Timers

theorem deadline?_foldl_cancel (timers : Timers) (expired : List Timer) (timer : Timer) :
    (expired.foldl cancel timers).deadline? timer =
      if timer ∈ expired then none else timers.deadline? timer := by
  induction expired generalizing timers with
  | nil => rfl
  | cons first expired ih =>
    rw [List.foldl_cons, ih, cancel, deadline?_set]
    by_cases hfirst : timer = first <;> simp [hfirst]

/-- Of the timers, those are left that have not expired. -/
theorem deadline?_takeExpired (timers : Timers) (now : Nat) (timer : Timer) :
    (timers.takeExpired now).2.deadline? timer =
      if timers.isExpired now timer then none else timers.deadline? timer := by
  have hmem : timer ∈ Timer.all.filter (timers.isExpired now) ↔
      timers.isExpired now timer = true := by
    rw [List.mem_filter]
    exact and_iff_right (by cases timer <;> decide)
  rw [takeExpired, deadline?_foldl_cancel]
  simp only [hmem]

end Timers

/-! ### The timers t1 and t2 -/

theorem Stamped.eq_or {stamp : Nat} {old new : Option Nat} (h : Stamped stamp old new) :
    new = old ∨ new = none ∨ new = some stamp := by
  cases h with
  | keeps => exact .inl rfl
  | drops => exact .inr (.inl rfl)
  | sets => exact .inr (.inr rfl)

namespace Supervision

/-- The instants at which the things were sent that t1 supervises. -/
def pending (s : Supervision) : List Nat := s.frames ++ s.test?.toList ++ s.stop?.toList

/-- Nothing that is supervised is overdue, and t1 has not expired. -/
structure Ahead (s : Supervision) (now : Nat) : Prop where
  limit_pos : 0 < s.limit
  pending : ∀ instant ∈ s.pending, now < instant + s.limit
  deadline : ∀ deadline, s.deadline? = some deadline → now < deadline

variable {s s' : Supervision} {now : Nat}

theorem mem_pending_of_mem_candidates {instant : Nat} (h : instant ∈ s.candidates) :
    instant ∈ s.pending := by
  simp only [candidates, pending, List.mem_append] at h ⊢
  exact h.imp_left (Or.imp_left fun hhead => List.mem_of_mem_head? (Option.mem_toList.mp hhead))

/-- To arm t1 for the oldest thing that is supervised leaves it ahead, if only what is sent now
was added. -/
theorem Ahead.arm (h : s.Ahead now) (hlimit : s'.limit = s.limit)
    (hpending : ∀ instant ∈ s'.pending, instant ∈ s.pending ∨ instant = now) :
    s'.arm.Ahead now := by
  have hahead : ∀ instant ∈ s'.pending, now < instant + s'.limit := by
    intro instant hinstant
    rw [hlimit]
    rcases hpending instant hinstant with hold | rfl
    · exact h.pending instant hold
    · exact Nat.lt_add_of_pos_right h.limit_pos
  refine ⟨hlimit ▸ h.limit_pos, hahead, fun deadline hdeadline => ?_⟩
  obtain ⟨oldest, holdest, rfl⟩ := Option.map_eq_some_iff.mp hdeadline
  exact hahead oldest (mem_pending_of_mem_candidates (List.min?_mem holdest))

/-- If t1 is armed for the oldest thing that is supervised and has not expired, nothing is
overdue. -/
theorem ahead_of_armed (hlimit : 0 < s.limit) (hordered : s.frames.Pairwise (· ≤ ·))
    (harmed : s.deadline? = s.due?)
    (hunexpired : ∀ deadline, s.deadline? = some deadline → now < deadline) : s.Ahead now := by
  refine ⟨hlimit, fun instant hinstant => Nat.lt_of_not_le fun hoverdue => ?_, hunexpired⟩
  obtain ⟨deadline, hdeadline, hle⟩ :=
    (Station.oldest_overdue_iff s.pending s.limit now).mpr ⟨instant, hinstant, hoverdue⟩
  rw [s.due?_eq hordered] at harmed
  exact Nat.not_le.mpr (hunexpired deadline (harmed.trans hdeadline)) hle

theorem Ahead.move (h : s.Ahead now) (hmove : s.Move now s') : s'.Ahead now := by
  cases hmove with
  | keeps => exact h
  | releases count =>
    refine h.arm rfl fun instant hinstant => .inl ?_
    simp only [Supervision.pending, List.mem_append] at hinstant ⊢
    exact hinstant.imp_left (Or.imp_left List.mem_of_mem_drop)
  | sends | tests | tested | asksStop | stopped =>
    refine h.arm rfl fun instant hinstant => ?_
    simp only [Supervision.pending, List.mem_append, Option.toList_some, Option.toList_none,
      List.mem_singleton, List.not_mem_nil, or_false] at hinstant ⊢
    tauto

end Supervision

namespace Watch

/-- Neither t1 nor t2 has expired, and nothing is overdue. -/
structure Ahead (w : Watch) (now : Nat) : Prop where
  supervision : w.supervision.Ahead now
  delay_pos : 0 < w.delay
  deadline : ∀ deadline, w.deadline? = some deadline → now < deadline

variable {w w' : Watch} {now : Nat}

theorem Ahead.move (h : w.Ahead now) (hmove : w.Move now w') : w'.Ahead now := by
  refine ⟨h.supervision.move hmove.supervision, hmove.delay_eq ▸ h.delay_pos, ?_⟩
  rcases hmove.deadline?.eq_or with hkeeps | hdrops | hsets
  · rw [hkeeps]
    exact h.deadline
  · rw [hdrops]
    exact nofun
  · rw [hsets]
    rintro _ ⟨⟩
    exact Nat.lt_add_of_pos_right h.delay_pos

end Watch

/-! ### The timer t3 -/

namespace Pulse

/-- t3 has not expired. -/
structure Ahead (p : Pulse) (now : Nat) : Prop where
  limit_pos : 0 < p.limit
  deadline : ∀ deadline, p.deadline? = some deadline → now < deadline

variable {p : Pulse} {now : Nat}

theorem Ahead.start (h : p.Ahead now) : (p.start now).Ahead now := by
  refine ⟨h.limit_pos, ?_⟩
  rintro _ ⟨⟩
  exact Nat.lt_add_of_pos_right h.limit_pos

theorem Ahead.stop (h : p.Ahead now) : p.stop.Ahead now := ⟨h.limit_pos, nofun⟩

theorem Ahead.rearm (h : p.Ahead now) : (p.rearm now).Ahead now := by
  unfold Pulse.rearm
  split
  · exact ⟨h.limit_pos, h.start.deadline⟩
  · exact h

theorem Ahead.transmit (h : p.Ahead now) (apdu : Apdu) : (p.transmit now apdu).Ahead now :=
  Ahead.rearm ⟨h.limit_pos, h.deadline⟩

theorem Ahead.test (h : p.Ahead now) : (p.test now).Ahead now := by
  unfold Pulse.test
  split
  · exact Ahead.transmit (p := { p with testing := true }) ⟨h.limit_pos, h.deadline⟩ _
  · exact h

/-- Once it is looked after, t3 has not expired. -/
theorem ahead_lapse (hlimit : 0 < p.limit) : (p.lapse now).Ahead now := by
  unfold lapse
  split
  · exact ⟨hlimit, nofun⟩
  · next hdue =>
    refine ⟨hlimit, fun deadline hdeadline => ?_⟩
    rw [isDue, hdeadline, Option.any_some, decide_eq_true_eq] at hdue
    exact Nat.lt_of_not_le hdue

end Pulse

/-! ### The timer t3 after each operation of a link -/

namespace Link

variable {l : Link} {now : Nat}

theorem ahead_attempt (h : l.pulse.Ahead now) (s : Sender) : (l.attempt now s).pulse.Ahead now := by
  unfold attempt
  split
  · rwa [pulse_giveUp]
  · split
    · rwa [pulse_giveUp]
    · split
      · exact h
      · rw [pulse_afterSending, pulse_sendInformation]
        exact h.transmit _

theorem ahead_start (h : l.pulse.Ahead now) (call : CallId) (listener : ListenerId)
    (timeout : Nat) : (l.start now call listener timeout).pulse.Ahead now := by
  unfold start
  split
  · rwa [pulse_finish]
  · simp only
    split
    · rwa [pulse_finish, pulse_notify]
    · rw [pulse_beginHandshake, pulse_notify]
      exact h.transmit _

theorem ahead_awaitStart (h : l.pulse.Ahead now) (call : CallId) (listener : ListenerId)
    (timeout : Nat) : (l.awaitStart now call listener timeout).pulse.Ahead now := by
  unfold awaitStart
  split
  · rwa [pulse_finish]
  · split
    · rwa [pulse_finish]
    · simp only
      rw [← pulse_notify l (.register listener)] at h
      split
      · rwa [pulse_finish]
      · split
        · rw [pulse_finish, pulse_confirmStart]
          exact (h.transmit _).start
        · exact h

theorem ahead_stop (h : l.pulse.Ahead now) (call : CallId) :
    (l.stop now call).pulse.Ahead now := by
  unfold stop
  split
  · rwa [pulse_finish]
  · split
    · rwa [pulse_finish]
    · rw [pulse_beginHandshake]
      exact h.transmit _

theorem ahead_sendUnit (h : l.pulse.Ahead now) (call : CallId) (ticket? : Option Nat)
    (asdu : Asdu) : (l.sendUnit now call ticket? asdu).pulse.Ahead now := by
  unfold sendUnit
  split
  · rwa [pulse_giveUp]
  · split
    · rwa [pulse_giveUp]
    · exact ahead_attempt h _

theorem ahead_handleCall (h : l.pulse.Ahead now) (call : CallId) (request : Request) :
    (l.handleCall now call request).pulse.Ahead now := by
  cases request with
  | start => exact ahead_start h ..
  | awaitStart => exact ahead_awaitStart h ..
  | stop => exact ahead_stop h _
  | send => exact ahead_sendUnit h ..
  | sendConfirmed asdu =>
    exact ahead_sendUnit (l := { l with
      nextTicket := l.nextTicket + 1
      expectations := l.expectations ++ [Expectation.ofAsdu l.nextTicket asdu] }) h ..
  | awaitClose =>
    simp only [handleCall, awaitClose]
    split
    · rwa [pulse_finish]
    · exact h

theorem ahead_resume (h : l.pulse.Ahead now) (call : CallId) :
    (l.resume now call).pulse.Ahead now := by
  unfold resume
  split
  · next s _ =>
    exact ahead_attempt (l := { l with
      senders := l.senders.filter fun other => other.call != call }) h s
  · exact h

theorem ahead_expire (h : l.pulse.Ahead now) (call : CallId)
    (hopen : (l.expire now call).closed = none) : (l.expire now call).pulse.Ahead now := by
  unfold expire at hopen ⊢
  split at hopen
  · exact absurd hopen (closed_close _ _)
  · next hoverdue =>
    rw [if_neg hoverdue]
    split
    · rwa [pulse_giveUp]
    · exact h

theorem ahead_handleSupervisory (h : l.pulse.Ahead now) (receive : UInt16)
    (hopen : (l.handleSupervisory receive).closed = none) :
    (l.handleSupervisory receive).pulse.Ahead now := by
  unfold handleSupervisory at hopen ⊢
  split at hopen
  · exact absurd hopen (closed_close _ _)
  · next hstate =>
    rw [if_neg hstate]
    split at hopen
    · exact absurd hopen (closed_close _ _)
    · next hack => rwa [pulse_applyAcknowledgment hack]

theorem ahead_handleInformation (h : l.pulse.Ahead now) (send receive : UInt16)
    (octets? : Option Octets)
    (hopen : (l.handleInformation now send receive octets?).closed = none) :
    (l.handleInformation now send receive octets?).pulse.Ahead now := by
  revert hopen
  unfold handleInformation
  split
  · exact fun hopen => absurd hopen (closed_close _ _)
  · split
    · exact fun hopen => absurd hopen (closed_close _ _)
    · next l' hack =>
      rw [← pulse_applyAcknowledgment hack] at h
      split
      · exact fun hopen => absurd hopen (closed_close _ _)
      · next due window _ =>
        simp only
        split
        · exact fun hopen => absurd hopen (closed_close _ _)
        · split
          · exact fun hopen => absurd hopen (closed_close _ _)
          · intro _
            split
            · rw [pulse_handOver, pulse_sendSupervisory]
              exact h.transmit _
            · have ht3 (deadline : Nat) :
                  (l'.timers.armIfIdle .t2 deadline).t3 = l'.timers.t3 := by
                rw [Timers.armIfIdle_eq]
                split <;> rfl
              rw [pulse_handOver]
              exact ⟨h.limit_pos, fun deadline hdeadline =>
                h.deadline deadline ((ht3 _).symm.trans hdeadline)⟩

theorem ahead_handleUnnumbered (h : l.pulse.Ahead now) (function : LinkFunction)
    (hopen : (l.handleUnnumbered now function).closed = none) :
    (l.handleUnnumbered now function).pulse.Ahead now := by
  revert hopen
  cases function with
  | testAct =>
    rw [handleUnnumbered, pulse_transmit]
    exact fun _ => h.transmit _
  | testCon =>
    simp only [handleUnnumbered]
    split
    · exact fun _ => ⟨h.limit_pos, h.deadline⟩
    · exact fun hopen => absurd hopen (closed_close _ _)
  | startAct =>
    intro _
    simp only [handleUnnumbered]
    split
    · rw [pulse_transmit]
      exact h.transmit _
    · split
      · rw [pulse_finish, pulse_confirmStart]
        exact (h.transmit _).start
      · exact h
  | startCon =>
    simp only [handleUnnumbered]
    split
    · split
      · rw [pulse_finish, pulse_enterStarted]
        exact fun _ => h.start
      · exact fun hopen => absurd hopen (closed_close _ _)
    · exact fun hopen => absurd hopen (closed_close _ _)
  | stopAct =>
    intro _
    simp only [handleUnnumbered]
    generalize howed : (if 0 < l.window.unacknowledged then l.sendSupervisory now else l) = owed
    have hahead : owed.pulse.Ahead now := by
      rw [← howed]
      split
      · rw [pulse_sendSupervisory]
        exact h.transmit _
      · exact h
    split
    · rw [pulse_enterStopped, pulse_transmit]
      exact (hahead.transmit _).stop
    · rw [pulse_transmit]
      exact hahead.transmit _
  | stopCon =>
    simp only [handleUnnumbered]
    split
    · split
      · rw [pulse_finish, pulse_superviseOldest, pulse_enterStopped]
        exact fun _ => h.stop
      · exact fun hopen => absurd hopen (closed_close _ _)
    · exact fun hopen => absurd hopen (closed_close _ _)

theorem ahead_handleFrame (h : l.pulse.Ahead now) (hopen : l.closed = none) (apdu : Apdu)
    (hopen' : (l.handleFrame now apdu).closed = none) :
    (l.handleFrame now apdu).pulse.Ahead now := by
  have hrearmed : (l.rearmIdle now).pulse.Ahead now := by
    rw [pulse_rearmIdle]
    exact h.rearm
  revert hopen'
  rw [handleFrame_of_open now hopen]
  split
  · exact ahead_handleInformation hrearmed _ _ _
  · exact ahead_handleSupervisory hrearmed _
  · exact ahead_handleUnnumbered hrearmed _

/-! ### Expired timers are handled -/

/-- After the timers were handled, t3 has not expired. -/
theorem ahead_handleTimers (hlimit : 0 < l.pulse.limit) (hopen : l.closed = none)
    (hopen' : (l.handleTimers now).closed = none) : (l.handleTimers now).pulse.Ahead now := by
  have hlapse : (l.pulse.lapse now).Ahead now := Pulse.ahead_lapse hlimit
  rw [pulse_handleTimers hopen (t1_not_expired hopen hopen')]
  by_cases howed : l.AcknowledgmentDue now <;> by_cases hdue : l.pulse.isDue now = true <;>
    simp only [howed, hdue, if_true, if_false]
  · exact (hlapse.transmit _).test
  · exact hlapse.transmit _
  · exact hlapse.test
  · exact hlapse

/-- To handle timers does not arm t2. -/
theorem t2_handleExpired {expired : List Timer} (h : .t1 ∉ expired) :
    (l.handleExpired now expired).timers.t2 = l.timers.t2 ∨
      (l.handleExpired now expired).timers.t2 = none := by
  induction expired generalizing l with
  | nil => exact .inl rfl
  | cons timer rest ih =>
    have hrest : .t1 ∉ rest := fun hmem => h (List.mem_cons_of_mem _ hmem)
    cases timer with
    | t1 => exact absurd List.mem_cons_self h
    | t2 =>
      rw [handleExpired]
      refine (ih hrest).elim (fun heq => ?_) .inr
      rw [heq]
      split
      · exact .inr (congrArg Watch.deadline? (watch_sendSupervisory l now))
      · exact .inl rfl
    | t3 =>
      rw [handleExpired]
      refine (ih hrest).imp_left fun heq => heq.trans ?_
      split
      · exact congrArg Watch.deadline?
          (watch_transmit { l with testSent := some now } now (.unnumbered .testAct))
      · rfl

/-- After the timers were handled, t2 has not expired. -/
theorem t2_handleTimers (hopen : l.closed = none) (hopen' : (l.handleTimers now).closed = none)
    {deadline : Nat} (hdeadline : (l.handleTimers now).timers.t2 = some deadline) :
    now < deadline := by
  have h1 : .t1 ∉ (l.timers.takeExpired now).1 := by
    intro hmem
    have hexpired := (List.mem_filter.mp hmem).2
    rw [t1_not_expired hopen hopen'] at hexpired
    cases hexpired
  have hhandled : l.handleTimers now =
      { l with timers := (l.timers.takeExpired now).2 }.handleExpired now
        (l.timers.takeExpired now).1 := if_neg (by simp [hopen])
  rw [hhandled] at hdeadline
  rcases t2_handleExpired (l := { l with timers := (l.timers.takeExpired now).2 }) h1 with
    heq | hnone
  · have hleft := (l.timers.deadline?_takeExpired now .t2).symm.trans (heq.symm.trans hdeadline)
    split at hleft
    · cases hleft
    · next hexpired =>
      rw [Timers.isExpired, hleft, Option.any_some, decide_eq_true_eq] at hexpired
      exact Nat.lt_of_not_le hexpired
  · cases hdeadline.symm.trans hnone

/-! ### Every armed timer expires later -/

/-- No timer has expired, and nothing that t1 supervises is overdue. -/
structure Ahead (l : Link) (now : Nat) : Prop where
  watch : l.watch.Ahead now
  pulse : l.pulse.Ahead now

theorem Ahead.deadlines (h : l.Ahead now) : ∀ deadline ∈ l.timers.deadlines, now < deadline := by
  intro deadline hmem
  obtain ⟨timer, -, hdeadline⟩ := List.mem_filterMap.mp hmem
  cases timer with
  | t1 => exact h.watch.supervision.deadline deadline hdeadline
  | t2 => exact h.watch.deadline deadline hdeadline
  | t3 => exact h.pulse.deadline deadline hdeadline

/-- What happens at an instant lets no timer expire at that instant. -/
theorem Ahead.step (h : l.Ahead now) (input : LinkInput)
    (hopen' : (l.step now input).closed = none) : (l.step now input).Ahead now := by
  have hopen : l.closed = none := open_of_step hopen'
  refine ⟨h.watch.move (l.watch_step now input hopen'), ?_⟩
  cases input with
  | call => exact ahead_handleCall h.pulse ..
  | resume => exact ahead_resume h.pulse _
  | expire => exact ahead_expire h.pulse _ hopen'
  | timers => exact ahead_handleTimers h.pulse.limit_pos hopen hopen'
  | frame apdu => exact ahead_handleFrame h.pulse hopen apdu hopen'
  | lost | close => exact absurd hopen' (closed_close _ _)

/-- An open link in which no timer has expired stays so while time stands still; a closed one has
no timer armed. -/
theorem deadlines_run (hrests : l.Rests) (hahead : l.closed = none → l.Ahead now)
    {later : List (Nat × LinkInput)} (hnow : ∀ input ∈ later, input.1 = now) :
    ∀ deadline ∈ (l.run later).timers.deadlines, now < deadline := by
  induction later generalizing l with
  | nil =>
    by_cases hopen : l.closed = none
    · exact (hahead hopen).deadlines
    · intro deadline hmem
      rw [run_nil, hrests hopen] at hmem
      cases hmem
  | cons input later ih =>
    obtain ⟨hinput, hlater⟩ := List.forall_mem_cons.mp hnow
    obtain ⟨instant, input⟩ := input
    obtain rfl : instant = now := hinput
    refine ih (hrests.step instant input) (fun hopen' => ?_) hlater
    exact (hahead (open_of_step hopen')).step input hopen'

section

variable {settings : Settings} {extension : Option Extension} {inputs : List (Nat × LinkInput)}

/-- Nothing is overdue in a reachable link in which t1 has not expired. -/
theorem supervision_ahead (hvalid : settings.Valid) (hclock : Chronological inputs)
    (hopen : ((new settings extension).run inputs).closed = none)
    (h1 : ((new settings extension).run inputs).timers.isExpired now .t1 = false) :
    ((new settings extension).run inputs).watch.supervision.Ahead now := by
  have hlink := Station.run_link (.new settings extension) inputs
  have hframes := Station.frames_watch ((Station.sound_new hvalid extension).run inputs)
  have hordered := Station.frames_ordered settings extension hclock
    ((Station.new settings extension).run inputs).ledger.released
  have harmed := Station.t1_run settings extension inputs
  have hsettings : ((new settings extension).run inputs).settings = settings :=
    (sameSetup_run _ inputs).1
  rw [← hframes] at hordered
  rw [hlink] at hordered harmed
  refine Supervision.ahead_of_armed ?_ hordered (harmed hopen) fun deadline hdeadline => ?_
  · show 0 < ((new settings extension).run inputs).settings.t1
    rw [hsettings]
    exact Nat.lt_trans hvalid.t2_pos hvalid.t2_lt
  · have hdeadline : ((new settings extension).run inputs).timers.deadline? .t1 = some deadline :=
      hdeadline
    simpa [Timers.isExpired, hdeadline] using h1

/-- Once the timers of a reachable link were handled, no timer has expired. -/
theorem ahead_timers (hvalid : settings.Valid) (hclock : Chronological inputs)
    (hopen : ((new settings extension).run inputs).closed = none)
    (hopen' : (((new settings extension).run inputs).step now .timers).closed = none) :
    (((new settings extension).run inputs).step now .timers).Ahead now := by
  have hsettings : ((new settings extension).run inputs).settings = settings :=
    (sameSetup_run _ inputs).1
  have hsupervision := supervision_ahead hvalid hclock hopen (t1_not_expired hopen hopen')
  have hmove := watch_step _ now .timers hopen'
  refine ⟨⟨hsupervision.move hmove.supervision, ?_, fun _ => t2_handleTimers hopen hopen'⟩,
    ahead_handleTimers ?_ hopen hopen'⟩
  · rw [hmove.delay_eq]
    show 0 < ((new settings extension).run inputs).settings.t2
    rw [hsettings]
    exact hvalid.t2_pos
  · show 0 < ((new settings extension).run inputs).settings.t3
    rw [hsettings]
    exact hvalid.t3_pos

end

/-- Whatever has happened to an open link, with a clock that never goes back: if its timers are
handled and it stays open, every armed timer expires later; if it is closed, it is for want of an
acknowledgment. Nothing that happens at the same instant, whatever it is, lets a timer expire at
that instant, so that the timers need not be handled again before a later one. -/
theorem timers_handled_once (settings : Settings) (hvalid : settings.Valid)
    (extension : Option Extension) (inputs : List (Nat × LinkInput))
    (hclock : Chronological inputs) (now : Nat) :
    let l := (new settings extension).run inputs
    let handled := l.step now .timers
    l.closed = none →
      (handled.closed = none → ∀ deadline ∈ handled.timers.deadlines, now < deadline) ∧
      (∀ cause, handled.closed = some cause → cause = .timeout .acknowledgment) ∧
      ∀ later, (∀ input ∈ later, input.1 = now) →
        ∀ deadline, (handled.run later).timers.nextDeadline? = some deadline → now < deadline := by
  intro l handled hopen
  have hahead : handled.closed = none → handled.Ahead now := ahead_timers hvalid hclock hopen
  refine ⟨fun hopen' => (hahead hopen').deadlines, fun cause hclosed => ?_,
    fun later hnow deadline hnext => ?_⟩
  · exact (closing_step hopen hclosed).2 nofun
  · have hrests : handled.Rests := ((rests_of_open rfl).run inputs).step now .timers
    exact deadlines_run hrests hahead hnow deadline (List.min?_mem hnext)

/-- When t2 and t3 expire at once, an acknowledgment and a test are sent; with the confirmation of
the test and another unit at the same instant, t2 and t3 are armed for a later one. -/
theorem two_timers_handled_once :
    ({ t1 := 15, t2 := 10, t3 := 10 } : Settings).Valid ∧
      let inputs : List (Nat × LinkInput) :=
        [(0, .call 0 (.start 0 9)), (1, .frame (.unnumbered .startCon)),
          (1, .frame (.information 0 0 [100, 1, 6, 0, 1, 0, 0, 0, 0, 20]))]
      Chronological inputs ∧
        let handled := ((new { t1 := 15, t2 := 10, t3 := 10 } none).run inputs).step 11 .timers
        handled.timers = ⟨some 26, none, some 21⟩ ∧
          (∀ deadline ∈ handled.timers.deadlines, 11 < deadline) ∧
          ∀ deadline, (handled.run [(11, .frame (.unnumbered .testCon)),
            (11, .frame (.information 1 0 [100, 1, 6, 0, 1, 0, 0, 0, 0, 20]))]
              ).timers.nextDeadline? = some deadline → 11 < deadline := by
  have hvalid : ({ t1 := 15, t2 := 10, t3 := 10 } : Settings).Valid :=
    (Settings.validate_eq_ok_iff _).mp rfl
  refine ⟨hvalid, ?_⟩
  intro inputs
  have hclock : Chronological inputs := by decide
  refine ⟨hclock, ?_⟩
  intro handled
  obtain ⟨hlater, -, honce⟩ := timers_handled_once _ hvalid none inputs hclock 11 rfl
  exact ⟨rfl, hlater rfl, honce _ (by decide)⟩

end Link

end Telecontrol
