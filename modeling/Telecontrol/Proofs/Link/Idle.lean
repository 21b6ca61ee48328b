import Telecontrol.Proofs.Link.Journal
import Telecontrol.Proofs.Link.Teardown

/-!
# When an idle link is tested

The timer t3 is restarted by every frame that is sent or received while data transfer is started,
and by the start itself, and it is stopped when data transfer is. So as long as no test is
unconfirmed, t3 expires one time limit after the last instant at which something happened
(`Station.t3_run`), and a link is tested only if none of these instants lies within the time limit.

The timers that have expired are collected before any of them is handled. If t2 has expired
together with t3, received frames are acknowledged first; that restarts t3, but the link is tested
all the same, directly after the acknowledgment (`Station.tested_when_idle`).
-/

namespace Telecontrol

/-- The frame that is received, if one is. -/
def LinkInput.frame? : LinkInput → Option Apdu
  | .frame apdu => some apdu
  | _ => none

namespace Apdu

@[simp] theorem unnumbered_inj {function other : LinkFunction} :
    unnumbered function = unnumbered other ↔ function = other := by
  simp [unnumbered]

@[simp] theorem supervisory_ne_unnumbered (receive : UInt16) (function : LinkFunction) :
    supervisory receive ≠ unnumbered function := by
  simp [supervisory, unnumbered]

@[simp] theorem information_ne_unnumbered (send receive : UInt16) (octets : Octets)
    (function : LinkFunction) : information send receive octets ≠ unnumbered function := by
  simp [information, unnumbered]

end Apdu

/-- The part of a link that the timer t3 follows. -/
structure Pulse where
  /-- The time after which an idle link is tested. -/
  limit : Nat
  /-- Whether data transfer is started. -/
  state : LinkState
  /-- A test of the link is not yet confirmed. -/
  testing : Bool
  /-- The frames sent, oldest first. -/
  frames : List Apdu
  /-- The deadline of t3. -/
  deadline? : Option Nat

namespace Pulse

variable {now : Nat} {apdu : Apdu}

/-- Restart t3 if data transfer is started. -/
def rearm (p : Pulse) (now : Nat) : Pulse :=
  if p.state = .started then { p with deadline? := some (now + p.limit) } else p

/-- Send a frame. -/
def transmit (p : Pulse) (now : Nat) (apdu : Apdu) : Pulse :=
  { p with frames := p.frames ++ [apdu] }.rearm now

/-- Data transfer is started. -/
def start (p : Pulse) (now : Nat) : Pulse :=
  { p with state := .started, deadline? := some (now + p.limit) }

/-- Data transfer is stopped. -/
def stop (p : Pulse) : Pulse := { p with state := .stopped, deadline? := none }

/-- If data transfer is started, t3 was restarted at an instant. -/
def Fresh (p : Pulse) (now : Nat) : Prop :=
  p.state = .started → p.deadline? = some (now + p.limit)

theorem fresh_rearm (p : Pulse) (now : Nat) : (p.rearm now).Fresh now := by
  unfold rearm
  split
  · exact fun _ => rfl
  · next hstate => exact fun hstarted => absurd hstarted hstate

@[simp] theorem frames_rearm (p : Pulse) (now : Nat) : (p.rearm now).frames = p.frames := by
  unfold rearm
  split <;> rfl

@[simp] theorem frames_transmit (p : Pulse) (now : Nat) (apdu : Apdu) :
    (p.transmit now apdu).frames = p.frames ++ [apdu] := frames_rearm ..

/-- Frames are sent, if any, none of which is a test; t3 is restarted. -/
structure Beats (p : Pulse) (now : Nat) (q : Pulse) : Prop where
  frames : ∃ sent, q.frames = p.frames ++ sent ∧ Apdu.unnumbered .testAct ∉ sent
  fresh : q.Fresh now

/-- What something other than a frame or a timer does: nothing of it shows, or frames are sent. -/
inductive Reacts (p : Pulse) (now : Nat) : Pulse → Prop
  | quiet : Reacts p now p
  | sends {q} : p.Beats now q → q.frames ≠ p.frames → Reacts p now q

variable {p q : Pulse}

namespace Beats

theorem refl (h : p.Fresh now) : p.Beats now p :=
  ⟨⟨[], (List.append_nil _).symm, List.not_mem_nil⟩, h⟩

theorem transmit (h : p.Beats now q) (apdu : Apdu) (hother : apdu ≠ .unnumbered .testAct) :
    p.Beats now (q.transmit now apdu) := by
  obtain ⟨sent, hframes, hsent⟩ := h.frames
  refine ⟨⟨sent ++ [apdu], by rw [frames_transmit, hframes, List.append_assoc], ?_⟩,
    fresh_rearm _ _⟩
  simp [hsent, hother.symm]

theorem start (h : p.Beats now q) : p.Beats now (q.start now) := ⟨h.frames, fun _ => rfl⟩

theorem stop (h : p.Beats now q) : p.Beats now q.stop := ⟨h.frames, nofun⟩

/-- To send a frame restarts t3. -/
theorem of_transmit (apdu : Apdu) (hother : apdu ≠ .unnumbered .testAct) :
    p.Beats now (p.transmit now apdu) :=
  ⟨⟨[apdu], frames_transmit .., fun h => hother (List.mem_singleton.mp h).symm⟩, fresh_rearm _ _⟩

end Beats

theorem Beats.untested (h : p.Beats now q) :
    .unnumbered .testAct ∉ q.frames.drop p.frames.length := by
  obtain ⟨sent, hframes, hsent⟩ := h.frames
  rwa [hframes, List.drop_left]

theorem Reacts.untested (h : p.Reacts now q) :
    .unnumbered .testAct ∉ q.frames.drop p.frames.length := by
  cases h with
  | quiet =>
    rw [List.drop_length]
    exact List.not_mem_nil
  | sends h => exact h.untested

theorem Reacts.transmit (hother : apdu ≠ .unnumbered .testAct) :
    p.Reacts now (p.transmit now apdu) := .sends (.of_transmit apdu hother) (by simp)

theorem Reacts.confirmStart (p : Pulse) (now : Nat) :
    p.Reacts now ((p.transmit now (.unnumbered .startCon)).start now) :=
  .sends (Beats.of_transmit (.unnumbered .startCon) (by simp)).start (by simp [start])

end Pulse

/-! ### The pulse after each operation of a link -/

namespace Link

/-- The pulse of a link. -/
def pulse (l : Link) : Pulse where
  limit := l.endpoint.settings.t3
  state := l.endpoint.state
  testing := l.endpoint.testing
  frames := l.endpoint.frames
  deadline? := l.timers.t3

theorem pulse_congr {l l' : Link} (hendpoint : l'.endpoint = l.endpoint)
    (hdeadline : l'.timers.t3 = l.timers.t3) : l'.pulse = l.pulse := by
  unfold pulse
  rw [hendpoint, hdeadline]

@[simp] theorem pulse_finish (l : Link) (call : CallId) (reply : Reply) :
    (l.finish call reply).pulse = l.pulse := pulse_congr (endpoint_finish ..) rfl

@[simp] theorem pulse_notify (l : Link) (message : Message) :
    (l.emit (.notify message)).pulse = l.pulse := pulse_congr (endpoint_notify ..) rfl

@[simp] theorem pulse_report (l : Link) (event : LinkEvent) :
    (l.report event).pulse = l.pulse := pulse_notify l _

@[simp] theorem pulse_wakeSenders (l : Link) : l.wakeSenders.pulse = l.pulse := rfl

@[simp] theorem pulse_superviseOldest (l : Link) : l.superviseOldest.pulse = l.pulse := rfl

@[simp] theorem pulse_giveUp (l : Link) (call : CallId) (ticket? : Option Nat) (cause : Fault) :
    (l.giveUp call ticket? cause).pulse = l.pulse := pulse_finish (l.forget ticket?) ..

@[simp] theorem pulse_afterSending (l : Link) (now : Nat) (s : Sender) :
    (l.afterSending now s).pulse = l.pulse := by
  unfold afterSending
  split
  · exact pulse_finish ..
  · exact pulse_finish ..
  · rfl

@[simp] theorem pulse_handOver (l : Link) (asdu : Asdu) : (l.handOver asdu).pulse = l.pulse := by
  refine pulse_congr (endpoint_handOver ..) ?_
  unfold handOver confirm
  split
  · split <;> rfl
  · rfl

@[simp] theorem pulse_rearmIdle (l : Link) (now : Nat) :
    (l.rearmIdle now).pulse = l.pulse.rearm now := by
  unfold rearmIdle Pulse.rearm
  split
  · next hstate =>
    rw [if_pos (show l.pulse.state = .started from hstate)]
    rfl
  · next hstate => rw [if_neg (show ¬l.pulse.state = .started from hstate)]

@[simp] theorem pulse_transmit (l : Link) (now : Nat) (apdu : Apdu) :
    (l.transmit now apdu).pulse = l.pulse.transmit now apdu := by
  have hsent : (l.emit (.transmit apdu)).pulse =
      { l.pulse with frames := l.pulse.frames ++ [apdu] } := by
    simp [pulse, endpoint, emit, Effect.frame?]
  rw [Pulse.transmit, ← hsent, ← pulse_rearmIdle]
  rfl

@[simp] theorem pulse_sendInformation (l : Link) (now : Nat) (octets : Octets) :
    (l.sendInformation now octets).pulse =
      l.pulse.transmit now (.information l.window.send l.window.receive octets) := by
  simp only [sendInformation, pulse_superviseOldest, pulse_transmit]
  rfl

@[simp] theorem pulse_sendSupervisory (l : Link) (now : Nat) :
    (l.sendSupervisory now).pulse = l.pulse.transmit now (.supervisory l.window.receive) := by
  simp only [sendSupervisory, pulse_transmit]
  rfl

@[simp] theorem pulse_enterStarted (l : Link) (now : Nat) :
    (l.enterStarted now).pulse = l.pulse.start now := by
  simp only [enterStarted, pulse_report]
  rfl

@[simp] theorem pulse_enterStopped (l : Link) : l.enterStopped.pulse = l.pulse.stop := by
  simp only [enterStopped, pulse_report, pulse_wakeSenders]
  rfl

@[simp] theorem pulse_confirmStart (l : Link) (now : Nat) :
    (l.confirmStart now).pulse = (l.pulse.transmit now (.unnumbered .startCon)).start now := by
  simp only [confirmStart, pulse_enterStarted, pulse_transmit]

@[simp] theorem pulse_beginHandshake (l : Link) (now : Nat) (call : CallId)
    (function : LinkFunction) (deadline? : Option Nat) :
    (l.beginHandshake now call function deadline?).pulse =
      l.pulse.transmit now (.unnumbered function) := by
  have hpulse : ({ l with handshake := some ⟨function, now, call, deadline?⟩ } : Link).pulse =
      l.pulse := rfl
  unfold beginHandshake
  simp only
  split
  · rw [pulse_superviseOldest, pulse_transmit, hpulse]
  · rw [pulse_transmit, hpulse]

/-! ### What happens at the station itself -/

variable {l : Link} {now : Nat}

theorem pulse_attempt (s : Sender) : l.pulse.Reacts now (l.attempt now s).pulse := by
  unfold attempt
  split
  · rw [pulse_giveUp]
    exact .quiet
  · split
    · rw [pulse_giveUp]
      exact .quiet
    · split
      · exact .quiet
      · rw [pulse_afterSending, pulse_sendInformation]
        exact .transmit (by simp)

theorem pulse_start (call : CallId) (listener : ListenerId) (timeout : Nat) :
    l.pulse.Reacts now (l.start now call listener timeout).pulse := by
  unfold start
  split
  · rw [pulse_finish]
    exact .quiet
  · simp only
    split
    · rw [pulse_finish, pulse_notify]
      exact .quiet
    · rw [pulse_beginHandshake, pulse_notify]
      exact .transmit (by simp)

theorem pulse_awaitStart (call : CallId) (listener : ListenerId) (timeout : Nat) :
    l.pulse.Reacts now (l.awaitStart now call listener timeout).pulse := by
  unfold awaitStart
  split
  · rw [pulse_finish]
    exact .quiet
  · split
    · rw [pulse_finish]
      exact .quiet
    · simp only
      rw [← pulse_notify l (.register listener)]
      split
      · rw [pulse_finish]
        exact .quiet
      · split
        · rw [pulse_finish, pulse_confirmStart]
          exact .confirmStart _ _
        · exact .quiet

theorem pulse_stop (call : CallId) : l.pulse.Reacts now (l.stop now call).pulse := by
  unfold stop
  split
  · rw [pulse_finish]
    exact .quiet
  · split
    · rw [pulse_finish]
      exact .quiet
    · rw [pulse_beginHandshake]
      exact .transmit (by simp)

theorem pulse_sendUnit (call : CallId) (ticket? : Option Nat) (asdu : Asdu) :
    l.pulse.Reacts now (l.sendUnit now call ticket? asdu).pulse := by
  unfold sendUnit
  split
  · rw [pulse_giveUp]
    exact .quiet
  · split
    · rw [pulse_giveUp]
      exact .quiet
    · exact pulse_attempt _

theorem pulse_handleCall (call : CallId) (request : Request) :
    l.pulse.Reacts now (l.handleCall now call request).pulse := by
  cases request with
  | start => exact pulse_start ..
  | awaitStart => exact pulse_awaitStart ..
  | stop => exact pulse_stop ..
  | send => exact pulse_sendUnit ..
  | sendConfirmed asdu =>
    exact pulse_sendUnit (l := { l with
      nextTicket := l.nextTicket + 1
      expectations := l.expectations ++ [Expectation.ofAsdu l.nextTicket asdu] }) ..
  | awaitClose =>
    simp only [handleCall, awaitClose]
    split
    · rw [pulse_finish]
      exact .quiet
    · exact .quiet

theorem pulse_resume (call : CallId) : l.pulse.Reacts now (l.resume now call).pulse := by
  unfold resume
  split
  · next s _ =>
    exact pulse_attempt (l := { l with
      senders := l.senders.filter fun other => other.call != call }) s
  · exact .quiet

theorem pulse_expire (call : CallId) (hopen : (l.expire now call).closed = none) :
    l.pulse.Reacts now (l.expire now call).pulse := by
  unfold expire at hopen ⊢
  split at hopen
  · exact absurd hopen (closed_close _ _)
  · next hoverdue =>
    rw [if_neg hoverdue]
    split
    · rw [pulse_giveUp]
      exact .quiet
    · exact .quiet

/-! ### Frames of the other station -/

theorem pulse_applyAcknowledgment {number : UInt16} {l' : Link}
    (h : l.applyAcknowledgment number = .ok l') : l'.pulse = l.pulse := by
  unfold applyAcknowledgment at h
  cases hack : l.window.acknowledge number with
  | error cause =>
    rw [hack] at h
    cases h
  | ok released =>
    rw [hack] at h
    obtain rfl := Except.ok.inj h
    split <;> rfl

theorem pulse_handleSupervisory (h : l.pulse.Fresh now) (receive : UInt16)
    (hopen : (l.handleSupervisory receive).closed = none) :
    l.pulse.Beats now (l.handleSupervisory receive).pulse := by
  unfold handleSupervisory at hopen ⊢
  split at hopen
  · exact absurd hopen (closed_close _ _)
  · next hstate =>
    rw [if_neg hstate]
    split at hopen
    · exact absurd hopen (closed_close _ _)
    · next hack =>
      rw [pulse_applyAcknowledgment hack]
      exact .refl h

theorem pulse_handleInformation (h : l.pulse.Fresh now) (send receive : UInt16)
    (octets? : Option Octets)
    (hopen : (l.handleInformation now send receive octets?).closed = none) :
    l.pulse.Beats now (l.handleInformation now send receive octets?).pulse := by
  revert hopen
  unfold handleInformation
  split
  · exact fun hopen => absurd hopen (closed_close _ _)
  · split
    · exact fun hopen => absurd hopen (closed_close _ _)
    · next l' hack =>
      have hpulse (window : Window) (timers : Timers) (ht3 : timers.t3 = l'.timers.t3) :
          ({ l' with window, timers } : Link).pulse = l.pulse := by
        rw [← pulse_applyAcknowledgment hack]
        show { l'.pulse with deadline? := timers.t3 } = l'.pulse
        rw [ht3]
        rfl
      split
      · exact fun hopen => absurd hopen (closed_close _ _)
      · next due window _ =>
        simp only
        split
        · exact fun hopen => absurd hopen (closed_close _ _)
        · split
          · exact fun hopen => absurd hopen (closed_close _ _)
          · intro _
            split
            · rw [pulse_handOver, pulse_sendSupervisory, hpulse window _ rfl]
              exact .of_transmit _ (by simp)
            · rw [pulse_handOver, hpulse window]
              · exact .refl h
              · rw [Timers.armIfIdle_eq]
                split <;> rfl

theorem pulse_handleUnnumbered (h : l.pulse.Fresh now) (function : LinkFunction)
    (hopen : (l.handleUnnumbered now function).closed = none) :
    l.pulse.Beats now (l.handleUnnumbered now function).pulse := by
  revert hopen
  cases function with
  | testAct =>
    rw [handleUnnumbered, pulse_transmit]
    exact fun _ => .of_transmit _ (by simp)
  | testCon =>
    simp only [handleUnnumbered]
    split
    · exact fun _ => ⟨⟨[], (List.append_nil _).symm, List.not_mem_nil⟩, h⟩
    · exact fun hopen => absurd hopen (closed_close _ _)
  | startAct =>
    intro _
    simp only [handleUnnumbered]
    split
    · rw [pulse_transmit]
      exact .of_transmit _ (by simp)
    · split
      · rw [pulse_finish, pulse_confirmStart]
        exact (Pulse.Beats.of_transmit (.unnumbered .startCon) (by simp)).start
      · exact .refl h
  | startCon =>
    simp only [handleUnnumbered]
    split
    · split
      · rw [pulse_finish, pulse_enterStarted]
        exact fun _ => (Pulse.Beats.refl h).start
      · exact fun hopen => absurd hopen (closed_close _ _)
    · exact fun hopen => absurd hopen (closed_close _ _)
  | stopAct =>
    intro _
    simp only [handleUnnumbered]
    generalize howed : (if 0 < l.window.unacknowledged then l.sendSupervisory now else l) = owed
    have hbeats : l.pulse.Beats now (owed.transmit now (.unnumbered .stopCon)).pulse := by
      rw [pulse_transmit, ← howed]
      split
      · rw [pulse_sendSupervisory]
        exact (Pulse.Beats.of_transmit (.supervisory _) (by simp)).transmit _ (by simp)
      · exact .of_transmit _ (by simp)
    split
    · rw [pulse_enterStopped]
      exact hbeats.stop
    · exact hbeats
  | stopCon =>
    simp only [handleUnnumbered]
    split
    · split
      · rw [pulse_finish, pulse_superviseOldest, pulse_enterStopped]
        exact fun _ => (Pulse.Beats.refl h).stop
      · exact fun hopen => absurd hopen (closed_close _ _)
    · exact fun hopen => absurd hopen (closed_close _ _)

theorem pulse_handleFrame (hopen : l.closed = none) (apdu : Apdu)
    (hopen' : (l.handleFrame now apdu).closed = none) :
    l.pulse.Beats now (l.handleFrame now apdu).pulse := by
  have hfresh : (l.rearmIdle now).pulse.Fresh now := by
    rw [pulse_rearmIdle]
    exact Pulse.fresh_rearm _ _
  have hbeats : (l.rearmIdle now).pulse.Beats now (l.handleFrame now apdu).pulse := by
    revert hopen'
    rw [handleFrame_of_open now hopen]
    split
    · exact pulse_handleInformation hfresh _ _ _
    · exact pulse_handleSupervisory hfresh _
    · exact pulse_handleUnnumbered hfresh _
  obtain ⟨sent, hsent, hother⟩ := hbeats.frames
  rw [pulse_rearmIdle, Pulse.frames_rearm] at hsent
  exact ⟨⟨sent, hsent, hother⟩, hbeats.fresh⟩

/-! ### Timers -/

/-- t2 has expired, and received frames are not acknowledged. -/
def AcknowledgmentDue (l : Link) (now : Nat) : Prop :=
  l.timers.isExpired now .t2 = true ∧ 0 < l.window.unacknowledged

instance (l : Link) (now : Nat) : Decidable (l.AcknowledgmentDue now) :=
  inferInstanceAs (Decidable (_ ∧ _))

end Link

namespace Pulse

/-- t3 has expired. -/
def isDue (p : Pulse) (now : Nat) : Bool := p.deadline?.any (· ≤ now)

/-- Stop t3 if it has expired. -/
def lapse (p : Pulse) (now : Nat) : Pulse := if p.isDue now then { p with deadline? := none } else p

/-- Test the link if data transfer is started and no test is unconfirmed. -/
def test (p : Pulse) (now : Nat) : Pulse :=
  if p.state = .started ∧ p.testing = false then
    { p with testing := true }.transmit now (.unnumbered .testAct)
  else p

@[simp] theorem frames_lapse (p : Pulse) (now : Nat) : (p.lapse now).frames = p.frames := by
  unfold lapse
  split <;> rfl

@[simp] theorem state_lapse (p : Pulse) (now : Nat) : (p.lapse now).state = p.state := by
  unfold lapse
  split <;> rfl

@[simp] theorem testing_lapse (p : Pulse) (now : Nat) : (p.lapse now).testing = p.testing := by
  unfold lapse
  split <;> rfl

@[simp] theorem state_transmit (p : Pulse) (now : Nat) (apdu : Apdu) :
    (p.transmit now apdu).state = p.state := by
  unfold transmit rearm
  split <;> rfl

@[simp] theorem testing_transmit (p : Pulse) (now : Nat) (apdu : Apdu) :
    (p.transmit now apdu).testing = p.testing := by
  unfold transmit rearm
  split <;> rfl

@[simp] theorem frames_test (p : Pulse) (now : Nat) :
    (p.test now).frames = p.frames ++
      if p.state = .started ∧ p.testing = false then [.unnumbered .testAct] else [] := by
  unfold test
  split
  · exact frames_transmit ..
  · exact (List.append_nil _).symm

end Pulse

namespace Link

variable {l : Link} {now : Nat}

theorem pulse_handleIdle (l : Link) (now : Nat) :
    (l.handleExpired now [.t3]).pulse = l.pulse.test now := by
  have htesting : l.testSent.isNone = true ↔ l.pulse.testing = false := by
    show l.testSent.isNone = true ↔ l.testSent.isSome = false
    cases l.testSent <;> simp
  simp only [handleExpired, Pulse.test, htesting]
  split
  · next h =>
    rw [if_pos (show l.pulse.state = .started ∧ _ from h), pulse_superviseOldest, pulse_transmit]
    rfl
  · next h => rw [if_neg (show ¬(l.pulse.state = .started ∧ _) from h)]

/-- What is owed is acknowledged before the link is tested. -/
theorem pulse_handleTimers (hopen : l.closed = none) (h1 : l.timers.isExpired now .t1 = false) :
    (l.handleTimers now).pulse =
      let owed := if l.AcknowledgmentDue now then
          (l.pulse.lapse now).transmit now (.supervisory l.window.receive)
        else l.pulse.lapse now
      if l.pulse.isDue now then owed.test now else owed := by
  have hrest : [Timer.t3].filter (l.timers.isExpired now) =
      if l.pulse.isDue now then [Timer.t3] else [] := by
    show [Timer.t3].filter _ = if l.timers.isExpired now .t3 then _ else _
    split
    · next h3 => exact List.filter_cons_of_pos h3
    · next h3 => exact List.filter_cons_of_neg h3
  have hlapse (first : List Timer) (hfirst : first = [] ∨ first = [.t2]) :
      ({ l with
        timers := (first ++ if l.pulse.isDue now then [Timer.t3] else []).foldl Timers.cancel
          l.timers } : Link).pulse = l.pulse.lapse now := by
    unfold Pulse.lapse
    rcases hfirst with rfl | rfl <;> split <;> rfl
  have hidle (m : Link) : (m.handleExpired now (if l.pulse.isDue now then [.t3] else [])).pulse =
      if l.pulse.isDue now then m.pulse.test now else m.pulse := by
    split
    · exact pulse_handleIdle m now
    · rfl
  unfold handleTimers
  rw [if_neg (by simp [hopen])]
  simp only [Timers.takeExpired, Timer.all]
  rw [List.filter_cons_of_neg (by simp [h1])]
  by_cases h2 : l.timers.isExpired now .t2 = true
  · have howed : l.AcknowledgmentDue now ↔ 0 < l.window.unacknowledged := and_iff_right h2
    rw [List.filter_cons_of_pos h2, hrest, handleExpired, hidle, apply_ite Link.pulse,
      pulse_sendSupervisory]
    simp only [howed]
    rw [← hlapse [.t2] (.inr rfl)]
    rfl
  · have howed : ¬l.AcknowledgmentDue now := fun h => h2 h.1
    rw [List.filter_cons_of_neg h2, hrest, hidle, if_neg howed, ← hlapse [] (.inl rfl)]
    rfl

/-- The frames that are sent when timers expire. -/
theorem frames_handleTimers (hopen : l.closed = none)
    (h1 : l.timers.isExpired now .t1 = false) :
    (l.handleTimers now).pulse.frames = l.pulse.frames ++
      ((if l.AcknowledgmentDue now then [.supervisory l.window.receive] else []) ++
        if l.pulse.isDue now = true ∧ l.pulse.state = .started ∧ l.pulse.testing = false then
          [.unnumbered .testAct] else []) := by
  rw [pulse_handleTimers hopen h1]
  by_cases hdue : l.pulse.isDue now = true <;> by_cases howed : l.AcknowledgmentDue now <;>
    simp [hdue, howed]

theorem t1_not_expired (hopen : l.closed = none) (hopen' : (l.handleTimers now).closed = none) :
    l.timers.isExpired now .t1 = false := by
  by_contra h1
  revert hopen'
  unfold handleTimers
  rw [if_neg (by simp [hopen])]
  simp only [Timers.takeExpired, Timer.all]
  rw [List.filter_cons_of_pos (by simpa using h1)]
  exact closed_close _ _

/-! ### One step -/

/-- What happens at an open link is that a frame is received or sent, or data transfer started. -/
def Stirs (l : Link) (now : Nat) (input : LinkInput) : Prop :=
  l.closed = none ∧ (input.frame?.isSome = true ∨
    (l.step now input).endpoint.frames ≠ l.endpoint.frames ∨
    l.state = .stopped ∧ (l.step now input).state = .started)

instance (l : Link) (now : Nat) (input : LinkInput) : Decidable (l.Stirs now input) :=
  inferInstanceAs (Decidable (_ ∧ _))

end Link

namespace Pulse

/-- t3 expires one time limit after the last of some instants, or a test is unconfirmed. -/
def Timed (p : Pulse) (instants : List Nat) : Prop :=
  p.state = .started →
    (∃ last, instants.getLast? = some last ∧ p.deadline? = some (last + p.limit)) ∨
      p.testing = true

variable {p : Pulse} {now : Nat}

theorem Fresh.timed (h : p.Fresh now) (instants : List Nat) : p.Timed (instants ++ [now]) :=
  fun hstarted => .inl ⟨now, List.getLast?_concat, h hstarted⟩

theorem Fresh.test (h : p.Fresh now) : (p.test now).Fresh now := by
  unfold Pulse.test
  split
  · exact fresh_rearm _ _
  · exact h

end Pulse

namespace Link

variable {l : Link} {now : Nat} {input : LinkInput} {instants : List Nat}

theorem timed_of_fresh (hfresh : (l.step now input).pulse.Fresh now) (hstirs : l.Stirs now input) :
    (l.step now input).pulse.Timed (instants ++ if l.Stirs now input then [now] else []) := by
  rw [if_pos hstirs]
  exact hfresh.timed instants

theorem timed_of_quiet (h : l.pulse.Timed instants) (hframe : input.frame? = none)
    (hquiet : (l.step now input).pulse = l.pulse) :
    (l.step now input).pulse.Timed (instants ++ if l.Stirs now input then [now] else []) := by
  have hstirs : ¬l.Stirs now input := by
    rintro ⟨-, hsome | hframes | ⟨hstopped, hstarted⟩⟩
    · rw [hframe] at hsome
      cases hsome
    · exact hframes (congrArg Pulse.frames hquiet)
    · have hstate : (l.step now input).state = l.state := congrArg Pulse.state hquiet
      cases hstarted.symm.trans (hstate.trans hstopped)
  rwa [if_neg hstirs, List.append_nil, hquiet]

theorem timed_of_reacts (h : l.pulse.Timed instants) (hopen : l.closed = none)
    (hframe : input.frame? = none) (hreacts : l.pulse.Reacts now (l.step now input).pulse) :
    (l.step now input).pulse.Timed (instants ++ if l.Stirs now input then [now] else []) := by
  generalize hq : (l.step now input).pulse = q at hreacts
  cases hreacts with
  | quiet =>
    rw [← hq]
    exact timed_of_quiet h hframe hq
  | sends hbeats hframes =>
    subst hq
    exact timed_of_fresh hbeats.fresh ⟨hopen, .inr (.inl hframes)⟩

theorem timed_handleTimers (h : l.pulse.Timed instants) (hopen : l.closed = none)
    (hopen' : (l.handleTimers now).closed = none) :
    (l.step now .timers).pulse.Timed
      (instants ++ if l.Stirs now .timers then [now] else []) := by
  have hpulse := pulse_handleTimers hopen (t1_not_expired hopen hopen')
  have hpulse : (l.step now .timers).pulse = _ := hpulse
  simp only at hpulse
  -- Whatever sends a frame leaves t3 restarted.
  have hsends (hfresh : (l.step now .timers).pulse.Fresh now)
      (hlength : l.pulse.frames.length < (l.step now .timers).pulse.frames.length) :
      (l.step now .timers).pulse.Timed
        (instants ++ if l.Stirs now .timers then [now] else []) := by
    refine timed_of_fresh hfresh ⟨hopen, .inr (.inl fun heq => ?_)⟩
    exact Nat.ne_of_gt hlength (congrArg List.length heq)
  by_cases howed : l.AcknowledgmentDue now
  · rw [if_pos howed] at hpulse
    have hfresh := Pulse.fresh_rearm
      { l.pulse.lapse now with
        frames := (l.pulse.lapse now).frames ++ [.supervisory l.window.receive] } now
    refine hsends ?_ ?_ <;> rw [hpulse] <;> split
    · exact Pulse.Fresh.test hfresh
    · exact hfresh
    · simp
    · simp
  · rw [if_neg howed] at hpulse
    by_cases hdue : l.pulse.isDue now = true
    · rw [if_pos hdue] at hpulse
      by_cases htest : (l.pulse.lapse now).state = .started ∧ (l.pulse.lapse now).testing = false
      · rw [Pulse.test, if_pos htest] at hpulse
        refine hsends ?_ ?_ <;> rw [hpulse]
        · exact Pulse.fresh_rearm _ _
        · simp
      · rw [Pulse.test, if_neg htest] at hpulse
        intro hstarted
        rw [hpulse] at hstarted ⊢
        exact .inr (eq_true_of_ne_false fun htesting => htest ⟨hstarted, htesting⟩)
    · rw [if_neg hdue, Pulse.lapse, if_neg hdue] at hpulse
      exact timed_of_quiet h rfl hpulse

/-- Every step restarts t3 if a frame is sent or received or data transfer started, and leaves it
alone if not; when t3 expires, a test is unconfirmed then. -/
theorem timed_step (h : l.pulse.Timed instants) (hopen : l.closed = none)
    (hopen' : (l.step now input).closed = none) :
    (l.step now input).pulse.Timed (instants ++ if l.Stirs now input then [now] else []) := by
  cases input with
  | call => exact timed_of_reacts h hopen rfl (pulse_handleCall ..)
  | resume => exact timed_of_reacts h hopen rfl (pulse_resume ..)
  | expire => exact timed_of_reacts h hopen rfl (pulse_expire _ hopen')
  | timers => exact timed_handleTimers h hopen hopen'
  | frame apdu =>
    exact timed_of_fresh (pulse_handleFrame hopen apdu hopen').fresh ⟨hopen, .inl rfl⟩
  | lost | close => exact absurd hopen' (closed_close _ _)

/-- A connection that was closed is not opened. -/
theorem open_of_step (hopen' : (l.step now input).closed = none) : l.closed = none := by
  by_contra hclosed
  exact hclosed ((congrArg Endpoint.closed (endpoint_step_of_closed hclosed now input)).symm.trans
    hopen')

/-- Nothing is sent on a connection that is closed, or closed in the step. -/
theorem frames_step_of_closed (hclosed : (l.step now input).closed ≠ none) :
    (l.step now input).endpoint.frames = l.endpoint.frames := by
  by_cases hopen : l.closed = none
  · obtain ⟨cause, hcause⟩ := Option.ne_none_iff_exists'.mp hclosed
    exact (closing_step hopen hcause).1
  · exact congrArg Endpoint.frames (endpoint_step_of_closed hopen now input)

theorem open_of_sent {apdu : Apdu}
    (h : apdu ∈ (l.step now input).endpoint.frames.drop l.endpoint.frames.length) :
    (l.step now input).closed = none := by
  by_contra hclosed
  rw [frames_step_of_closed hclosed, List.drop_length] at h
  cases h

/-- Nothing but the timers tests the link. -/
theorem timers_of_test (h : .unnumbered .testAct ∈
    (l.step now input).endpoint.frames.drop l.endpoint.frames.length) : input = .timers := by
  have hopen' := open_of_sent h
  have hopen := open_of_step hopen'
  cases input with
  | timers => rfl
  | call => exact absurd h (pulse_handleCall ..).untested
  | resume => exact absurd h (pulse_resume ..).untested
  | expire => exact absurd h (pulse_expire _ hopen').untested
  | frame apdu => exact absurd h (pulse_handleFrame hopen apdu hopen').untested
  | lost | close => exact absurd hopen' (closed_close _ _)

/-- The link is tested when t3 expires, while data transfer is started and no test is unconfirmed;
what is owed is acknowledged before. -/
theorem test_sent (h : .unnumbered .testAct ∈
      (l.step now input).endpoint.frames.drop l.endpoint.frames.length) :
    input = .timers ∧ l.closed = none ∧ l.pulse.state = .started ∧ l.pulse.testing = false ∧
      l.pulse.isDue now = true ∧
      (l.step now input).endpoint.frames.drop l.endpoint.frames.length =
        (if l.AcknowledgmentDue now then [.supervisory l.window.receive] else []) ++
          [.unnumbered .testAct] := by
  obtain rfl := timers_of_test h
  have hopen' := open_of_sent h
  have hopen := open_of_step hopen'
  have hframes : (l.step now .timers).endpoint.frames = l.endpoint.frames ++ _ :=
    frames_handleTimers hopen (t1_not_expired hopen hopen')
  rw [hframes, List.drop_left] at h ⊢
  by_cases htest : l.pulse.isDue now = true ∧ l.pulse.state = .started ∧ l.pulse.testing = false
  · rw [if_pos htest]
    exact ⟨rfl, hopen, htest.2.1, htest.2.2, htest.1, rfl⟩
  · rw [if_neg htest, List.append_nil] at h
    split at h
    · cases List.mem_singleton.mp h
    · cases h

end Link

/-! ### Runs -/

namespace Station

/-- The instants of a run at which a frame is received or sent or data transfer started, in the
order of the steps. -/
def activity (s : Station) : List (Nat × LinkInput) → List Nat
  | [] => []
  | (now, input) :: inputs =>
    (if s.link.Stirs now input then [now] else []) ++ (s.step now input).activity inputs

theorem activity_concat (s : Station) (inputs : List (Nat × LinkInput)) (now : Nat)
    (input : LinkInput) :
    s.activity (inputs ++ [(now, input)]) =
      s.activity inputs ++ if (s.run inputs).link.Stirs now input then [now] else [] := by
  induction inputs generalizing s with
  | nil => exact List.append_nil _
  | cons first inputs ih =>
    show _ ++ (s.step first.1 first.2).activity (inputs ++ [(now, input)]) = _
    rw [ih, ← List.append_assoc]
    rfl

/-- Something happens in the order of time. -/
theorem stamps_activity (s : Station) {inputs : List (Nat × LinkInput)}
    (hclock : Chronological inputs) : Stamps inputs (s.activity inputs) := by
  induction inputs using List.reverseRecOn with
  | nil => exact ⟨.nil, nofun⟩
  | append_singleton inputs input ih =>
    obtain ⟨now, input⟩ := input
    rw [activity_concat]
    refine (ih hclock.before).concat hclock fun instant hinstant => ?_
    split at hinstant
    · exact List.mem_singleton.mp hinstant
    · cases hinstant

variable (settings : Settings) (extension : Option Extension)

theorem timed_run {inputs : List (Nat × LinkInput)}
    (hopen : ((new settings extension).run inputs).link.closed = none) :
    ((new settings extension).run inputs).link.pulse.Timed
      ((new settings extension).activity inputs) := by
  induction inputs using List.reverseRecOn with
  | nil => exact nofun
  | append_singleton inputs input ih =>
    obtain ⟨now, input⟩ := input
    rw [run_concat] at hopen ⊢
    rw [activity_concat]
    exact Link.timed_step (ih (open_before hopen)) (open_before hopen) hopen

theorem tests_eq_nil_iff {inputs : List (Nat × LinkInput)}
    (hopen : ((new settings extension).run inputs).link.closed = none) :
    ((new settings extension).journal {} inputs).tests = [] ↔
      ((new settings extension).run inputs).link.pulse.testing = false := by
  rw [(journal_run (journal_new settings extension) inputs).tests hopen]
  show _ ↔ ((new settings extension).run inputs).link.testSent.isSome = false
  cases ((new settings extension).run inputs).link.testSent <;> simp

/-- As long as no test is unconfirmed, t3 expires one time limit after the last instant at which
something happened. -/
theorem t3_run {inputs : List (Nat × LinkInput)}
    (hopen : ((new settings extension).run inputs).link.closed = none)
    (hstarted : ((new settings extension).run inputs).link.state = .started) :
    (∃ last, ((new settings extension).activity inputs).getLast? = some last ∧
      ((new settings extension).run inputs).link.timers.t3 = some (last + settings.t3)) ∨
    ((new settings extension).journal {} inputs).tests ≠ [] := by
  have hlimit : ((new settings extension).run inputs).link.pulse.limit = settings.t3 :=
    congrArg Settings.t3 (settings_run (new settings extension) inputs)
  refine (timed_run settings extension hopen hstarted).imp ?_ fun htesting => ?_
  · rintro ⟨last, hlast, hdeadline⟩
    exact ⟨last, hlast, hlimit ▸ hdeadline⟩
  · rw [ne_eq, tests_eq_nil_iff settings extension hopen, htesting]
    exact nofun

/-- With a clock that never goes back, and as long as data transfer is started: t3 is armed for
one time limit after the last instant at which a frame was received or sent or data transfer
started, or a test is unconfirmed; and the link is tested only if no test is unconfirmed and none
of these instants lies within the time limit. If received frames must be acknowledged at the same
time, they are acknowledged directly before the link is tested. -/
theorem tested_when_idle (inputs : List (Nat × LinkInput)) (now : Nat) (input : LinkInput)
    (hclock : Chronological (inputs ++ [(now, input)])) :
    let s := (new settings extension).run inputs
    let instants := (new settings extension).activity inputs
    let tests := ((new settings extension).journal {} inputs).tests
    let sent := (s.step now input).endpoint.frames.drop s.endpoint.frames.length
    s.link = (Link.new settings extension).run inputs ∧
      (s.link.closed = none → s.link.state = .started →
        (∃ last, instants.getLast? = some last ∧ s.link.timers.t3 = some (last + settings.t3)) ∨
          tests ≠ []) ∧
      (.unnumbered .testAct ∈ sent →
        input = .timers ∧ s.link.closed = none ∧ s.link.state = .started ∧ tests = [] ∧
          (∀ instant ∈ instants, instant + settings.t3 ≤ now) ∧
          sent = (if s.link.AcknowledgmentDue now then [.supervisory s.link.window.receive]
            else []) ++ [.unnumbered .testAct]) := by
  intro s instants tests sent
  refine ⟨run_link _ inputs, t3_run settings extension, fun htest => ?_⟩
  obtain ⟨rfl, hopen, hstarted, htesting, hdue, hsent⟩ := Link.test_sent htest
  have htests : tests = [] := (tests_eq_nil_iff settings extension hopen).mpr htesting
  refine ⟨rfl, hopen, hstarted, htests, fun instant hinstant => ?_, hsent⟩
  obtain ⟨last, hlast, hdeadline⟩ | htested := t3_run settings extension hopen hstarted
  · have hexpired : last + settings.t3 ≤ now := by
      have hdue : s.link.timers.t3.any (· ≤ now) = true := hdue
      rw [hdeadline] at hdue
      simpa using hdue
    obtain ⟨earlier, hinstants⟩ := List.getLast?_eq_some_iff.mp hlast
    have hordered := ((new settings extension).stamps_activity hclock.before).ordered
    have hinstant : instant ∈ earlier ++ [last] := hinstants ▸ hinstant
    rw [hinstants, List.pairwise_append] at hordered
    have hle : instant ≤ last := by
      rcases List.mem_append.mp hinstant with hearlier | hmem
      · exact hordered.2.2 instant hearlier last (List.mem_singleton_self _)
      · exact Nat.le_of_eq (List.mem_singleton.mp hmem)
    omega
  · exact absurd htests htested

/-- On a link on which nothing happens after data transfer was started, only the test is sent. -/
theorem quiet_link_tested :
    let inputs : List (Nat × LinkInput) :=
      [(0, .call 0 (.start 0 9)), (1, .frame (.unnumbered .startCon))]
    let s := (new { t1 := 10, t2 := 5, t3 := 20 } none).run inputs
    let sent := (s.step 21 .timers).endpoint.frames.drop s.endpoint.frames.length
    Chronological (inputs ++ [(21, .timers)]) ∧ s.link.timers.t3 = some (1 + 20) ∧
      ((new { t1 := 10, t2 := 5, t3 := 20 } none).journal {} inputs).tests = [] ∧
      .unnumbered .testAct ∈ sent ∧
      (∀ instant ∈ (new { t1 := 10, t2 := 5, t3 := 20 } none).activity inputs,
        instant + 20 ≤ 21) ∧
      sent = [.unnumbered .testAct] := by
  intro inputs s sent
  have hclock : Chronological (inputs ++ [(21, .timers)]) := by decide
  obtain ⟨-, hidle, htested⟩ :=
    tested_when_idle { t1 := 10, t2 := 5, t3 := 20 } none inputs 21 .timers hclock
  have htest : .unnumbered .testAct ∈ sent := by decide
  obtain ⟨-, hopen, hstarted, htests, hquiet, hsent⟩ := htested htest
  rcases hidle hopen hstarted with ⟨last, hlast, hdeadline⟩ | hunconfirmed
  · cases hlast
    exact ⟨hclock, hdeadline, htests, htest, hquiet, hsent⟩
  · exact absurd htests hunconfirmed

/-- When t2 and t3 expire together, what is owed is acknowledged, which arms t3 until the instant
21; the link is tested at the same instant as the acknowledgment. -/
theorem busy_link_tested :
    ({ t1 := 15, t2 := 10, t3 := 10 } : Settings).Valid ∧
      let inputs : List (Nat × LinkInput) :=
        [(0, .call 0 (.start 0 9)), (1, .frame (.unnumbered .startCon)),
          (1, .frame (.information 0 0 [100, 1, 6, 0, 1, 0, 0, 0, 0, 20]))]
      Chronological (inputs ++ [(11, .timers)]) ∧
        let s := (new { t1 := 15, t2 := 10, t3 := 10 } none).run inputs
        (s.link.sendSupervisory 11).timers.t3 = some 21 ∧
          (s.step 11 .timers).endpoint.frames =
            s.endpoint.frames ++ [.supervisory 1, .unnumbered .testAct] ∧
          ¬(s.step 11 .timers).ledger.sent.Pairwise fun earlier later =>
            later.apdu = .unnumbered .testAct → earlier.sent + 10 ≤ later.sent := by
  refine ⟨(Settings.validate_eq_ok_iff _).mp rfl, ?_⟩
  intro inputs
  exact ⟨by decide, rfl, rfl, by decide⟩

end Station

end Telecontrol
