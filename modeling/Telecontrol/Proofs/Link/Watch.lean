import Telecontrol.Proofs.Link.Endpoint
import Telecontrol.Proofs.Window

/-!
# The instants that a link keeps

What the timers t1 and t2 do depends on another part of a link than the frames that it sends,
its `Watch`: when the things were sent that must be acknowledged, and the two deadlines. As long
as the connection is open, each of them changes only in one of a few ways:

* `Supervision.Move` lists them for t1 and what it supervises; whenever something is added or
  taken away, t1 is armed anew for the oldest of what is left;
* `Stamped` lists them for t2, which is never moved once it is armed.

`Link.watch_step` says so of everything that can happen to a link.
-/

namespace Telecontrol

/-- What a step can do to an instant that is kept: nothing, drop it, or set it where there was
none. -/
inductive Stamped (stamp : Nat) : Option Nat → Option Nat → Prop
  | keeps {kept} : Stamped stamp kept kept
  | drops {kept} : Stamped stamp kept none
  | sets : Stamped stamp none (some stamp)

/-- Unless an instant is dropped or set, it is kept. -/
theorem Stamped.eq_of_isSome {stamp : Nat} {old new : Option Nat} (h : Stamped stamp old new)
    (hsome : new.isSome = old.isSome) : new = old := by
  cases h with
  | keeps => rfl
  | drops =>
    have hnone : old.isSome = false := hsome.symm
    exact (Option.not_isSome_iff_eq_none.mp (Bool.eq_false_iff.mp hnone)).symm
  | sets => cases hsome

/-- The timer t1, and what it supervises. -/
structure Supervision where
  /-- How long t1 runs. -/
  limit : Nat
  /-- The instants at which the outstanding frames were sent, oldest first. -/
  frames : List Nat
  /-- The instant at which a test of the link was sent that is not yet confirmed. -/
  test? : Option Nat
  /-- The instant at which the activation was sent that stops data transfer, if it is not yet
  confirmed. -/
  stop? : Option Nat
  /-- The deadline of t1, if it is armed. -/
  deadline? : Option Nat

namespace Supervision

/-- The instants at which the oldest outstanding frame and the activations were sent. -/
def candidates (s : Supervision) : List Nat :=
  s.frames.head?.toList ++ s.test?.toList ++ s.stop?.toList

/-- The deadline of the oldest thing that is supervised. -/
def due? (s : Supervision) : Option Nat := s.candidates.min?.map (· + s.limit)

/-- Arm t1 for the oldest thing that it supervises; disarm it if there is none. -/
def arm (s : Supervision) : Supervision := { s with deadline? := s.due? }

/-- What a step can do to t1 and what it supervises, as long as the connection is open. -/
inductive Move (s : Supervision) (now : Nat) : Supervision → Prop
  | keeps : Move s now s
  /-- An information frame is sent. -/
  | sends : Move s now { s with frames := s.frames ++ [now] }.arm
  /-- Outstanding frames are acknowledged. -/
  | releases (count : Nat) : Move s now { s with frames := s.frames.drop count }.arm
  | tests : s.test? = none → Move s now { s with test? := some now }.arm
  | tested : Move s now { s with test? := none }.arm
  /-- The end of data transfer is asked for. -/
  | asksStop : s.stop? = none → Move s now { s with stop? := some now }.arm
  | stopped : Move s now { s with stop? := none }.arm

variable {s s' : Supervision} {now : Nat}

theorem Move.test? (h : s.Move now s') : Stamped now s.test? s'.test? := by
  cases h with
  | tests hnone =>
    rw [hnone]
    exact .sets
  | tested => exact .drops
  | _ => exact .keeps

theorem Move.stop? (h : s.Move now s') : Stamped now s.stop? s'.stop? := by
  cases h with
  | asksStop hnone =>
    rw [hnone]
    exact .sets
  | stopped => exact .drops
  | _ => exact .keeps

/-- If t1 was armed for the oldest thing that it supervises, it still is. -/
theorem Move.deadline?_eq (h : s.Move now s') (hdeadline : s.deadline? = s.due?) :
    s'.deadline? = s'.due? := by
  cases h with
  | keeps => exact hdeadline
  | _ => rfl

end Supervision

/-- The part of a link on which t1 and t2 depend. -/
structure Watch where
  supervision : Supervision
  /-- How long t2 runs. -/
  delay : Nat
  /-- The deadline of t2, if it is armed. -/
  deadline? : Option Nat

/-- What a step can do to t1 and t2, as long as the connection is open. -/
structure Watch.Move (w : Watch) (now : Nat) (w' : Watch) : Prop where
  supervision : w.supervision.Move now w'.supervision
  delay_eq : w'.delay = w.delay
  deadline? : Stamped (now + w.delay) w.deadline? w'.deadline?

namespace Watch

/-- Disarm t2. -/
def rest (w : Watch) : Watch := { w with deadline? := none }

variable {w w' : Watch} {now : Nat}

theorem Move.keeps (w : Watch) (now : Nat) : w.Move now w := ⟨.keeps, rfl, .keeps⟩

theorem Move.rest (h : w.Move now w') : w.Move now w'.rest := ⟨h.supervision, h.delay_eq, .drops⟩

/-- If t2 is not yet touched, it may be armed. -/
theorem Move.schedules (h : w.Move now w') (hsame : w'.deadline? = w.deadline?)
    {deadline? : Option Nat} (hstamped : Stamped (now + w'.delay) w'.deadline? deadline?) :
    w.Move now { w' with deadline? := deadline? } := by
  rw [h.delay_eq, hsame] at hstamped
  exact ⟨h.supervision, h.delay_eq, hstamped⟩

/-- A step in which only t1 and what it supervises change. -/
theorem Move.supervises {s : Supervision} (h : w.supervision.Move now s) :
    w.Move now { w with supervision := s } := ⟨h, rfl, .keeps⟩

end Watch

/-! ### The watch after each operation of a link -/

namespace Link

/-- The instant at which the activation was sent that stops data transfer and is not yet
confirmed. -/
def stopSent? (l : Link) : Option Nat :=
  l.handshake.bind fun h => if h.function = .stopAct then some h.sent else none

/-- The watch of a link. -/
def watch (l : Link) : Watch where
  supervision :=
    { limit := l.settings.t1
      frames := l.window.outstanding.toList.map (·.sent)
      test? := l.testSent
      stop? := l.stopSent?
      deadline? := l.timers.t1 }
  delay := l.settings.t2
  deadline? := l.timers.t2

theorem candidates_watch (l : Link) : l.watch.supervision.candidates = l.supervised := by
  have hframes : (l.window.outstanding.toList.map (·.sent)).head? = l.window.oldestSent? := by
    rw [List.head?_map, List.head?_eq_getElem?, Array.getElem?_toList, Window.oldestSent?]
  have hstop : l.stopSent?.toList = l.handshake.toList.filterMap fun h =>
      if h.function = .stopAct then some h.sent else none := by
    unfold stopSent?
    cases l.handshake with
    | none => rfl
    | some h =>
      simp only [Option.bind_some, Option.toList_some, List.filterMap_cons, List.filterMap_nil]
      split <;> simp_all
  show (l.window.outstanding.toList.map (·.sent)).head?.toList ++ l.testSent.toList ++
    l.stopSent?.toList = l.supervised
  rw [hframes, hstop]
  rfl

@[simp] theorem watch_finish (l : Link) (call : CallId) (reply : Reply) :
    (l.finish call reply).watch = l.watch := rfl

@[simp] theorem watch_wakeSenders (l : Link) : l.wakeSenders.watch = l.watch := rfl

@[simp] theorem watch_superviseOldest (l : Link) :
    l.superviseOldest.watch = { l.watch with supervision := l.watch.supervision.arm } := by
  unfold Supervision.arm Supervision.due?
  rw [candidates_watch]
  rfl

@[simp] theorem watch_afterSending (l : Link) (now : Nat) (s : Sender) :
    (l.afterSending now s).watch = l.watch := by
  unfold afterSending
  split <;> rfl

@[simp] theorem watch_handOver (l : Link) (asdu : Asdu) : (l.handOver asdu).watch = l.watch := by
  unfold handOver
  split
  · unfold confirm
    split <;> rfl
  · rfl

@[simp] theorem watch_transmit (l : Link) (now : Nat) (apdu : Apdu) :
    (l.transmit now apdu).watch = l.watch := by
  unfold transmit
  simp only
  split <;> rfl

@[simp] theorem watch_sendInformation (l : Link) (now : Nat) (octets : Octets) :
    (l.sendInformation now octets).watch =
      { l.watch with
        supervision :=
          { l.watch.supervision with frames := l.watch.supervision.frames ++ [now] }.arm
        deadline? := none } := by
  have hframes : ((l.window.nextSend now).2.2.outstanding.toList.map (·.sent)) =
      l.window.outstanding.toList.map (·.sent) ++ [now] := by
    simp [Window.nextSend]
  simp only [sendInformation, watch_superviseOldest, watch_transmit]
  rw [← show _ = l.watch.supervision.frames ++ [now] from hframes]
  rfl

@[simp] theorem watch_sendSupervisory (l : Link) (now : Nat) :
    (l.sendSupervisory now).watch = l.watch.rest := by
  simp only [sendSupervisory, watch_transmit]
  rfl

@[simp] theorem watch_enterStarted (l : Link) (now : Nat) :
    (l.enterStarted now).watch = l.watch := rfl

@[simp] theorem watch_enterStopped (l : Link) : l.enterStopped.watch = l.watch.rest := rfl

@[simp] theorem watch_confirmStart (l : Link) (now : Nat) :
    (l.confirmStart now).watch = l.watch := by
  simp only [confirmStart, watch_enterStarted, watch_transmit]

theorem closed_close_of_open {l : Link} (h : l.closed = none) (cause : Fault) :
    (l.close cause).closed = some cause :=
  congrArg Endpoint.closed (endpoint_close h cause)

theorem closed_close (l : Link) (cause : Fault) : (l.close cause).closed ≠ none := by
  by_cases h : l.closed = none
  · rw [closed_close_of_open h]
    exact nofun
  · rw [close_of_closed h]
    exact h

/-! ### One step -/

variable {l : Link} {now : Nat}

theorem stopSent?_eq_none (h : l.handshakeFault? = none) : l.stopSent? = none := by
  rw [stopSent?, (handshakeFault?_eq_none_iff.mp h).2]
  rfl

theorem watch_start (call : CallId) (listener : ListenerId) (timeout : Nat) :
    l.watch.Move now (l.start now call listener timeout).watch := by
  unfold start
  split
  · exact .keeps _ _
  · next h =>
    simp only
    split
    · exact .keeps _ _
    · -- The activation that starts data transfer is not supervised by t1.
      have hstop : l.stopSent? = none := stopSent?_eq_none h
      have hwatch : ({ l.emit (.notify (.register listener)) with
          handshake := some ⟨.startAct, now, call, some (now + timeout)⟩ } : Link).watch =
          l.watch := by
        show { l.watch with supervision := { l.watch.supervision with stop? := none } } = _
        rw [← hstop]
        rfl
      simp only [beginHandshake, reduceCtorEq, if_false, watch_transmit]
      rw [hwatch]
      exact .keeps _ _

theorem watch_awaitStart (call : CallId) (listener : ListenerId) (timeout : Nat) :
    l.watch.Move now (l.awaitStart now call listener timeout).watch := by
  unfold awaitStart
  split
  · exact .keeps _ _
  · split
    · exact .keeps _ _
    · simp only
      split
      · exact .keeps _ _
      · split
        · rw [watch_finish, watch_confirmStart]
          exact .keeps _ _
        · exact .keeps _ _

theorem watch_stop (call : CallId) : l.watch.Move now (l.stop now call).watch := by
  unfold stop
  split
  · exact .keeps _ _
  · next h =>
    split
    · exact .keeps _ _
    · simp only [beginHandshake, if_true, watch_superviseOldest, watch_transmit]
      exact .supervises (.asksStop (stopSent?_eq_none h))

theorem watch_attempt (s : Sender) : l.watch.Move now (l.attempt now s).watch := by
  unfold attempt
  split
  · exact .keeps _ _
  · split
    · exact .keeps _ _
    · split
      · exact .keeps _ _
      · rw [watch_afterSending, watch_sendInformation]
        exact ⟨.sends, rfl, .drops⟩

theorem watch_sendUnit (call : CallId) (ticket? : Option Nat) (asdu : Asdu) :
    l.watch.Move now (l.sendUnit now call ticket? asdu).watch := by
  unfold sendUnit
  split
  · exact .keeps _ _
  · split
    · exact .keeps _ _
    · exact watch_attempt _

theorem watch_handleCall (call : CallId) (request : Request) :
    l.watch.Move now (l.handleCall now call request).watch := by
  cases request with
  | start => exact watch_start ..
  | awaitStart => exact watch_awaitStart ..
  | stop => exact watch_stop ..
  | send => exact watch_sendUnit ..
  | sendConfirmed asdu =>
    exact watch_sendUnit (l := { l with
      nextTicket := l.nextTicket + 1
      expectations := l.expectations ++ [Expectation.ofAsdu l.nextTicket asdu] }) ..
  | awaitClose =>
    simp only [handleCall, awaitClose]
    split <;> exact .keeps _ _

theorem watch_resume (call : CallId) : l.watch.Move now (l.resume now call).watch := by
  unfold resume
  split
  · next s _ =>
    exact watch_attempt (l := { l with
      senders := l.senders.filter fun other => other.call != call }) s
  · exact .keeps _ _

theorem watch_expire (call : CallId) (hopen : (l.expire now call).closed = none) :
    l.watch.Move now (l.expire now call).watch := by
  unfold expire at hopen ⊢
  split at hopen
  · exact absurd hopen (closed_close _ _)
  · next hoverdue =>
    rw [if_neg hoverdue]
    split <;> exact .keeps _ _

/-- What the passing of t3 does, after that of t2. -/
theorem watch_handleIdle {w : Watch} {rest : List Timer} (h : rest = [] ∨ rest = [.t3])
    (hmove : w.Move now l.watch) (hsupervision : l.watch.supervision = w.supervision) :
    w.Move now (l.handleExpired now rest).watch := by
  rcases h with rfl | rfl
  · exact hmove
  · simp only [handleExpired]
    split
    · next h =>
      have htest : w.supervision.test? = none := by
        rw [← hsupervision]
        exact Option.isNone_iff_eq_none.mp h.2
      rw [watch_superviseOldest, watch_transmit]
      refine ⟨?_, hmove.delay_eq, hmove.deadline?⟩
      show w.supervision.Move now { l.watch.supervision with test? := some now }.arm
      rw [hsupervision]
      exact .tests htest
    · exact hmove

theorem watch_handleTimers (hopen : (l.handleTimers now).closed = none) :
    l.watch.Move now (l.handleTimers now).watch := by
  revert hopen
  unfold handleTimers
  split
  · exact fun _ => .keeps _ _
  · simp only [Timers.takeExpired, Timer.all]
    -- If t1 has expired, the connection is closed.
    by_cases h1 : l.timers.isExpired now .t1
    · rw [List.filter_cons_of_pos h1]
      exact fun hopen => absurd hopen (closed_close _ _)
    · rw [List.filter_cons_of_neg h1]
      intro _
      have hrest : [Timer.t3].filter (l.timers.isExpired now) = [] ∨
          [Timer.t3].filter (l.timers.isExpired now) = [.t3] := by
        by_cases h3 : l.timers.isExpired now .t3
        · exact .inr (List.filter_cons_of_pos h3)
        · exact .inl (List.filter_cons_of_neg h3)
      by_cases h2 : l.timers.isExpired now .t2
      · rw [List.filter_cons_of_pos h2]
        generalize howed : ({ l with
          timers := (.t2 :: [Timer.t3].filter (l.timers.isExpired now)).foldl Timers.cancel
            l.timers } : Link) = owed
        have hwatch : owed.watch = l.watch.rest := by
          rw [← howed]
          rcases hrest with hrest | hrest <;> rw [hrest] <;> rfl
        have hacknowledged : (if 0 < owed.window.unacknowledged then owed.sendSupervisory now
            else owed).watch = l.watch.rest := by
          split
          · rw [watch_sendSupervisory, hwatch]
            rfl
          · exact hwatch
        rw [handleExpired]
        refine watch_handleIdle hrest ?_ ?_ <;> rw [hacknowledged]
        · exact .rest (.keeps _ _)
        · rfl
      · rw [List.filter_cons_of_neg h2]
        generalize hidle : ({ l with
          timers := ([Timer.t3].filter (l.timers.isExpired now)).foldl Timers.cancel
            l.timers } : Link) = idle
        have hwatch : idle.watch = l.watch := by
          rw [← hidle]
          rcases hrest with hrest | hrest <;> rw [hrest] <;> rfl
        refine watch_handleIdle hrest ?_ ?_ <;> rw [hwatch]
        exact .keeps _ _

theorem watch_applyAcknowledgment (now : Nat) {number : UInt16} {l' : Link}
    (h : l.applyAcknowledgment number = .ok l') :
    l.watch.Move now l'.watch ∧ l'.watch.deadline? = l.watch.deadline? := by
  unfold applyAcknowledgment at h
  rcases hack : l.window.acknowledge number with cause | ⟨released, window⟩
  · rw [hack] at h
    cases h
  · rw [hack] at h
    obtain rfl := Except.ok.inj h
    have hframes : window.outstanding.toList.map (·.sent) =
        l.watch.supervision.frames.drop released := by
      rw [Window.outstanding_of_acknowledge hack, List.map_drop]
      rfl
    have hwatch : ({ l with window := window } : Link).watch =
        { l.watch with
          supervision :=
            { l.watch.supervision with frames := l.watch.supervision.frames.drop released } } := by
      rw [← hframes]
      rfl
    split
    · next hzero =>
      rw [hwatch, hzero, List.drop_zero]
      exact ⟨.keeps _ _, rfl⟩
    · rw [watch_wakeSenders, watch_superviseOldest, hwatch]
      exact ⟨.supervises (.releases released), rfl⟩

theorem watch_handleSupervisory (receive : UInt16)
    (hopen : (l.handleSupervisory receive).closed = none) :
    l.watch.Move now (l.handleSupervisory receive).watch := by
  unfold handleSupervisory at hopen ⊢
  split at hopen
  · exact absurd hopen (closed_close _ _)
  · next hstate =>
    rw [if_neg hstate]
    split at hopen
    · exact absurd hopen (closed_close _ _)
    · next hack => exact (watch_applyAcknowledgment now hack).1

theorem watch_window {window : Window}
    (h : window.outstanding = l.window.outstanding) :
    ({ l with window := window } : Link).watch = l.watch := by
  unfold watch
  rw [h]
  rfl

/-- An acknowledgment is scheduled unless one is already. -/
theorem watch_schedule (l : Link) (deadline : Nat) :
    ∃ deadline?, Stamped deadline l.watch.deadline? deadline? ∧
      ({ l with timers := l.timers.armIfIdle .t2 deadline } : Link).watch =
        { l.watch with deadline? := deadline? } := by
  rw [Timers.armIfIdle_eq]
  split
  · exact ⟨_, .keeps, rfl⟩
  · next h =>
    have hidle : l.timers.t2 = none := by simpa [Timers.isArmed, Timers.deadline?] using h
    have hstamped : Stamped deadline l.timers.t2 (some deadline) := by
      rw [hidle]
      exact .sets
    exact ⟨_, hstamped, rfl⟩

theorem watch_handleInformation (send receive : UInt16) (octets? : Option Octets)
    (hopen : (l.handleInformation now send receive octets?).closed = none) :
    l.watch.Move now (l.handleInformation now send receive octets?).watch := by
  revert hopen
  unfold handleInformation
  split
  · exact fun hopen => absurd hopen (closed_close _ _)
  · split
    · exact fun hopen => absurd hopen (closed_close _ _)
    · next l' hack =>
      obtain ⟨hmove, hdeadline⟩ := watch_applyAcknowledgment now hack
      split
      · exact fun hopen => absurd hopen (closed_close _ _)
      · next due window haccept =>
        have hwatch : ({ l' with window := window } : Link).watch = l'.watch :=
          watch_window (Window.outstanding_of_accept haccept)
        simp only
        split
        · exact fun hopen => absurd hopen (closed_close _ _)
        · split
          · exact fun hopen => absurd hopen (closed_close _ _)
          · intro _
            split
            · rw [watch_handOver, watch_sendSupervisory, hwatch]
              exact hmove.rest
            · obtain ⟨deadline?, hstamped, heq⟩ :=
                watch_schedule { l' with window := window } (now + l'.settings.t2)
              rw [watch_handOver, heq, hwatch]
              rw [hwatch] at hstamped
              exact hmove.schedules hdeadline hstamped

theorem watch_handleUnnumbered (function : LinkFunction)
    (hopen : (l.handleUnnumbered now function).closed = none) :
    l.watch.Move now (l.handleUnnumbered now function).watch := by
  revert hopen
  cases function with
  | testAct =>
    rw [handleUnnumbered, watch_transmit]
    exact fun _ => .keeps _ _
  | testCon =>
    simp only [handleUnnumbered]
    split
    · rw [watch_superviseOldest]
      exact fun _ => .supervises .tested
    · exact fun hopen => absurd hopen (closed_close _ _)
  | startAct =>
    intro _
    simp only [handleUnnumbered]
    split
    · rw [watch_transmit]
      exact .keeps _ _
    · split
      · rw [watch_finish, watch_confirmStart]
        exact .keeps _ _
      · exact .keeps _ _
  | startCon =>
    simp only [handleUnnumbered]
    split
    · next h hhandshake =>
      split
      · next hfunction =>
        intro _
        have hstop : l.stopSent? = none := by simp [stopSent?, hhandshake, hfunction]
        have hwatch : ({ l with handshake := none } : Link).watch = l.watch := by
          show { l.watch with supervision := { l.watch.supervision with stop? := none } } = _
          rw [← hstop]
          rfl
        rw [watch_finish, watch_enterStarted, hwatch]
        exact .keeps _ _
      · exact fun hopen => absurd hopen (closed_close _ _)
    · exact fun hopen => absurd hopen (closed_close _ _)
  | stopAct =>
    intro _
    simp only [handleUnnumbered]
    generalize howed : (if 0 < l.window.unacknowledged then l.sendSupervisory now else l) = owed
    have hmove : l.watch.Move now owed.watch := by
      rw [← howed]
      split
      · rw [watch_sendSupervisory]
        exact .rest (.keeps _ _)
      · exact .keeps _ _
    split
    · rw [watch_enterStopped, watch_transmit]
      exact hmove.rest
    · rw [watch_transmit]
      exact hmove
  | stopCon =>
    simp only [handleUnnumbered]
    split
    · split
      · intro _
        rw [watch_finish, watch_superviseOldest, watch_enterStopped]
        exact ⟨.stopped, rfl, .drops⟩
      · exact fun hopen => absurd hopen (closed_close _ _)
    · exact fun hopen => absurd hopen (closed_close _ _)

@[simp] theorem watch_rearmIdle (l : Link) (now : Nat) : (l.rearmIdle now).watch = l.watch := by
  unfold rearmIdle
  split <;> rfl

theorem watch_handleFrame (apdu : Apdu) (hopen : (l.handleFrame now apdu).closed = none) :
    l.watch.Move now (l.handleFrame now apdu).watch := by
  by_cases hbefore : l.closed = none
  · revert hopen
    rw [handleFrame_of_open now hbefore, ← watch_rearmIdle l now]
    split
    · exact watch_handleInformation _ _ _
    · exact watch_handleSupervisory _
    · exact watch_handleUnnumbered _
  · rw [handleFrame_of_closed now hbefore]
    exact .keeps _ _

/-- As long as the connection is open, a step changes the watch in one of the ways listed. -/
theorem watch_step (l : Link) (now : Nat) (input : LinkInput)
    (hopen : (l.step now input).closed = none) :
    l.watch.Move now (l.step now input).watch := by
  cases input with
  | call call request => exact watch_handleCall ..
  | resume call => exact watch_resume ..
  | expire call => exact watch_expire call hopen
  | timers => exact watch_handleTimers hopen
  | frame apdu => exact watch_handleFrame apdu hopen
  | lost | close => exact absurd hopen (closed_close _ _)

end Link

end Telecontrol
