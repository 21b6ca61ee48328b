import Telecontrol.Proofs.Link.Endpoint
import Telecontrol.Proofs.Window

/-!
# Calls that wait for room in the window

A call that finds the window full waits, and does not look again before it is woken. Calls are
woken whenever outstanding frames are released, and when data transfer or the connection ends. No
such occasion is missed: a call that waits and was not woken waits for a window that is full
(`Link.alert_run`). While the window has room, calls that send units flow (`Link.Flows.of_room`).
-/

namespace Telecontrol

/-- The part of a link on which it depends whether calls wait in vain. -/
structure Queue where
  /-- The window is full. -/
  full : Bool
  /-- For each call that waits for room in the window, whether it was woken. -/
  woken : List Bool

namespace Queue

/-- Calls that were not woken wait for a window that is full. -/
def Alert (q : Queue) : Prop := q.full = false → ∀ woken ∈ q.woken, woken = true

/-- Wake every call. -/
def wake (q : Queue) : Queue := { q with woken := q.woken.map fun _ => true }

theorem alert_wake (q : Queue) : q.wake.Alert := by
  intro _ woken hwoken
  obtain ⟨_, -, rfl⟩ := List.mem_map.mp hwoken
  rfl

end Queue

namespace Window

variable {v v' : Window} {number : UInt16} {due : Bool}

/-- An acknowledgment that releases nothing makes no room. -/
theorem isFull_of_acknowledge (h : v.acknowledge number = .ok (0, v')) :
    v'.isFull = v.isFull := by
  have hsize : v'.outstanding.size = v.outstanding.size := by
    have hlist := congrArg List.length (outstanding_of_acknowledge h)
    simpa using hlist
  have hk : v'.k = v.k := by
    unfold acknowledge at h
    simp only at h
    split at h
    · cases h
    · obtain ⟨-, rfl⟩ := Prod.mk.inj (Except.ok.inj h)
      rfl
  rw [isFull, isFull, hsize, hk]

theorem isFull_of_accept (h : v.accept number = .ok (due, v')) : v'.isFull = v.isFull := by
  unfold accept at h
  split at h
  · obtain ⟨-, rfl⟩ := Prod.mk.inj (Except.ok.inj h)
    rfl
  · cases h

end Window

namespace Link

/-- The queue of a link. -/
def queue (l : Link) : Queue where
  full := l.window.isFull
  woken := l.senders.map (·.woken)

/-! ### The queue after each operation of a link -/

@[simp] theorem queue_finish (l : Link) (call : CallId) (reply : Reply) :
    (l.finish call reply).queue = l.queue := rfl

@[simp] theorem queue_notify (l : Link) (message : Message) :
    (l.emit (.notify message)).queue = l.queue := rfl

@[simp] theorem queue_superviseOldest (l : Link) : l.superviseOldest.queue = l.queue := rfl

@[simp] theorem queue_wakeSenders (l : Link) : l.wakeSenders.queue = l.queue.wake := by
  have hwoken : (l.senders.map fun s => { s with woken := true }).map (·.woken) =
      (l.senders.map (·.woken)).map fun _ => true := by
    rw [List.map_map, List.map_map]
    rfl
  exact congrArg (Queue.mk _) hwoken

@[simp] theorem queue_transmit (l : Link) (now : Nat) (apdu : Apdu) :
    (l.transmit now apdu).queue = l.queue := by
  unfold transmit
  simp only
  split <;> rfl

@[simp] theorem queue_sendSupervisory (l : Link) (now : Nat) :
    (l.sendSupervisory now).queue = l.queue := by
  simp only [sendSupervisory, queue_transmit]
  rfl

theorem queue_sendInformation (l : Link) (now : Nat) (octets : Octets) :
    (l.sendInformation now octets).queue.woken = l.queue.woken := by
  simp only [sendInformation, queue_superviseOldest, queue_transmit]
  rfl

@[simp] theorem queue_enterStarted (l : Link) (now : Nat) :
    (l.enterStarted now).queue = l.queue := rfl

@[simp] theorem queue_enterStopped (l : Link) : l.enterStopped.queue = l.queue.wake := by
  simp only [enterStopped, report, queue_notify, queue_wakeSenders]
  rfl

@[simp] theorem queue_confirmStart (l : Link) (now : Nat) :
    (l.confirmStart now).queue = l.queue := by
  simp only [confirmStart, queue_enterStarted, queue_transmit]

@[simp] theorem queue_afterSending (l : Link) (now : Nat) (s : Sender) :
    (l.afterSending now s).queue = l.queue := by
  unfold afterSending
  split <;> rfl

@[simp] theorem queue_confirm (l : Link) (ticket : Nat) (confirmation : Asdu) :
    (l.confirm ticket confirmation).queue = l.queue := by
  unfold confirm
  split
  · rfl
  · have hwoken : (l.senders.map fun s => if s.ticket? = some ticket then
        { s with confirmation? := some confirmation } else s).map (·.woken) =
        l.senders.map (·.woken) := by
      rw [List.map_map]
      refine List.map_congr_left fun s _ => ?_
      rw [Function.comp_apply]
      split <;> rfl
    exact congrArg (Queue.mk _) hwoken

@[simp] theorem queue_handOver (l : Link) (asdu : Asdu) : (l.handOver asdu).queue = l.queue := by
  unfold handOver
  split
  · exact queue_confirm _ _ _
  · rfl

@[simp] theorem queue_beginHandshake (l : Link) (now : Nat) (call : CallId)
    (function : LinkFunction) (deadline? : Option Nat) :
    (l.beginHandshake now call function deadline?).queue = l.queue := by
  unfold beginHandshake
  simp only
  split
  · rw [queue_superviseOldest, queue_transmit]
    rfl
  · rw [queue_transmit]
    rfl

/-! ### One step -/

variable {l : Link} {now : Nat}

theorem alert_close (h : l.queue.Alert) (cause : Fault) : (l.close cause).queue.Alert := by
  unfold close
  split
  · exact h
  · rw [queue_wakeSenders]
    exact Queue.alert_wake _

theorem alert_start (h : l.queue.Alert) (call : CallId) (listener : ListenerId) (timeout : Nat) :
    (l.start now call listener timeout).queue.Alert := by
  unfold start
  split
  · exact h
  · simp only
    split
    · exact h
    · rw [queue_beginHandshake]
      exact h

theorem alert_awaitStart (h : l.queue.Alert) (call : CallId) (listener : ListenerId)
    (timeout : Nat) : (l.awaitStart now call listener timeout).queue.Alert := by
  unfold awaitStart
  split
  · exact h
  · split
    · exact h
    · simp only
      split
      · exact h
      · split
        · rw [queue_finish, queue_confirmStart]
          exact h
        · exact h

theorem alert_stop (h : l.queue.Alert) (call : CallId) : (l.stop now call).queue.Alert := by
  unfold stop
  split
  · exact h
  · split
    · exact h
    · rw [queue_beginHandshake]
      exact h

/-- A call waits only if the window is full, and sends only if nobody sleeps. -/
theorem alert_attempt (h : l.queue.Alert) (s : Sender) : (l.attempt now s).queue.Alert := by
  unfold attempt
  split
  · exact h
  · split
    · exact h
    · split
      · next hfull =>
        intro hroom
        exact absurd (hfull.symm.trans hroom) nofun
      · next hroom =>
        rw [queue_afterSending]
        intro _
        rw [queue_sendInformation]
        exact h (Bool.eq_false_iff.mpr hroom)

theorem alert_sendUnit (h : l.queue.Alert) (call : CallId) (ticket? : Option Nat) (asdu : Asdu) :
    (l.sendUnit now call ticket? asdu).queue.Alert := by
  unfold sendUnit
  split
  · exact h
  · split
    · exact h
    · exact alert_attempt h _

theorem alert_handleCall (h : l.queue.Alert) (call : CallId) (request : Request) :
    (l.handleCall now call request).queue.Alert := by
  cases request with
  | start => exact alert_start h _ _ _
  | awaitStart => exact alert_awaitStart h _ _ _
  | stop => exact alert_stop h _
  | send => exact alert_sendUnit h _ _ _
  | sendConfirmed asdu =>
    exact alert_sendUnit (l := { l with
      nextTicket := l.nextTicket + 1
      expectations := l.expectations ++ [Expectation.ofAsdu l.nextTicket asdu] }) h _ _ _
  | awaitClose =>
    simp only [handleCall, awaitClose]
    split <;> exact h

theorem alert_resume (h : l.queue.Alert) (call : CallId) : (l.resume now call).queue.Alert := by
  unfold resume
  split
  · next s _ =>
    refine alert_attempt (l := { l with
      senders := l.senders.filter fun other => other.call != call }) (fun hroom => ?_) s
    intro woken hwoken
    obtain ⟨other, hother, rfl⟩ := List.mem_map.mp hwoken
    exact h hroom _ (List.mem_map_of_mem (List.mem_filter.mp hother).1)
  · exact h

theorem alert_expire (h : l.queue.Alert) (call : CallId) : (l.expire now call).queue.Alert := by
  unfold expire
  split
  · exact alert_close h _
  · split <;> exact h

theorem alert_handleExpired (h : l.queue.Alert) (expired : List Timer) :
    (l.handleExpired now expired).queue.Alert := by
  induction expired generalizing l with
  | nil => exact h
  | cons timer rest ih =>
    cases timer with
    | t1 => exact alert_close h _
    | t2 =>
      refine ih ?_
      split
      · rw [queue_sendSupervisory]
        exact h
      · exact h
    | t3 =>
      refine ih ?_
      split
      · rw [queue_superviseOldest, queue_transmit]
        exact h
      · exact h

theorem alert_handleTimers (h : l.queue.Alert) : (l.handleTimers now).queue.Alert := by
  unfold handleTimers
  split
  · exact h
  · exact alert_handleExpired (l := { l with timers := (l.timers.takeExpired now).2 }) h _

/-- Whenever room is made in the window, the calls are woken. -/
theorem alert_applyAcknowledgment (h : l.queue.Alert) {number : UInt16} {l' : Link}
    (happly : l.applyAcknowledgment number = .ok l') : l'.queue.Alert := by
  rcases hack : l.window.acknowledge number with cause | ⟨released, window⟩
  · rw [applyAcknowledgment_eq_error hack] at happly
    cases happly
  · simp only [applyAcknowledgment, hack] at happly
    cases happly
    by_cases hreleased : released = 0
    · subst hreleased
      simp only [if_true]
      intro hroom
      exact h ((Window.isFull_of_acknowledge hack).symm.trans hroom)
    · simp only [hreleased, if_false, queue_wakeSenders]
      exact Queue.alert_wake _

theorem alert_handleInformation (h : l.queue.Alert) (send receive : UInt16)
    (octets? : Option Octets) : (l.handleInformation now send receive octets?).queue.Alert := by
  unfold handleInformation
  split
  · exact alert_close h _
  · split
    · exact alert_close h _
    · next l' happly =>
      have h' := alert_applyAcknowledgment h happly
      split
      · exact alert_close h' _
      · next due window haccept =>
        have haccepted : ({ l' with window := window } : Link).queue.Alert := fun hroom =>
          h' ((Window.isFull_of_accept haccept).symm.trans hroom)
        simp only
        split
        · exact alert_close haccepted _
        · split
          · exact alert_close haccepted _
          · split
            · rw [queue_handOver, queue_sendSupervisory]
              exact haccepted
            · rw [queue_handOver]
              exact haccepted

theorem alert_handleSupervisory (h : l.queue.Alert) (receive : UInt16) :
    (l.handleSupervisory receive).queue.Alert := by
  unfold handleSupervisory
  split
  · exact alert_close h _
  · split
    · exact alert_close h _
    · next happly => exact alert_applyAcknowledgment h happly

theorem alert_handleUnnumbered (h : l.queue.Alert) (function : LinkFunction) :
    (l.handleUnnumbered now function).queue.Alert := by
  cases function with
  | testAct =>
    simp only [handleUnnumbered, queue_transmit]
    exact h
  | testCon =>
    simp only [handleUnnumbered]
    split
    · exact h
    · exact alert_close h _
  | startAct =>
    simp only [handleUnnumbered]
    split
    · rw [queue_transmit]
      exact h
    · split
      · rw [queue_finish, queue_confirmStart]
        exact h
      · exact h
  | startCon =>
    simp only [handleUnnumbered]
    split
    · split
      · exact h
      · exact alert_close h _
    · exact alert_close h _
  | stopAct =>
    simp only [handleUnnumbered]
    generalize howed : (if 0 < l.window.unacknowledged then l.sendSupervisory now else l) = owed
    have hqueue : owed.queue = l.queue := by
      rw [← howed]
      split
      · exact queue_sendSupervisory l now
      · rfl
    split
    · rw [queue_enterStopped]
      exact Queue.alert_wake _
    · rw [queue_transmit, hqueue]
      exact h
  | stopCon =>
    simp only [handleUnnumbered]
    split
    · split
      · rw [queue_finish, queue_superviseOldest, queue_enterStopped]
        exact Queue.alert_wake _
      · exact alert_close h _
    · exact alert_close h _

theorem alert_handleFrame (h : l.queue.Alert) (apdu : Apdu) :
    (l.handleFrame now apdu).queue.Alert := by
  by_cases hclosed : l.closed = none
  · rw [handleFrame_of_open now hclosed]
    have hrearmed : (l.rearmIdle now).queue.Alert := by
      unfold rearmIdle
      split <;> exact h
    split
    · exact alert_handleInformation hrearmed _ _ _
    · exact alert_handleSupervisory hrearmed _
    · exact alert_handleUnnumbered hrearmed _
  · rw [handleFrame_of_closed now hclosed]
    exact h

theorem alert_step (h : l.queue.Alert) (now : Nat) (input : LinkInput) :
    (l.step now input).queue.Alert := by
  cases input with
  | call call request => exact alert_handleCall h call request
  | resume call => exact alert_resume h _
  | expire call => exact alert_expire h _
  | timers => exact alert_handleTimers h
  | frame apdu => exact alert_handleFrame h _
  | lost | close => exact alert_close h _

/-! ### Room in the window -/

/-- No call that is to send a unit waits for room in the window: one that is made does not, and one
that did has been woken and, as soon as it looks again, waits no longer. -/
structure Flows (l : Link) : Prop where
  send : ∀ now call asdu, (l.step now (.call call (.send asdu))).senders = l.senders
  command : ∀ now call asdu,
    (l.step now (.call call (.sendConfirmed asdu))).senders = l.senders
  resume : ∀ s ∈ l.senders, s.woken = true ∧
    ∀ now, (l.step now (.resume s.call)).senders =
      l.senders.filter fun other => other.call != s.call

theorem senders_sendInformation (l : Link) (now : Nat) (octets : Octets) :
    (l.sendInformation now octets).senders = l.senders := by
  simp only [sendInformation, superviseOldest, transmit]
  split <;> rfl

theorem senders_attempt (hroom : l.window.isFull = false) (s : Sender) :
    (l.attempt now s).senders = l.senders := by
  unfold attempt
  split
  · rfl
  · split
    · rfl
    · rw [if_neg (Bool.eq_false_iff.mp hroom)]
      refine Eq.trans ?_ (senders_sendInformation l now s.octets)
      unfold afterSending
      split <;> rfl

theorem senders_sendUnit (hroom : l.window.isFull = false) (call : CallId)
    (ticket? : Option Nat) (asdu : Asdu) :
    (l.sendUnit now call ticket? asdu).senders = l.senders := by
  unfold sendUnit
  split
  · rfl
  · split
    · rfl
    · exact senders_attempt hroom _

theorem senders_resume (hroom : l.window.isFull = false) {s : Sender} (hs : s ∈ l.senders)
    (hwoken : s.woken = true) :
    (l.resume now s.call).senders = l.senders.filter fun other => other.call != s.call := by
  unfold resume
  split
  · exact senders_attempt
      (l := { l with senders := l.senders.filter fun other => other.call != s.call }) hroom _
  · next hnone =>
    have hnot := List.find?_eq_none.mp hnone s hs
    simp [hwoken] at hnot

/-- While the window has room, no call waits for it. -/
theorem Flows.of_room (hroom : l.window.isFull = false) (halert : l.queue.Alert) : l.Flows where
  send now call asdu := senders_sendUnit hroom call none asdu
  command now call asdu :=
    senders_sendUnit (l := { l with
      nextTicket := l.nextTicket + 1
      expectations := l.expectations ++ [Expectation.ofAsdu l.nextTicket asdu] }) hroom _ _ _
  resume s hs := by
    have hwoken : s.woken = true := halert hroom _ (List.mem_map_of_mem hs)
    exact ⟨hwoken, fun now => senders_resume hroom hs hwoken⟩

/-! ### Runs -/

/-- Calls that were not woken wait for a window that is full, whatever happens. -/
theorem alert_run (settings : Settings) (extension : Option Extension)
    (inputs : List (Nat × LinkInput)) : ((new settings extension).run inputs).queue.Alert := by
  have hrun : ∀ l : Link, l.queue.Alert → (l.run inputs).queue.Alert := by
    induction inputs with
    | nil => exact fun _ h => h
    | cons input inputs ih => exact fun l h => ih _ (alert_step h input.1 input.2)
  exact hrun _ fun _ => nofun

end Link

end Telecontrol
