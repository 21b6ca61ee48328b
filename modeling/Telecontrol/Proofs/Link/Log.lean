import Telecontrol.Link.Step

/-!
# The log is only written

What a link does does not depend on what it has done before: of two links that are alike but for
their logs (`Link.Alike`), each step does the same (`Link.Alike.step`), and adds it to the log
(`Link.log_step`). So the log may be cleared between steps.
-/

namespace Telecontrol

namespace Link

/-- The links are alike, but the second one has done `before` first. -/
def Alike (before : List Effect) (l l' : Link) : Prop := l' = { l with log := before ++ l.log }

theorem alike_cleared (l : Link) : Alike l.log { l with log := [] } l := by
  simp only [Alike, List.append_nil]

namespace Alike

variable {before : List Effect} {l l' : Link}

theorem emit (h : Alike before l l') (effect : Effect) :
    Alike before (l.emit effect) (l'.emit effect) := by
  obtain rfl := h
  simp only [Alike, Link.emit, List.append_assoc]

theorem finishAll (h : Alike before l l') (calls : List CallId) (reply : Reply) :
    Alike before (l.finishAll calls reply) (l'.finishAll calls reply) := by
  unfold Link.finishAll
  induction calls generalizing l l' with
  | nil => exact h
  | cons call calls ih => exact ih (h.emit _)

theorem wakeSenders (h : Alike before l l') : Alike before l.wakeSenders l'.wakeSenders := by
  obtain rfl := h
  rfl

theorem superviseOldest (h : Alike before l l') :
    Alike before l.superviseOldest l'.superviseOldest := by
  obtain rfl := h
  rfl

theorem transmit (h : Alike before l l') (now : Nat) (apdu : Apdu) :
    Alike before (l.transmit now apdu) (l'.transmit now apdu) := by
  have hemit := h.emit (.transmit apdu)
  obtain rfl := h
  simp only [Link.transmit]
  unfold Link.emit at *
  split
  · rw [hemit]
    rfl
  · exact hemit

theorem sendInformation (h : Alike before l l') (now : Nat) (octets : Octets) :
    Alike before (l.sendInformation now octets) (l'.sendInformation now octets) := by
  obtain rfl := h
  -- Links that are alike stay so by `rfl` when the same fields of both are set.
  exact .superviseOldest (.transmit rfl ..)

theorem sendSupervisory (h : Alike before l l') (now : Nat) :
    Alike before (l.sendSupervisory now) (l'.sendSupervisory now) := by
  obtain rfl := h
  exact .transmit rfl ..

theorem enterStarted (h : Alike before l l') (now : Nat) :
    Alike before (l.enterStarted now) (l'.enterStarted now) := by
  obtain rfl := h
  exact .emit rfl _

theorem enterStopped (h : Alike before l l') : Alike before l.enterStopped l'.enterStopped := by
  obtain rfl := h
  exact .emit (.wakeSenders rfl) _

theorem close (h : Alike before l l') (cause : Fault) :
    Alike before (l.close cause) (l'.close cause) := by
  obtain rfl := h
  simp only [Link.close]
  split
  · rfl
  · exact .wakeSenders (.emit (.finishAll rfl ..) _)

/-! ### Frames of the other station -/

theorem applyAcknowledgment (h : Alike before l l') (number : UInt16) :
    (∃ cause, l.applyAcknowledgment number = .error cause ∧
        l'.applyAcknowledgment number = .error cause) ∨
      ∃ a a', l.applyAcknowledgment number = .ok a ∧ l'.applyAcknowledgment number = .ok a' ∧
        Alike before a a' := by
  obtain rfl := h
  simp only [Link.applyAcknowledgment]
  cases l.window.acknowledge number with
  | error cause => exact .inl ⟨cause, rfl, rfl⟩
  | ok result =>
    refine .inr ⟨_, _, rfl, rfl, ?_⟩
    split
    · rfl
    · exact .wakeSenders (.superviseOldest rfl)

theorem handOver (h : Alike before l l') (asdu : Asdu) :
    Alike before (l.handOver asdu) (l'.handOver asdu) := by
  obtain rfl := h
  simp only [Link.handOver]
  split
  · simp only [Link.confirm]
    split
    · exact .emit rfl _
    · rfl
  · exact .emit rfl _

theorem handleInformation (h : Alike before l l') (now : Nat) (send receive : UInt16)
    (octets? : Option Octets) :
    Alike before (l.handleInformation now send receive octets?)
      (l'.handleInformation now send receive octets?) := by
  have hstate : l'.state = l.state := by rw [h]
  simp only [Link.handleInformation, hstate]
  split
  · exact h.close _
  · obtain ⟨cause, hl, hl'⟩ | ⟨a, a', hl, hl', h⟩ := h.applyAcknowledgment receive
    · rw [hl, hl']
      exact h.close _
    · rw [hl, hl']
      obtain rfl := h
      simp only
      split
      · exact .close rfl _
      · split
        · exact .close rfl _
        · simp only [Link.format]
          split
          · exact .close rfl _
          · split
            · exact .handOver (.sendSupervisory rfl _) _
            · exact .handOver rfl _

theorem handleSupervisory (h : Alike before l l') (receive : UInt16) :
    Alike before (l.handleSupervisory receive) (l'.handleSupervisory receive) := by
  have hstate : l'.state = l.state := by rw [h]
  simp only [Link.handleSupervisory, hstate]
  split
  · exact h.close _
  · obtain ⟨cause, hl, hl'⟩ | ⟨a, a', hl, hl', h'⟩ := h.applyAcknowledgment receive
    · rw [hl, hl']
      exact h.close _
    · rw [hl, hl']
      exact h'

theorem handleUnnumbered (h : Alike before l l') (now : Nat) (function : LinkFunction) :
    Alike before (l.handleUnnumbered now function) (l'.handleUnnumbered now function) := by
  cases function with
  | testAct => exact h.transmit ..
  | testCon =>
    obtain rfl := h
    simp only [Link.handleUnnumbered]
    split
    · exact .superviseOldest rfl
    · exact .close rfl _
  | startAct =>
    obtain rfl := h
    simp only [Link.handleUnnumbered]
    split
    · exact .transmit rfl ..
    · split
      · exact .emit (.enterStarted (.transmit rfl ..) _) _
      · rfl
  | startCon =>
    obtain rfl := h
    simp only [Link.handleUnnumbered]
    split
    · split
      · exact .emit (.enterStarted rfl _) _
      · exact .close rfl _
    · exact .close rfl _
  | stopAct =>
    have howed : Alike before (if 0 < l.window.unacknowledged then l.sendSupervisory now else l)
        (if 0 < l'.window.unacknowledged then l'.sendSupervisory now else l') := by
      obtain rfl := h
      simp only
      split
      · exact .sendSupervisory rfl _
      · rfl
    have hsent := howed.transmit now (.unnumbered .stopCon)
    simp only [Link.handleUnnumbered]
    generalize Link.transmit _ now (.unnumbered .stopCon) = sent at hsent ⊢
    generalize Link.transmit _ now (.unnumbered .stopCon) = sent' at hsent ⊢
    obtain rfl := hsent
    simp only
    split
    · exact .enterStopped rfl
    · rfl
  | stopCon =>
    obtain rfl := h
    simp only [Link.handleUnnumbered]
    split
    · split
      · exact .emit (.superviseOldest (.enterStopped rfl)) _
      · exact .close rfl _
    · exact .close rfl _

theorem handleFrame (h : Alike before l l') (now : Nat) (apdu : Apdu) :
    Alike before (l.handleFrame now apdu) (l'.handleFrame now apdu) := by
  obtain rfl := h
  simp only [Link.handleFrame]
  split
  · rfl
  · split
    · refine .handleInformation ?_ ..
      split <;> rfl
    · refine .handleSupervisory ?_ _
      split <;> rfl
    · refine .handleUnnumbered ?_ ..
      split <;> rfl

/-! ### Timers -/

theorem handleExpired (h : Alike before l l') (now : Nat) (expired : List Timer) :
    Alike before (l.handleExpired now expired) (l'.handleExpired now expired) := by
  induction expired generalizing l l' with
  | nil => exact h
  | cons timer rest ih =>
    obtain rfl := h
    cases timer with
    | t1 => exact .close rfl _
    | t2 =>
      refine ih ?_
      simp only
      split
      · exact .sendSupervisory rfl _
      · rfl
    | t3 =>
      refine ih ?_
      simp only
      split
      · exact .superviseOldest (.transmit rfl ..)
      · rfl

theorem handleTimers (h : Alike before l l') (now : Nat) :
    Alike before (l.handleTimers now) (l'.handleTimers now) := by
  obtain rfl := h
  simp only [Link.handleTimers]
  split
  · rfl
  · exact .handleExpired rfl ..

/-! ### Calls -/

theorem handshakeFault?_eq (h : Alike before l l') : l'.handshakeFault? = l.handshakeFault? := by
  rw [h]
  rfl

theorem beginHandshake (h : Alike before l l') (now : Nat) (call : CallId)
    (function : LinkFunction) (deadline? : Option Nat) :
    Alike before (l.beginHandshake now call function deadline?)
      (l'.beginHandshake now call function deadline?) := by
  obtain rfl := h
  simp only [Link.beginHandshake]
  split
  · exact .superviseOldest (.transmit rfl ..)
  · exact .transmit rfl ..

theorem start (h : Alike before l l') (now : Nat) (call : CallId) (listener : ListenerId)
    (timeout : Nat) :
    Alike before (l.start now call listener timeout) (l'.start now call listener timeout) := by
  simp only [Link.start, h.handshakeFault?_eq]
  split
  · exact h.emit _
  · have h := h.emit (.notify (.register listener))
    generalize l.emit _ = a at h ⊢
    generalize l'.emit _ = a' at h ⊢
    obtain rfl := h
    simp only
    split
    · exact .emit rfl _
    · exact .beginHandshake rfl ..

theorem awaitStart (h : Alike before l l') (now : Nat) (call : CallId) (listener : ListenerId)
    (timeout : Nat) :
    Alike before (l.awaitStart now call listener timeout)
      (l'.awaitStart now call listener timeout) := by
  have hwaiter : l'.startWaiter = l.startWaiter := by rw [h]
  simp only [Link.awaitStart, h.handshakeFault?_eq, hwaiter]
  split
  · exact h.emit _
  · split
    · exact h.emit _
    · have h := h.emit (.notify (.register listener))
      generalize l.emit _ = a at h ⊢
      generalize l'.emit _ = a' at h ⊢
      obtain rfl := h
      simp only
      split
      · exact .emit rfl _
      · split
        · exact .emit (.enterStarted (.transmit rfl ..) _) _
        · rfl

theorem stop (h : Alike before l l') (now : Nat) (call : CallId) :
    Alike before (l.stop now call) (l'.stop now call) := by
  have hstate : l'.state = l.state := by rw [h]
  simp only [Link.stop, h.handshakeFault?_eq, hstate]
  split
  · exact h.emit _
  · split
    · exact h.emit _
    · exact h.beginHandshake ..

theorem giveUp (h : Alike before l l') (call : CallId) (ticket? : Option Nat) (cause : Fault) :
    Alike before (l.giveUp call ticket? cause) (l'.giveUp call ticket? cause) := by
  obtain rfl := h
  exact .emit rfl _

theorem afterSending (h : Alike before l l') (now : Nat) (s : Sender) :
    Alike before (l.afterSending now s) (l'.afterSending now s) := by
  simp only [Link.afterSending]
  split
  · exact h.emit _
  · exact h.emit _
  · obtain rfl := h
    rfl

theorem attempt (h : Alike before l l') (now : Nat) (s : Sender) :
    Alike before (l.attempt now s) (l'.attempt now s) := by
  obtain rfl := h
  simp only [Link.attempt]
  split
  · exact .giveUp rfl ..
  · split
    · exact .giveUp rfl ..
    · split
      · rfl
      · exact .afterSending (.sendInformation rfl ..) ..

theorem sendUnit (h : Alike before l l') (now : Nat) (call : CallId) (ticket? : Option Nat)
    (asdu : Asdu) :
    Alike before (l.sendUnit now call ticket? asdu) (l'.sendUnit now call ticket? asdu) := by
  obtain rfl := h
  simp only [Link.sendUnit, Link.format]
  split
  · exact .giveUp rfl ..
  · split
    · exact .giveUp rfl ..
    · exact .attempt rfl ..

theorem handleCall (h : Alike before l l') (now : Nat) (call : CallId) (request : Request) :
    Alike before (l.handleCall now call request) (l'.handleCall now call request) := by
  cases request with
  | start => exact h.start ..
  | awaitStart => exact h.awaitStart ..
  | stop => exact h.stop ..
  | send => exact h.sendUnit ..
  | sendConfirmed =>
    obtain rfl := h
    exact .sendUnit rfl ..
  | awaitClose =>
    obtain rfl := h
    simp only [Link.handleCall, Link.awaitClose]
    split
    · exact .emit rfl _
    · rfl

theorem resume (h : Alike before l l') (now : Nat) (call : CallId) :
    Alike before (l.resume now call) (l'.resume now call) := by
  obtain rfl := h
  simp only [Link.resume]
  split
  · exact .attempt rfl ..
  · rfl

theorem expire (h : Alike before l l') (now : Nat) (call : CallId) :
    Alike before (l.expire now call) (l'.expire now call) := by
  have hoverdue : l'.handshakeOverdue now call = l.handshakeOverdue now call := by
    rw [h]
    rfl
  simp only [Link.expire, hoverdue]
  obtain rfl := h
  split
  · exact .close rfl _
  · simp only
    split
    · exact .giveUp rfl ..
    · rfl

theorem step (h : Alike before l l') (now : Nat) (input : LinkInput) :
    Alike before (l.step now input) (l'.step now input) := by
  cases input with
  | call => exact h.handleCall ..
  | resume => exact h.resume ..
  | expire => exact h.expire ..
  | timers => exact h.handleTimers _
  | frame => exact h.handleFrame ..
  | lost | close => exact h.close _

theorem run (h : Alike before l l') (inputs : List (Nat × LinkInput)) :
    Alike before (l.run inputs) (l'.run inputs) := by
  induction inputs generalizing l l' with
  | nil => exact h
  | cons input inputs ih => exact ih (h.step input.1 input.2)

end Alike

/-- A step takes back nothing of what the link has done before. -/
theorem log_step (l : Link) (now : Nat) (input : LinkInput) :
    l.log <+: (l.step now input).log := by
  rw [(alike_cleared l).step now input]
  exact List.prefix_append _ _

end Link

end Telecontrol
