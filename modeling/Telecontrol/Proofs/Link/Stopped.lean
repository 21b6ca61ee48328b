import Mathlib.Data.List.Infix
import Telecontrol.Proofs.Framer.Frame
import Telecontrol.Proofs.Link.Log
import Telecontrol.Proofs.Link.Transfer

/-!
# Numbered frames and the state of data transfer

While data transfer is stopped, only unnumbered frames may be sent. What a link does stands in its
log in the order in which it is done, and a step only adds to it (`Link.log_step`); so the state in
which a frame was sent can be read from the reports before it (`lastReported`), and
`NumberedWhileStarted` says of a log that each numbered frame was sent while data transfer was
started.

Information frames, and acknowledgments that are due or scheduled, are sent in that state only. The
acknowledgment that precedes the confirmation of the end of data transfer is sent in either: if this
station has stopped data transfer without acknowledging what it had received, and the other one asks
for the end once more, it leaves a link that is stopped (`Link.Oversteps`). Nothing else does
(`Link.numbered_while_started_iff`).
-/

namespace Telecontrol

namespace Link

/-! ### What is done in a step -/

@[simp] theorem log_transmit (l : Link) (now : Nat) (apdu : Apdu) :
    (l.transmit now apdu).log = l.log ++ [.transmit apdu] := by
  unfold transmit
  simp only
  split <;> rfl

theorem log_sendSupervisory (l : Link) (now : Nat) :
    (l.sendSupervisory now).log = l.log ++ [.transmit (.supervisory l.window.receive)] :=
  log_transmit ..

/-- The end of data transfer is confirmed after what is owed was acknowledged, and reported then. -/
theorem log_handleStop (l : Link) (now : Nat) :
    (l.handleUnnumbered now .stopAct).log = l.log ++
      ((if 0 < l.window.unacknowledged then [.transmit (.supervisory l.window.receive)] else []) ++
        .transmit (.unnumbered .stopCon) ::
          if l.state = .started then [.notify (.post (.stateChanged .stopped))] else []) := by
  simp only [handleUnnumbered]
  generalize howed : (if 0 < l.window.unacknowledged then l.sendSupervisory now else l) = owed
  have hlog : owed.log = l.log ++
      if 0 < l.window.unacknowledged then [.transmit (.supervisory l.window.receive)] else [] := by
    rw [← howed]
    split
    · exact log_sendSupervisory l now
    · exact (List.append_nil _).symm
  have hstate : (owed.transmit now (.unnumbered .stopCon)).state = l.state := by
    show (owed.transmit now (.unnumbered .stopCon)).transfer.state = l.transfer.state
    rw [transfer_transmit, ← howed]
    split
    · rw [transfer_sendSupervisory]
    · rfl
  rw [hstate, apply_ite Link.log, log_transmit, hlog]
  split
  · show (owed.transmit now (.unnumbered .stopCon)).log ++ _ = _
    rw [log_transmit, hlog]
    simp only [List.append_assoc, List.cons_append, List.nil_append]
  · simp only [List.append_assoc]

@[simp] theorem log_rearmIdle (l : Link) (now : Nat) : (l.rearmIdle now).log = l.log := by
  unfold rearmIdle
  split <;> rfl

end Link

/-! ### What the reports say -/

/-- The state that something a link does reports, if it reports one. -/
def Effect.change? (effect : Effect) : Option LinkState := effect.event?.bind LinkEvent.change?

/-- The state of data transfer that was reported last. -/
def lastReported (log : List Effect) : LinkState := (log.filterMap Effect.change?).getLastD .stopped

/-- Every numbered frame was sent while data transfer was started, as the reports before it say. -/
def NumberedWhileStarted (log : List Effect) : Prop :=
  ∀ before apdu after, log = before ++ .transmit apdu :: after → apdu.control.isNumbered = true →
    lastReported before = .started

theorem Link.changes_eq (l : Link) : l.changes = l.log.filterMap Effect.change? :=
  List.filterMap_filterMap ..

theorem lastReported_append (log : List Effect) {added : List Effect}
    (h : added.filterMap Effect.change? = []) : lastReported (log ++ added) = lastReported log := by
  rw [lastReported, List.filterMap_append, h, List.append_nil]
  rfl

theorem NumberedWhileStarted.of_append {log added : List Effect}
    (h : NumberedWhileStarted (log ++ added)) : NumberedWhileStarted log := by
  rintro before apdu after rfl hnumbered
  exact h before apdu (after ++ added) (by simp) hnumbered

/-- What is added to a log is looked at from where the log ends. -/
theorem NumberedWhileStarted.append {log added : List Effect} (h : NumberedWhileStarted log)
    (hadded : ∀ before apdu after, added = before ++ .transmit apdu :: after →
      apdu.control.isNumbered = true → lastReported (log ++ before) = .started) :
    NumberedWhileStarted (log ++ added) := by
  intro before apdu after heq hnumbered
  rcases List.append_eq_append_iff.mp heq with ⟨rest, rfl, hrest⟩ | ⟨rest, hlog, hrest⟩
  · exact hadded rest apdu after hrest hnumbered
  · cases rest with
    | nil =>
      rw [List.append_nil] at hlog
      subst hlog
      simpa using hadded [] apdu after hrest.symm hnumbered
    | cons first rest =>
      obtain ⟨rfl, rfl⟩ := List.cons.inj hrest
      exact h before _ rest hlog hnumbered

/-! ### When numbered frames are sent -/

namespace Endpoint

variable {e e' : Endpoint} {now : Nat} {input : LinkInput} {apdu : Apdu}

/-- No acknowledgment is scheduled while data transfer is stopped. -/
def Idle (e : Endpoint) : Prop := e.state = .stopped → e.scheduled = false

/-- At the station itself, numbered frames are sent while data transfer is started, and stays so:
an acknowledgment is scheduled only then. -/
theorem Act.numbered (h : e.Act now input e') (hidle : e.Idle) :
    ∃ frames, e'.frames = e.frames ++ frames ∧
      ((∀ sent ∈ frames, sent.control.isNumbered = false) ∨
        e.state = .started ∧ e'.state = .started) := by
  cases h with
  | silent | closes => exact ⟨[], (List.append_nil _).symm, .inl nofun⟩
  | sends _ hstate => exact ⟨_, rfl, .inr ⟨hstate, hstate⟩⟩
  | asksStart | asksStop | confirmsStart =>
    exact ⟨[.unnumbered _], rfl, .inl (List.forall_mem_singleton.mpr rfl)⟩
  | passes _ howed htested =>
    cases howed with
    | waits | lapses =>
      cases htested with
      | waits => exact ⟨[], (List.append_nil _).symm, .inl nofun⟩
      | tests => exact ⟨[.unnumbered _], rfl, .inl (List.forall_mem_singleton.mpr rfl)⟩
    | acknowledges hscheduled =>
      have hstate : e.state = .started := by
        by_contra hstate
        cases hscheduled.symm.trans (hidle (LinkState.eq_stopped_of_ne hstate))
      cases htested with
      | waits => exact ⟨_, rfl, .inr ⟨hstate, hstate⟩⟩
      | tests => exact ⟨_, List.append_assoc .., .inr ⟨hstate, hstate⟩⟩

/-- A numbered frame answers a numbered one, while data transfer is started, or the activation that
stops it. -/
theorem Receive.numbered (h : e.Receive apdu e') :
    ∃ frames, e'.frames = e.frames ++ frames ∧
      ((∀ sent ∈ frames, sent.control.isNumbered = false) ∨
        (apdu.control.isNumbered = true ∧ e.state = .started ∧ e'.state = .started) ∨
        apdu.control = .unnumbered .stopAct) := by
  cases h with
  | informationDue hstate => exact ⟨_, rfl, .inr (.inl ⟨rfl, hstate, hstate⟩)⟩
  | test | startedAlready | startedByOther =>
    exact ⟨[.unnumbered _], rfl, .inl (List.forall_mem_singleton.mpr rfl)⟩
  | stoppedByOther _ howed | stoppedAlready _ howed =>
    subst howed
    split
    · exact ⟨_, List.append_assoc .., .inr (.inr rfl)⟩
    · exact ⟨_, rfl, .inr (.inr rfl)⟩
  | _ => exact ⟨[], (List.append_nil _).symm, .inl nofun⟩

theorem Act.idle (h : e.Act now input e') (hidle : e.Idle) : e'.Idle := by
  cases h with
  | silent | asksStart | asksStop => exact hidle
  | closes | sends => exact fun _ => rfl
  | confirmsStart => exact nofun
  | passes _ howed htested =>
    cases howed <;> cases htested
    · exact hidle
    · exact hidle
    all_goals exact fun _ => rfl

theorem Receive.idle (h : e.Receive apdu e') (hidle : e.Idle) : e'.Idle := by
  cases h with
  | supervisory | test | tested | startedAlready | startRequested => exact hidle
  | information hstate => exact fun hstopped => by cases hstate.symm.trans hstopped
  | startedByOther | startConfirmed => exact nofun
  | stoppedAlready _ howed =>
    subst howed
    split
    · exact fun _ => rfl
    · exact hidle
  | _ => exact fun _ => rfl

end Endpoint

namespace Link

/-- The other station asks for the end of data transfer, which is stopped, while frames that were
received before are not acknowledged. -/
def Oversteps (l : Link) (input : LinkInput) : Prop :=
  l.closed = none ∧ l.state = .stopped ∧ 0 < l.window.unacknowledged ∧
    input.receives .stopAct = true

instance (l : Link) (input : LinkInput) : Decidable (l.Oversteps input) :=
  inferInstanceAs (Decidable (_ ∧ _))

variable {l : Link} {now : Nat} {input : LinkInput}

theorem idle_step (h : l.endpoint.Idle) : (l.step now input).endpoint.Idle := by
  rcases l.step_cases now input with ⟨-, hact⟩ | ⟨apdu, -, -, hreceive⟩ | ⟨apdu, -, -, heq⟩
  · exact hact.idle h
  · exact hreceive.idle h
  · rwa [heq]

/-- Unless the other station asks for the end of data transfer, a step that sends a numbered frame
finds data transfer started, and reports no change. -/
theorem changes_of_numbered (hidle : l.endpoint.Idle) (hstop : input.receives .stopAct = false)
    {frames : List Apdu}
    (hframes : (l.step now input).endpoint.frames = l.endpoint.frames ++ frames)
    {sent : Apdu} (hsent : sent ∈ frames) (hnumbered : sent.control.isNumbered = true) :
    l.state = .started ∧ (l.step now input).changes = l.changes := by
  have hfound {frames' : List Apdu}
      (h : (l.step now input).endpoint.frames = l.endpoint.frames ++ frames') :
      ¬∀ sent ∈ frames', sent.control.isNumbered = false := by
    intro hnone
    rw [← List.append_cancel_left (hframes.symm.trans h)] at hnone
    cases hnumbered.symm.trans (hnone sent hsent)
  have hmove := l.transfer_step now input
  show _ ∧ (l.step now input).transfer.changes = l.transfer.changes
  rcases l.step_cases now input with
    ⟨hinput, hact⟩ | ⟨apdu, rfl, -, hreceive⟩ | ⟨apdu, rfl, -, heq⟩
  · obtain ⟨frames', hframes', hnone | ⟨hstate, -⟩⟩ := hact.numbered hidle
    · exact absurd hnone (hfound hframes')
    · refine ⟨hstate, ?_⟩
      have hconfirms := LinkInput.confirms_of_not_frame hinput
      revert hmove
      generalize (l.step now input).transfer = t
      intro hmove
      cases hmove with
      | stays | closes | asksStart | asksStop | awaitsStart => rfl
      | grantsStart _ hstopped => cases hstate.symm.trans hstopped
      | startedByOther | stoppedByOther => exact absurd rfl (hinput _)
      | confirmed goal _ _ _ hconfirmed => cases (hconfirms _).symm.trans hconfirmed
  · obtain ⟨frames', hframes', hnone | ⟨hcontrol, hstate, hstarted⟩ | hcontrol⟩ := hreceive.numbered
    · exact absurd hnone (hfound hframes')
    · refine ⟨hstate, ?_⟩
      have hstarted : (l.step now (.frame apdu)).transfer.state = .started := hstarted
      revert hmove hstarted
      generalize (l.step now (.frame apdu)).transfer = t
      intro hmove hstarted
      cases hmove with
      | stays | closes => rfl
      | startedByOther _ hstopped => cases hstate.symm.trans hstopped
      | stoppedByOther => cases hstarted
      | confirmed goal _ _ _ hconfirmed =>
        obtain ⟨_, ⟨⟩, hconfirmed⟩ := LinkInput.confirms_iff.mp hconfirmed
        rw [hconfirmed] at hcontrol
        cases hcontrol
    · cases hstop.symm.trans (LinkInput.receives_iff.mpr ⟨apdu, rfl, hcontrol⟩)
  · have hframes : l.endpoint.frames = l.endpoint.frames ++ frames := by
      rw [← hframes, heq]
    rw [List.self_eq_append_right.mp hframes] at hsent
    cases hsent

/-- The log after the end of data transfer is asked for. -/
theorem log_of_receives_stopAct (hopen : l.closed = none)
    (hreceives : input.receives .stopAct = true) :
    (l.step now input).log = l.log ++
      ((if 0 < l.window.unacknowledged then [.transmit (.supervisory l.window.receive)] else []) ++
        .transmit (.unnumbered .stopCon) ::
          if l.state = .started then [.notify (.post (.stateChanged .stopped))] else []) := by
  obtain ⟨apdu, rfl, hcontrol⟩ := LinkInput.receives_iff.mp hreceives
  have hsame := endpoint_rearmIdle l now
  have hwindow : (l.rearmIdle now).window = l.window := congrArg Endpoint.window hsame
  have hstate : (l.rearmIdle now).state = l.state := congrArg Endpoint.state hsame
  rw [step, handleFrame_of_open now hopen, hcontrol]
  simp only
  rw [log_handleStop, log_rearmIdle, hwindow, hstate]

/-- If the other station asks for the end of data transfer, what is owed is acknowledged whatever
the state is. -/
theorem numbered_of_receives_stopAct (hlast : lastReported l.log = l.state)
    (hopen : l.closed = none) (hreceives : input.receives .stopAct = true) :
    NumberedWhileStarted (l.step now input).log ↔
      NumberedWhileStarted l.log ∧ ¬l.Oversteps input := by
  rw [log_of_receives_stopAct hopen hreceives]
  refine ⟨fun h => ⟨h.of_append, ?_⟩, fun ⟨h, hkeeps⟩ => h.append ?_⟩
  · rintro ⟨-, hstopped, howed, -⟩
    rw [if_pos howed] at h
    have hstarted := h l.log (.supervisory l.window.receive) _ rfl rfl
    cases hstopped.symm.trans (hlast.symm.trans hstarted)
  · intro before apdu after heq hnumbered
    -- The confirmation and the report that follow the acknowledgment are not numbered.
    have hrest : ∀ rest, .transmit (.unnumbered .stopCon) ::
        (if l.state = .started then [.notify (.post (.stateChanged .stopped))] else []) ≠
          rest ++ Effect.transmit apdu :: after := by
      intro rest heq
      have hmem : Effect.transmit apdu ∈ rest ++ Effect.transmit apdu :: after := by simp
      rw [← heq] at hmem
      have hcontrol : apdu = .unnumbered .stopCon := by
        rcases List.mem_cons.mp hmem with hmem | hmem
        · exact Effect.transmit.inj hmem
        · split at hmem <;> simp at hmem
      rw [hcontrol] at hnumbered
      cases hnumbered
    split at heq
    · next howed =>
      cases before with
      | nil =>
        rw [List.append_nil, hlast]
        exact LinkState.eq_started_of_ne fun hstopped => hkeeps ⟨hopen, hstopped, howed, hreceives⟩
      | cons first rest => exact absurd (List.cons.inj heq).2 (hrest rest)
    · exact absurd heq (hrest before)

/-- Otherwise only frames are answered that may be. -/
theorem numbered_of_not_receives_stopAct (hlast : lastReported l.log = l.state)
    (hidle : l.endpoint.Idle) (hreceives : input.receives .stopAct = false) :
    NumberedWhileStarted (l.step now input).log ↔ NumberedWhileStarted l.log := by
  obtain ⟨added, hadded⟩ := l.log_step now input
  have hframes : (l.step now input).endpoint.frames =
      l.endpoint.frames ++ added.filterMap Effect.frame? := by
    show (l.step now input).log.filterMap _ = _
    rw [← hadded, List.filterMap_append]
    rfl
  rw [← hadded]
  refine ⟨NumberedWhileStarted.of_append, fun h => h.append ?_⟩
  rintro before apdu after rfl hnumbered
  have hsent : apdu ∈ (before ++ .transmit apdu :: after).filterMap Effect.frame? := by
    simp [Effect.frame?]
  obtain ⟨hstarted, hsame⟩ := changes_of_numbered hidle hreceives hframes hsent hnumbered
  rw [changes_eq, changes_eq, ← hadded, List.filterMap_append, List.append_right_eq_self,
    List.filterMap_append, List.append_eq_nil_iff] at hsame
  rw [lastReported_append l.log hsame.1, hlast, hstarted]

/-- A step sends numbered frames only while data transfer is started, exactly if it does not
overstep. -/
theorem numbered_step_iff (now : Nat) (hsound : l.transfer.Sound) (hidle : l.endpoint.Idle) :
    NumberedWhileStarted (l.step now input).log ↔
      NumberedWhileStarted l.log ∧ ¬l.Oversteps input := by
  have hlast : lastReported l.log = l.state := by
    rw [lastReported, ← changes_eq]
    exact hsound.reported
  cases hreceives : input.receives .stopAct with
  | false =>
    have hkeeps : ¬l.Oversteps input := fun ⟨_, _, _, h⟩ => by cases hreceives.symm.trans h
    rw [numbered_of_not_receives_stopAct hlast hidle hreceives, and_iff_left hkeeps]
  | true =>
    by_cases hopen : l.closed = none
    · exact numbered_of_receives_stopAct hlast hopen hreceives
    · have hkeeps : ¬l.Oversteps input := fun h => hopen h.1
      rw [and_iff_left hkeeps]
      obtain ⟨apdu, rfl, -⟩ := LinkInput.receives_iff.mp hreceives
      rw [step, handleFrame_of_closed now hopen]

theorem numbered_run_iff (hsound : l.transfer.Sound) (hidle : l.endpoint.Idle)
    (inputs : List (Nat × LinkInput)) :
    NumberedWhileStarted (l.run inputs).log ↔
      NumberedWhileStarted l.log ∧ l.Throughout (fun l _ input => ¬l.Oversteps input) inputs := by
  induction inputs generalizing l with
  | nil => exact (and_iff_left trivial).symm
  | cons input inputs ih =>
    rw [run_cons, ih ((l.transfer_step input.1 input.2).sound hsound) (idle_step hidle),
      numbered_step_iff input.1 hsound hidle, and_assoc]
    rfl

/-- Whatever the calls and the other station do, the state that was reported last is the state of
data transfer, and numbered frames are sent only while it is started, exactly if the other station
never asks for the end of data transfer that is stopped while frames are not acknowledged that were
received before. -/
theorem numbered_while_started_iff (settings : Settings) (extension : Option Extension)
    (inputs : List (Nat × LinkInput)) :
    let l := (new settings extension).run inputs
    lastReported l.log = l.state ∧
      (NumberedWhileStarted l.log ↔
        (new settings extension).Throughout (fun l _ input => ¬l.Oversteps input) inputs) := by
  have hsound := transfer_new settings extension
  have hnew : NumberedWhileStarted (new settings extension).log := by
    intro before apdu after heq
    cases before <;> cases heq
  refine ⟨?_, (numbered_run_iff hsound (fun _ => rfl) inputs).trans (and_iff_right hnew)⟩
  rw [lastReported, ← changes_eq]
  exact (transfer_run hsound inputs).reported

/-- A unit is received and not acknowledged when this station stops data transfer; then the other
one asks for the end, too. -/
def stoppedTwice : List (Nat × LinkInput) :=
  [(0, .call 0 (.start 0 9)), (1, .frame (.unnumbered .startCon)),
    (2, .frame (.information 0 0 [100, 1, 6, 0, 1, 0, 0, 0, 0, 20])), (3, .call 1 .stop),
    (4, .frame (.unnumbered .stopCon)), (5, .frame (.unnumbered .stopAct))]

/-- The unit is acknowledged after data transfer was stopped. -/
theorem acknowledged_while_stopped :
    let l := (new {} none).run stoppedTwice
    l.closed = none ∧
      l.log.drop 8 = [.transmit (.supervisory 1), .transmit (.unnumbered .stopCon)] ∧
      lastReported (l.log.take 8) = .stopped ∧ ¬NumberedWhileStarted l.log := by
  intro l
  have hlog : l.log =
      l.log.take 8 ++ [.transmit (.supervisory 1), .transmit (.unnumbered .stopCon)] := rfl
  refine ⟨rfl, rfl, rfl, fun h => ?_⟩
  cases h _ _ _ hlog rfl

end Link

end Telecontrol
