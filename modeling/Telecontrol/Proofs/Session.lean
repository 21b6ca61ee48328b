import Telecontrol.Proofs.Link.Journal
import Telecontrol.Proofs.Link.Log
import Telecontrol.Proofs.Link.Record
import Telecontrol.Proofs.Mailbox
import Telecontrol.Session

/-!
# The link of a session is a run

A session takes the effects out of the log of its link after every step. That makes no difference to
the steps that follow, for a link does not look at its log (`Link.Alike.run`). So whatever a session
goes through is a run of its link, at the instants of its clock, and what it shows is what the link
does in that run (`Session.Course`); each part of an action adds to the run (`Session.Reaches`).

Altogether, the link of a session is what a run of the new link leads to, in which time does not go
back and an action makes at most the one call that has its identity; and the reports show what is in
the log of that run (`Session.link_is_run`). What holds after every such run of a link holds of
sessions.
-/

namespace Telecontrol

/-- The message that a link puts into the mailbox, if it does. -/
def Effect.message? : Effect → Option Message
  | notify message => some message
  | _ => none

namespace Session

/-- A session shows what its link has done. -/
structure Shows (s : Session) (done : List Effect) (s' : Session) : Prop where
  frames : s'.report.frames = s.report.frames ++ done.filterMap Effect.frame?
  returned : s'.report.returned = s.report.returned ++ done.filterMap Effect.return?
  mailbox : s'.mailbox = (s.mailbox.run (done.filterMap Effect.message?)).1
  deliveries : s'.report.deliveries =
    s.report.deliveries ++ (s.mailbox.run (done.filterMap Effect.message?)).2

/-- A session comes from one state to another by steps of its link, in which it does something. -/
structure Course (s : Session) (inputs : List (Nat × LinkInput)) (done : List Effect)
    (s' : Session) : Prop where
  run : s.link.run inputs = { s'.link with log := done }
  cleared : s'.link.log = []
  chronological : Chronological inputs
  elapsed : s.clock ≤ s'.clock
  within : ∀ input ∈ inputs, s.clock ≤ input.1 ∧ input.1 ≤ s'.clock

/-- A session comes from one state to another by steps of its link that make the given calls, and
shows what is done in them. -/
def Reaches (s : Session) (calls : List CallId) (s' : Session) : Prop :=
  ∃ inputs done, callsMade inputs = calls ∧ s.Course inputs done s' ∧ s.Shows done s'

variable {s s' s'' : Session} {inputs inputs' : List (Nat × LinkInput)}
  {done done' : List Effect} {calls calls' : List CallId}

/-! ### One after the other -/

theorem Shows.of_eq (hreport : s'.report = s.report) (hmailbox : s'.mailbox = s.mailbox) :
    s.Shows [] s' := by
  refine ⟨?_, ?_, hmailbox, ?_⟩ <;> rw [hreport] <;> exact (List.append_nil _).symm

theorem Shows.trans (h : s.Shows done s') (h' : s'.Shows done' s'') :
    s.Shows (done ++ done') s'' := by
  have hrun := s.mailbox.run_append (done.filterMap Effect.message?)
    (done'.filterMap Effect.message?)
  rw [← List.filterMap_append, ← h.mailbox] at hrun
  constructor
  · rw [h'.frames, h.frames, List.filterMap_append, List.append_assoc]
  · rw [h'.returned, h.returned, List.filterMap_append, List.append_assoc]
  · rw [h'.mailbox, hrun]
  · rw [h'.deliveries, h.deliveries, hrun, List.append_assoc]

/-- The clock may go on by itself. -/
theorem Course.of_eq (hcleared : s.link.log = []) (hlink : s'.link = s.link)
    (hclock : s.clock ≤ s'.clock) : s.Course [] [] s' where
  run := by
    rw [hlink, ← hcleared]
    rfl
  cleared := by rw [hlink, hcleared]
  chronological := .nil
  elapsed := hclock
  within := by simp

theorem Course.trans (h : s.Course inputs done s') (h' : s'.Course inputs' done' s'') :
    s.Course (inputs ++ inputs') (done ++ done') s'' where
  run := by
    have halike : Link.Alike done s'.link { s'.link with log := done } := by
      rw [Link.Alike, h.cleared, List.append_nil]
    rw [Link.run_append, h.run, halike.run inputs', h'.run]
  cleared := h'.cleared
  chronological := by
    refine List.pairwise_append.mpr ⟨h.chronological, h'.chronological, fun a ha b hb => ?_⟩
    exact Nat.le_trans (h.within a ha).2 (h'.within b hb).1
  elapsed := Nat.le_trans h.elapsed h'.elapsed
  within := by
    have helapsed := h.elapsed
    have helapsed' := h'.elapsed
    intro input hinput
    rcases List.mem_append.mp hinput with hinput | hinput
    · have hwithin := h.within input hinput
      omega
    · have hwithin := h'.within input hinput
      omega

namespace Reaches

theorem cleared (h : s.Reaches calls s') : s'.link.log = [] := by
  obtain ⟨_, _, _, h, _⟩ := h
  exact h.cleared

theorem trans (h : s.Reaches calls s') (h' : s'.Reaches calls' s'') :
    s.Reaches (calls ++ calls') s'' := by
  obtain ⟨inputs, done, rfl, h, hshows⟩ := h
  obtain ⟨inputs', done', rfl, h', hshows'⟩ := h'
  exact ⟨inputs ++ inputs', done ++ done', callsMade_append .., h.trans h', hshows.trans hshows'⟩

/-- What the link does not notice. -/
theorem of_eq (hcleared : s.link.log = []) (hlink : s'.link = s.link)
    (hclock : s.clock ≤ s'.clock) (hreport : s'.report = s.report)
    (hmailbox : s'.mailbox = s.mailbox) : s.Reaches [] s' :=
  ⟨[], [], rfl, .of_eq hcleared hlink hclock, .of_eq hreport hmailbox⟩

theorem refl (hcleared : s.link.log = []) : s.Reaches [] s :=
  of_eq hcleared rfl (Nat.le_refl _) rfl rfl

/-- One thing after the other, if none of them makes a call. -/
theorem foldl {α : Type} {f : Session → α → Session}
    (hf : ∀ (s : Session) (x : α), s.Reaches [] (f s x)) (xs : List α)
    (hcleared : s.link.log = []) : s.Reaches [] (xs.foldl f s) := by
  induction xs generalizing s with
  | nil => exact refl hcleared
  | cons x xs ih => exact (hf s x).trans (ih (hf s x).cleared)

end Reaches

/-! ### One step -/

theorem shows_carryOut (s : Session) (effect : Effect) :
    s.Shows [effect] (s.carryOut effect) := by
  cases effect with
  | transmit apdu => exact ⟨rfl, (List.append_nil _).symm, rfl, (List.append_nil _).symm⟩
  | finish call reply => exact ⟨(List.append_nil _).symm, rfl, rfl, (List.append_nil _).symm⟩
  | notify message =>
    refine ⟨(List.append_nil _).symm, (List.append_nil _).symm, rfl, ?_⟩
    show _ = s.report.deliveries ++ ((s.mailbox.handle message).2 ++ [])
    rw [List.append_nil]
    rfl

theorem link_carryOut (s : Session) (effect : Effect) : (s.carryOut effect).link = s.link := by
  cases effect <;> rfl

theorem clock_carryOut (s : Session) (effect : Effect) : (s.carryOut effect).clock = s.clock := by
  cases effect <;> rfl

/-- Carrying out what a link has done leaves the link as it is. -/
theorem foldl_carryOut (s : Session) (done : List Effect) :
    s.Shows done (done.foldl carryOut s) ∧
      (done.foldl carryOut s).link = s.link ∧ (done.foldl carryOut s).clock = s.clock := by
  induction done generalizing s with
  | nil => exact ⟨.of_eq rfl rfl, rfl, rfl⟩
  | cons effect done ih =>
    obtain ⟨hshows, hlink, hclock⟩ := ih (s.carryOut effect)
    exact ⟨(s.shows_carryOut effect).trans hshows, hlink.trans (s.link_carryOut effect),
      hclock.trans (s.clock_carryOut effect)⟩

@[simp] theorem clock_input (s : Session) (input : LinkInput) :
    (s.input input).clock = s.clock :=
  (foldl_carryOut ..).2.2

theorem reaches_input (s : Session) (input : LinkInput) :
    s.Reaches input.call?.toList (s.input input) := by
  obtain ⟨hshows, hlink, hclock⟩ := foldl_carryOut
    { s with link := { s.link.step s.clock input with log := [] } } (s.link.step s.clock input).log
  refine ⟨[(s.clock, input)], _, by cases input <;> rfl,
    ⟨?_, congrArg Link.log hlink, List.pairwise_singleton .., Nat.le_of_eq hclock.symm, ?_⟩,
    ⟨hshows.frames, hshows.returned, hshows.mailbox, hshows.deliveries⟩⟩
  · exact (congrArg (fun l : Link => { l with log := (s.link.step s.clock input).log }) hlink).symm
  · exact List.forall_mem_singleton.mpr ⟨Nat.le_refl _, Nat.le_of_eq hclock.symm⟩

/-! ### What follows at the same instant -/

theorem clock_foldl {α : Type} {f : Session → α → Session}
    (hf : ∀ (s : Session) (x : α), (f s x).clock = s.clock) (xs : List α) (s : Session) :
    (xs.foldl f s).clock = s.clock := by
  induction xs generalizing s with
  | nil => rfl
  | cons x xs ih => exact (ih _).trans (hf s x)

@[simp] theorem clock_resumeSenders (s : Session) : s.resumeSenders.clock = s.clock :=
  clock_foldl (fun s _ => s.clock_input _) _ s

@[simp] theorem clock_settle (s : Session) : s.settle.clock = s.clock := by
  simp only [settle, fireDeadlines, clock_resumeSenders,
    clock_foldl (fun s call => s.clock_input (.expire call)), clock_input]

theorem reaches_resumeSenders (hcleared : s.link.log = []) : s.Reaches [] s.resumeSenders := by
  refine .foldl (fun s sender => ?_) _ hcleared
  exact s.reaches_input (.resume sender.call)

theorem reaches_settle (hcleared : s.link.log = []) : s.Reaches [] s.settle := by
  have hresumed := reaches_resumeSenders hcleared
  have hfired := s.resumeSenders.reaches_input .timers
  have hexpired := Reaches.foldl (fun s call => s.reaches_input (.expire call))
    (s.resumeSenders.input .timers).dueCalls hfired.cleared
  exact hresumed.trans (hfired.trans (hexpired.trans (reaches_resumeSenders hexpired.cleared)))

/-! ### Actions -/

/-- Time passes by steps at the instants at which the clock stops. -/
theorem reaches_runClock {target : Nat} (stops : Nat) (hclock : s.clock ≤ target)
    (hcleared : s.link.log = []) : s.Reaches [] (s.runClock target stops) := by
  induction stops generalizing s with
  | zero => exact .of_eq hcleared rfl hclock rfl rfl
  | succ stops ih =>
    rw [runClock]
    split
    · next deadline _ =>
      simp only
      split
      · next hstop =>
        have hmoved : s.Reaches [] { s with clock := max s.clock (tickFrom deadline) } :=
          .of_eq hcleared rfl (Nat.le_max_left ..) rfl rfl
        have hsettled := hmoved.trans (reaches_settle hmoved.cleared)
        exact hsettled.trans (ih (by rwa [clock_settle]) hsettled.cleared)
      · exact .of_eq hcleared rfl hclock rfl rfl
    · exact .of_eq hcleared rfl hclock rfl rfl

theorem reaches_receive (hcleared : s.link.log = []) (octets : Octets) :
    s.Reaches [] (s.receive octets) := by
  unfold receive
  split
  · exact .refl hcleared
  · generalize (s.framer.feed octets).drain = reading
    have hframed : s.Reaches [] { s with framer := reading.rest } :=
      .of_eq hcleared rfl (Nat.le_refl _) rfl rfl
    have hread := hframed.trans
      (.foldl (fun s apdu => s.reaches_input (.frame apdu)) reading.frames hframed.cleared)
    simp only
    split
    · next cause _ => exact hread.trans (reaches_input _ (.lost cause))
    · exact hread

theorem reaches_endStream (hcleared : s.link.log = []) : s.Reaches [] s.endStream := by
  unfold endStream
  split
  · exact .refl hcleared
  · have hended : s.Reaches [] { s with ended := true } :=
      .of_eq hcleared rfl (Nat.le_refl _) rfl rfl
    simp only
    split
    · next cause _ => exact hended.trans (reaches_input _ (.lost cause))
    · exact hended.trans (reaches_input _ (.lost .endOfStream))

/-- An action makes at most one call. -/
theorem reaches_act (hcleared : s.link.log = []) (call : CallId) (action : Action) :
    ∃ calls, calls.Sublist [call] ∧ s.Reaches calls (s.act call action) := by
  cases action with
  | receive octets => exact ⟨[], List.nil_sublist _, reaches_receive hcleared octets⟩
  | endStream => exact ⟨[], List.nil_sublist _, reaches_endStream hcleared⟩
  | sleep duration =>
    exact ⟨[], List.nil_sublist _, reaches_runClock _ (Nat.le_add_right ..) hcleared⟩
  | close => exact ⟨[], List.nil_sublist _, s.reaches_input .close⟩
  | call request => exact ⟨[call], .refl _, s.reaches_input (.call call request)⟩
  | command => exact ⟨[call], .refl _, s.reaches_input (.call call _)⟩
  | confirm index negative =>
    rw [act]
    split
    · exact ⟨[call], .refl _, s.reaches_input (.call call _)⟩
    · exact ⟨[], List.nil_sublist _, .refl hcleared⟩

/-! ### Reports -/

/-- Reports tell what a link has done since a mailbox was in the given state. -/
structure Tells (mailbox : Mailbox) (reports : List Report) (done : List Effect) : Prop where
  frames : reports.flatMap (·.frames) = done.filterMap Effect.frame?
  returned : (reports.flatMap (·.returned)).Perm (done.filterMap Effect.return?)
  deliveries : reports.flatMap (·.deliveries) =
    (mailbox.run (done.filterMap Effect.message?)).2

theorem Tells.append {mailbox mailbox' : Mailbox} {reports reports' : List Report}
    (h : Tells mailbox reports done)
    (hmailbox : mailbox' = (mailbox.run (done.filterMap Effect.message?)).1)
    (h' : Tells mailbox' reports' done') : Tells mailbox (reports ++ reports') (done ++ done') := by
  subst hmailbox
  constructor
  · rw [List.flatMap_append, h.frames, h'.frames, List.filterMap_append]
  · rw [List.flatMap_append, List.filterMap_append]
    exact h.returned.append h'.returned
  · rw [List.flatMap_append, h.deliveries, h'.deliveries, List.filterMap_append,
      Mailbox.run_append]

/-- An action and all that follows from it at once are steps of the link, and the report tells what
is done in them. -/
theorem course_perform (hcleared : s.link.log = []) (call : CallId) (action : Action) :
    ∃ inputs done, (callsMade inputs).Sublist [call] ∧
      s.Course inputs done (s.perform call action).1 ∧
        (s.perform call action).1.mailbox =
            (s.mailbox.run (done.filterMap Effect.message?)).1 ∧
          Tells s.mailbox [(s.perform call action).2] done := by
  obtain ⟨calls, hcalls, hact⟩ := reaches_act (s := { s with report := {} }) hcleared call action
  obtain ⟨inputs, done, hmade, hcourse, hshows⟩ := hact.trans (reaches_settle hact.cleared)
  rw [List.append_nil] at hmade
  refine ⟨inputs, done, hmade ▸ hcalls,
    ⟨hcourse.run, hcourse.cleared, hcourse.chronological, hcourse.elapsed, hcourse.within⟩,
    hshows.mailbox, ?_, ?_, ?_⟩
  · rw [List.flatMap_singleton]
    exact hshows.frames
  · rw [List.flatMap_singleton]
    -- A report lists the calls that return in the order of their identities.
    exact (List.mergeSort_perm ..).trans (.of_eq hshows.returned)
  · rw [List.flatMap_singleton]
    exact hshows.deliveries

/-- Actions one after the other, each with the identity of the call that it may make. -/
def performAll (s : Session) : List (CallId × Action) → Session × List Report
  | [] => (s, [])
  | (call, action) :: actions =>
    let (s, report) := s.perform call action
    let (s, reports) := s.performAll actions
    (s, report :: reports)

theorem course_performAll (hcleared : s.link.log = []) (actions : List (CallId × Action)) :
    ∃ inputs done, (callsMade inputs).Sublist (actions.map (·.1)) ∧
      s.Course inputs done (s.performAll actions).1 ∧
        Tells s.mailbox (s.performAll actions).2 done := by
  induction actions generalizing s with
  | nil => exact ⟨[], [], .slnil, .of_eq hcleared rfl (Nat.le_refl _), rfl, .nil, rfl⟩
  | cons action actions ih =>
    obtain ⟨call, action⟩ := action
    obtain ⟨inputs, done, hmade, hcourse, hmailbox, htells⟩ := course_perform hcleared call action
    obtain ⟨inputs', done', hmade', hcourse', htells'⟩ := ih hcourse.cleared
    refine ⟨inputs ++ inputs', done ++ done', ?_, hcourse.trans hcourse',
      htells.append hmailbox htells'⟩
    rw [callsMade_append]
    exact hmade.append hmade'

/-- The link of a session is what a run of a new link leads to, but for the log, which the session
has cleared. In the run time does not go back, and each action makes at most the call with its
identity, in the order of the actions. The reports tell what is in the log of the run. -/
theorem link_is_run {settings : Settings} {extension : Option Extension}
    (hcreate : create settings extension = .ok s) (actions : List (CallId × Action)) :
    ∃ inputs log, settings.Valid ∧
      (Link.new settings extension).run inputs =
          { (s.performAll actions).1.link with log := log } ∧
        Chronological inputs ∧ (callsMade inputs).Sublist (actions.map (·.1)) ∧
          Tells {} (s.performAll actions).2 log := by
  have hcreated : settings.validate = .ok () ∧ s = { link := Link.new settings extension } := by
    unfold create at hcreate
    cases hvalidate : settings.validate with
    | error cause =>
      rw [hvalidate] at hcreate
      cases hcreate
    | ok =>
      rw [hvalidate] at hcreate
      exact ⟨rfl, (Except.ok.inj hcreate).symm⟩
  obtain ⟨hvalidate, rfl⟩ := hcreated
  obtain ⟨inputs, done, hmade, hcourse, htells⟩ :=
    course_performAll (s := { link := Link.new settings extension }) rfl actions
  exact ⟨inputs, done, (Settings.validate_eq_ok_iff _).mp hvalidate, hcourse.run,
    hcourse.chronological, hmade, htells⟩

end Session

end Telecontrol
