import Telecontrol.Proofs.Asdu.Faults
import Telecontrol.Proofs.Link.Journal
import Telecontrol.Proofs.Link.Teardown

/-!
# What the timer t1 supervises

As long as a connection is open, t1 is armed for the oldest of the things that must still be
acknowledged, and disarmed if there is none (`Link.superviseOldest`). Every operation that adds
or takes away such a thing arms t1 anew, so that this holds throughout (`Station.t1_run`). The
outstanding frames are kept in the order in which they were sent, so that the oldest is the first
of them; with a clock that goes back it need not be.

The connection is closed for want of an acknowledgment at exactly the instants at which expired
timers are handled and the oldest such thing is overdue (`Station.acknowledgment_supervised`).
-/

namespace Telecontrol

/-! ### Closing for want of an acknowledgment -/

/-- The causes for which a frame that is received closes the connection. -/
inductive Fault.Rejection : Fault → Prop
  | sequence (expected actual : UInt16) : Rejection (.sequence expected actual)
  | protocolState (cause : ProtocolFault) : Rejection (.protocolState cause)
  | asduMissing : Rejection (.framing .asduMissing)
  | unreadable {cause : Fault} (h : cause.Unreadable) : Rejection cause

theorem Endpoint.rejection_of_unitFault? {e : Endpoint} {octets? : Option Octets} {cause : Fault}
    (h : e.unitFault? octets? = some cause)
    (hextension : ∀ x, e.extension = some x → x.RefusesInvalid) : cause.Rejection := by
  cases octets? with
  | none =>
    cases h
    exact .asduMissing
  | some octets =>
    simp only [unitFault?] at h
    split at h
    · next hdecode =>
      cases Option.some.inj h
      exact .unreadable (AsduFormat.decode_unreadable _ hextension _ _ hdecode)
    · cases h

/-- A frame that is received closes the connection because it is rejected. -/
theorem Endpoint.Receive.rejection {e e' : Endpoint} {apdu : Apdu} {cause : Fault}
    (h : e.Receive apdu e') (hopen : e.closed = none)
    (hextension : ∀ x, e.extension = some x → x.RefusesInvalid)
    (hclosed : e'.closed = some cause) : cause.Rejection := by
  cases h with
  | supervisoryRefused _ hack | informationRefused _ hack =>
    cases Window.acknowledge_error hack
    cases hclosed
    exact .sequence _ _
  | numberRefused _ _ haccept =>
    cases Window.accept_error haccept
    cases hclosed
    exact .sequence _ _
  | unitRefused _ _ _ hunit =>
    cases hclosed
    exact rejection_of_unitFault? hunit hextension
  | informationStopped | supervisoryStopped | testUnsolicited | startUnsolicited
  | stopUnsolicited =>
    cases hclosed
    exact .protocolState _
  | stoppedByOther _ howed | stoppedAlready _ howed =>
    cases ((closed_of_owed howed).trans hopen).symm.trans hclosed
  | _ => cases hopen.symm.trans hclosed

/-- A frame that is received does not let a time limit pass. -/
theorem Endpoint.Receive.closed_ne_timeout {e e' : Endpoint} {apdu : Apdu}
    (h : e.Receive apdu e') (hopen : e.closed = none)
    (hextension : ∀ x, e.extension = some x → x.RefusesInvalid) (limit : TimeLimit) :
    e'.closed ≠ some (.timeout limit) := by
  intro hclosed
  cases h.rejection hopen hextension hclosed with
  | unreadable hunreadable => cases hunreadable

namespace Link

variable {l : Link} {now : Nat}

theorem closed_handleExpired {expired : List Timer} (h : .t1 ∉ expired) :
    (l.handleExpired now expired).closed = l.closed := by
  induction expired generalizing l with
  | nil => rfl
  | cons timer rest ih =>
    have hrest : .t1 ∉ rest := fun hmem => h (List.mem_cons_of_mem _ hmem)
    cases timer with
    | t1 => exact absurd List.mem_cons_self h
    | t2 =>
      refine (ih hrest).trans ?_
      split <;> simp
    | t3 =>
      refine (ih hrest).trans ?_
      split <;> simp

/-- Handling expired timers closes the connection exactly if t1 has expired. -/
theorem closed_handleTimers_iff (h : l.closed = none) :
    (l.handleTimers now).closed = some (.timeout .acknowledgment) ↔
      ∃ deadline, l.timers.t1 = some deadline ∧ deadline ≤ now := by
  have hexpired : l.timers.isExpired now .t1 = true ↔
      ∃ deadline, l.timers.t1 = some deadline ∧ deadline ≤ now := by
    simp [Timers.isExpired, Timers.deadline?, Option.any_eq_true]
  rw [← hexpired]
  simp only [handleTimers, h, Option.isSome_none, Bool.false_eq_true, if_false,
    Timers.takeExpired, Timer.all]
  by_cases h1 : l.timers.isExpired now .t1 = true
  · rw [List.filter_cons_of_pos h1]
    refine iff_of_true ?_ h1
    simp only [handleExpired]
    exact closed_close_of_open rfl _
  · rw [List.filter_cons_of_neg h1]
    refine iff_of_false ?_ h1
    rw [closed_handleExpired (by simp)]
    intro hclosed
    cases hclosed

/-- The connection is closed for want of an acknowledgment only when expired timers are handled,
and then exactly if t1 has expired. A stream does not fail for that cause. -/
theorem times_out_iff (h : l.closed = none)
    (hextension : ∀ x, l.extension = some x → x.RefusesInvalid) {input : LinkInput}
    (hstream : input ≠ .lost (.timeout .acknowledgment)) :
    (l.step now input).closed = some (.timeout .acknowledgment) ↔
      input = .timers ∧ ∃ deadline, l.timers.t1 = some deadline ∧ deadline ≤ now := by
  cases input with
  | timers => exact (closed_handleTimers_iff h).trans (and_iff_right rfl).symm
  | frame apdu =>
    refine iff_of_false ?_ nofun
    exact (endpoint_handleFrame now h apdu).closed_ne_timeout h hextension _
  | _ =>
    refine iff_of_false (fun hclosed => ?_) nofun
    have hcause := (closing_step h hclosed).2 nofun
    first | exact hstream (congrArg LinkInput.lost hcause.symm) | cases hcause

end Link

/-! ### The deadline of t1 -/

/-- The oldest of several instants that are in order, and of others, is the first of those or one
of the others. -/
theorem Supervision.due?_eq (s : Supervision) (h : s.frames.Pairwise (· ≤ ·)) :
    s.due? = (s.frames ++ s.test?.toList ++ s.stop?.toList).min?.map (· + s.limit) := by
  unfold due? candidates
  rw [List.append_assoc, List.append_assoc]
  generalize s.test?.toList ++ s.stop?.toList = others
  congr 1
  cases hframes : s.frames with
  | nil => rfl
  | cons first rest =>
    rw [hframes] at h
    have hfirst : ∀ instant ∈ rest, first ≤ instant := (List.pairwise_cons.mp h).1
    refine Option.ext fun least => ?_
    simp only [List.head?_cons, Option.toList_some, List.cons_append, List.nil_append,
      List.min?_eq_some_iff, List.mem_cons, List.mem_append, forall_eq_or_imp]
    constructor
    · rintro ⟨hmem, hle, hothers⟩
      refine ⟨hmem.imp_right .inr, hle, fun instant hinstant => ?_⟩
      exact hinstant.elim (fun hrest => Nat.le_trans hle (hfirst instant hrest)) (hothers instant)
    · rintro ⟨hmem, hle, hothers⟩
      refine ⟨?_, hle, fun instant hinstant => hothers instant (.inr hinstant)⟩
      rcases hmem with hmem | hmem | hmem
      · exact .inl hmem
      · exact .inl (Nat.le_antisymm hle (hfirst least hmem))
      · exact .inr hmem

namespace Station

/-- In an open station, t1 is armed for the oldest thing that it supervises. -/
theorem t1_run (settings : Settings) (extension : Option Extension)
    (inputs : List (Nat × LinkInput))
    (hopen : ((new settings extension).run inputs).link.closed = none) :
    ((new settings extension).run inputs).link.watch.supervision.deadline? =
      ((new settings extension).run inputs).link.watch.supervision.due? := by
  induction inputs using List.reverseRecOn with
  | nil => rfl
  | append_singleton inputs input ih =>
    rw [run_concat] at hopen ⊢
    have hmove := Link.watch_step _ input.1 input.2 hopen
    exact hmove.supervision.deadline?_eq (ih (open_before hopen))

/-- The instants at which the things were sent that must still be acknowledged: the information
frames that are not released, and the activations that are not confirmed. -/
def awaited (s : Station) (j : Journal) : List Nat :=
  (s.ledger.informations.drop s.ledger.released).map (·.sent) ++ j.tests ++ j.stops

theorem frames_watch {s : Station} (h : s.Sound) :
    s.link.watch.supervision.frames =
      (s.ledger.informations.drop s.ledger.released).map (·.sent) := by
  show s.endpoint.window.outstanding.toList.map (·.sent) = _
  rw [h.ledger.records.outstanding, List.map_drop, List.map_drop, map_sent_numbered]

/-- The frames that are not released are in the order of time. -/
theorem frames_ordered (settings : Settings) (extension : Option Extension)
    {inputs : List (Nat × LinkInput)} (hclock : Chronological inputs) (count : Nat) :
    ((((new settings extension).run inputs).ledger.informations.drop count).map (·.sent)).Pairwise
      (· ≤ ·) :=
  (stamps_sent settings extension hclock).ordered.sublist
    (((List.drop_sublist _ _).trans List.filter_sublist).map _)

variable (settings : Settings) (extension : Option Extension)

/-- In an open station, t1 is armed for the oldest of the things that must be acknowledged. -/
theorem t1_eq (hvalid : settings.Valid) {inputs : List (Nat × LinkInput)}
    (hclock : Chronological inputs)
    (hopen : ((new settings extension).run inputs).link.closed = none) :
    ((new settings extension).run inputs).link.timers.t1 =
      (((new settings extension).run inputs).awaited
        ((new settings extension).journal {} inputs)).min?.map (· + settings.t1) := by
  have hframes := frames_watch ((sound_new hvalid extension).run inputs)
  have hordered := frames_ordered settings extension hclock
    ((new settings extension).run inputs).ledger.released
  have hjournal := journal_run (journal_new settings extension) inputs
  have hsettings := settings_run (new settings extension) inputs
  have harmed := t1_run settings extension inputs hopen
  revert hframes hordered hjournal hsettings harmed hopen
  generalize (new settings extension).run inputs = s
  generalize (new settings extension).journal {} inputs = j
  intro hopen hframes hordered hjournal hsettings harmed
  have hlimit : s.link.watch.supervision.limit = settings.t1 := congrArg Settings.t1 hsettings
  calc s.link.timers.t1 = s.link.watch.supervision.due? := harmed
    _ = (s.link.watch.supervision.frames ++ s.link.testSent.toList ++
          s.link.stopSent?.toList).min?.map (· + s.link.watch.supervision.limit) :=
      Supervision.due?_eq _ (by rwa [hframes])
    _ = (s.awaited j).min?.map (· + settings.t1) := by
      rw [hframes, hlimit, ← hjournal.tests hopen, ← hjournal.stops hopen]
      rfl

/-- The oldest of some instants is overdue if any of them is. -/
theorem oldest_overdue_iff (instants : List Nat) (limit now : Nat) :
    (∃ deadline, instants.min?.map (· + limit) = some deadline ∧ deadline ≤ now) ↔
      ∃ instant ∈ instants, instant + limit ≤ now := by
  constructor
  · rintro ⟨deadline, hmin, hle⟩
    obtain ⟨instant, hinstant, rfl⟩ := Option.map_eq_some_iff.mp hmin
    exact ⟨instant, List.min?_mem hinstant, hle⟩
  · rintro ⟨instant, hinstant, hle⟩
    obtain ⟨oldest, holdest⟩ := Option.ne_none_iff_exists'.mp fun hnone =>
      List.ne_nil_of_mem hinstant (List.min?_eq_none_iff.mp hnone)
    refine ⟨oldest + limit, by rw [holdest]; rfl, ?_⟩
    have := (List.min?_eq_some_iff.mp holdest).2 instant hinstant
    omega

/-- Whatever the other station does, and with a clock that never goes back, t1 of an open station
is armed exactly if something must still be acknowledged, for the oldest such thing; and the
connection is closed for want of an acknowledgment exactly if expired timers are handled when some
such thing is overdue. That the stream or an extension of the format fails for just that cause is
excluded. -/
theorem acknowledgment_supervised (hvalid : settings.Valid)
    (inputs : List (Nat × LinkInput)) (hclock : Chronological inputs) :
    let s := (new settings extension).run inputs
    let awaited := s.awaited ((new settings extension).journal {} inputs)
    s.link = (Link.new settings extension).run inputs ∧
      (s.link.closed = none →
        (s.link.timers.t1.isSome ↔ awaited ≠ []) ∧
        s.link.timers.t1 = awaited.min?.map (· + settings.t1) ∧
        ∀ now input, (∀ x, extension = some x → x.RefusesInvalid) →
          input ≠ .lost (.timeout .acknowledgment) →
          ((s.link.step now input).closed = some (.timeout .acknowledgment) ↔
            input = .timers ∧ ∃ sent ∈ awaited, sent + settings.t1 ≤ now)) := by
  intro s awaited
  refine ⟨run_link _ inputs, fun hopen => ?_⟩
  have hdeadline : s.link.timers.t1 = awaited.min?.map (· + settings.t1) :=
    t1_eq settings extension hvalid hclock hopen
  refine ⟨?_, hdeadline, fun now input hextension hstream => ?_⟩
  · rw [hdeadline, Option.isSome_map, Option.isSome_iff_ne_none, ne_eq, List.min?_eq_none_iff]
  · have hextension : ∀ x, s.link.extension = some x → x.RefusesInvalid := by
      rw [extension_run]
      exact hextension
    rw [Link.times_out_iff hopen hextension hstream, hdeadline, oldest_overdue_iff]

/-- A command and the end of data transfer are not acknowledged: the command was sent first, and
the connection ends when it is overdue. -/
theorem command_supervised :
    ({ t1 := 10, t2 := 5 } : Settings).Valid ∧
      let inputs : List (Nat × LinkInput) :=
        [(0, .call 0 (.start 0 9)), (1, .frame (.unnumbered .startCon)),
          (2, .call 1 (.send (.single .interrogation .activation 1 0
            [.interrogationQualifier 20]))),
          (5, .call 2 .stop)]
      Chronological inputs ∧
        let s := (new { t1 := 10, t2 := 5 } none).run inputs
        s.awaited ((new { t1 := 10, t2 := 5 } none).journal {} inputs) = [2, 5] ∧
          s.link.timers.t1 = some 12 ∧
          (s.link.step 11 .timers).closed ≠ some (.timeout .acknowledgment) ∧
          (s.link.step 12 .timers).closed = some (.timeout .acknowledgment) := by
  have hvalid : ({ t1 := 10, t2 := 5 } : Settings).Valid :=
    (Settings.validate_eq_ok_iff _).mp rfl
  refine ⟨hvalid, ?_⟩
  intro inputs
  have hclock : Chronological inputs := by decide
  refine ⟨hclock, ?_⟩
  intro s
  obtain ⟨-, hsupervised⟩ := acknowledgment_supervised _ none hvalid inputs hclock
  obtain ⟨-, hdeadline, hcloses⟩ := hsupervised rfl
  refine ⟨rfl, hdeadline, fun hclosed => ?_,
    (hcloses 12 .timers nofun nofun).mpr ⟨rfl, 2, ?_, ?_⟩⟩
  · obtain ⟨-, hoverdue⟩ := (hcloses 11 .timers nofun nofun).mp hclosed
    have hoverdue : ∃ sent ∈ [2, 5], sent + 10 ≤ 11 := hoverdue
    revert hoverdue
    decide
  · show 2 ∈ [2, 5]
    decide
  · decide

end Station

end Telecontrol
