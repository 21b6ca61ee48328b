import Telecontrol.Proofs.Link.Journal

/-!
# What the timer t2 delays

A frame that is accepted need not be acknowledged at once: t2 is armed for it, and runs out before
the other station loses patience. When data transfer ends, t2 is disarmed. A station that is asked
to stop acknowledges what it has accepted before it answers; one that asks for the end does not,
and when the end is confirmed what it owes is left without a deadline.

`Station.t2_run` says for which frame t2 is armed, throughout. It follows that every frame is
acknowledged in time exactly if none was left behind (`Station.acknowledged_in_time_iff`).
-/

namespace Telecontrol

/-! ### What is owed after one step -/

namespace Endpoint

/-- What a step does to the acknowledgments that are owed. The frames accepted in the step came at
the instants `added`; `confirmed` says that the end of data transfer is confirmed in it. -/
inductive Debts (e : Endpoint) (now : Nat) : List Nat → Bool → Endpoint → Prop
  /-- Nothing, and data transfer does not end. -/
  | keeps {e'} : e'.window.unacknowledged = e.window.unacknowledged →
      e'.scheduled = e.scheduled → (e'.state = .stopped → e.state = .stopped) →
      Debts e now [] false e'
  /-- Everything that was accepted is acknowledged. -/
  | settles {added e'} : e'.window.unacknowledged = 0 → e'.scheduled = false →
      Debts e now added false e'
  /-- A frame is accepted, and will be acknowledged later. -/
  | defers {e'} : e'.window.unacknowledged.toNat = e.window.unacknowledged.toNat + 1 →
      e'.scheduled = true → Debts e now [now] false e'
  /-- Data transfer ends, and nothing is acknowledged. -/
  | stops {e'} : e'.window.unacknowledged = e.window.unacknowledged → e'.scheduled = false →
      Debts e now [] true e'

variable {e e' : Endpoint} {now : Nat} {input : LinkInput} {apdu : Apdu}

/-- What happens at the station itself defers nothing. -/
theorem Act.debts (h : e.Act now input e') (hopen : e'.closed = none) :
    e.Debts now [] false e' := by
  cases h with
  | closes => cases hopen
  | sends => exact .settles rfl rfl
  | passes _ howed htested =>
    cases howed with
    | waits => cases htested <;> exact .keeps rfl rfl id
    | lapses hnone => cases htested <;> exact .settles hnone rfl
    | acknowledges => cases htested <;> exact .settles rfl rfl
  | silent | asksStart | asksStop => exact .keeps rfl rfl id
  | confirmsStart => exact .keeps rfl rfl nofun

/-- What is owed to a frame that ends data transfer is either acknowledged or nothing. -/
theorem settled_owed (e : Endpoint) :
    (if 0 < e.window.unacknowledged then e.sendSupervisory else e).window.unacknowledged = 0 := by
  split
  · rfl
  · next h =>
    rw [UInt16.lt_iff_toNat_lt, Nat.not_lt] at h
    exact UInt16.toNat_inj.mp (Nat.eq_zero_of_le_zero h)

theorem Receive.debts {b : Ledger} (h : e.Receive apdu e') (hb : b.Sound e) (hprompt : e.Prompt)
    (hclosed : e.closed = none) (hopen : e'.closed = none) :
    e.Debts now ((e.accepts? apdu).toList.map fun _ => now)
      ((LinkInput.frame apdu).confirms .stopAct) e' := by
  cases h with
  | information hstate hack haccept hunit =>
    rw [(Receive.information hstate hack haccept hunit).accepts?_eq hclosed hopen rfl]
    exact .defers (hprompt.accept hb hclosed hack haccept).2.1 rfl
  | informationDue => exact .settles rfl rfl
  | supervisory _ hack =>
    rw [accepts?_of_not_information e rfl]
    exact .keeps (hb.records.acknowledge hack).2.2.2 rfl id
  | stoppedByOther _ howed =>
    subst howed
    exact .settles e.settled_owed rfl
  | stoppedAlready _ howed =>
    rw [accepts?_of_not_information e rfl]
    subst howed
    by_cases h : 0 < e.window.unacknowledged
    · rw [if_pos h]
      exact .settles rfl rfl
    · rw [if_neg h]
      exact .keeps rfl rfl id
  | stopConfirmed =>
    rw [accepts?_of_not_information e rfl]
    exact .stops rfl rfl
  | test | tested | startedAlready | startRequested =>
    rw [accepts?_of_not_information e rfl]
    exact .keeps rfl rfl id
  | startedByOther | startConfirmed =>
    rw [accepts?_of_not_information e rfl]
    exact .keeps rfl rfl nofun
  | _ => cases hopen

end Endpoint

/-- What a step does to the acknowledgments that a station owes. -/
theorem Station.debts_step {s : Station} (h : s.Sound) {now : Nat} {input : LinkInput}
    (hopen : (s.step now input).link.closed = none) :
    s.endpoint.Debts now (s.endpoint.arrivals now input) (input.confirms .stopAct)
      (s.step now input).endpoint := by
  rcases s.link.step_cases now input with
    ⟨hinput, hact⟩ | ⟨apdu, rfl, hclosed, hreceive⟩ | ⟨apdu, rfl, hclosed, -⟩
  · rw [s.endpoint.arrivals_of_not_frame now hinput, LinkInput.confirms_of_not_frame hinput]
    exact hact.debts hopen
  · exact hreceive.debts h.ledger h.prompt hclosed hopen
  · exact absurd (open_before hopen) hclosed

/-- The deadline of t2, if frames came at the instants `arrivals` and the first `covered` of them
were acknowledged: it is that of the oldest that is not, and that came when no more than `stopped`
others had come. -/
def deferred? (arrivals : List Nat) (covered stopped limit : Nat) : Option Nat :=
  arrivals[max covered stopped]?.map (· + limit)

theorem deferred?_eq_none {arrivals : List Nat} {covered stopped limit : Nat}
    (h : arrivals.length ≤ max covered stopped) :
    deferred? arrivals covered stopped limit = none := by
  rw [deferred?, List.getElem?_eq_none h]
  rfl

/-- Another frame comes: t2 is armed for it if it is not armed yet. -/
theorem deferred?_concat {arrivals : List Nat} {covered stopped limit now : Nat}
    (hcovered : covered ≤ arrivals.length) (hstopped : stopped ≤ arrivals.length) :
    deferred? (arrivals ++ [now]) covered stopped limit =
      (deferred? arrivals covered stopped limit).or (some (now + limit)) := by
  rw [deferred?, deferred?]
  by_cases hlt : max covered stopped < arrivals.length
  · rw [List.getElem?_append_left hlt, List.getElem?_eq_getElem hlt]
    rfl
  · have hlength : max covered stopped = arrivals.length := by omega
    rw [hlength, List.getElem?_concat_length, List.getElem?_eq_none (Nat.le_refl _)]
    rfl

/-- A step keeps t2 armed for the oldest frame that it is to be armed for. -/
theorem Endpoint.Debts.deadline_eq {e e' : Endpoint} {now covered covered' stopped limit : Nat}
    {arrivals added : List Nat} {confirmed : Bool} {kept kept' : Option Nat}
    (h : e.Debts now added confirmed e') (hstamped : Stamped (now + limit) kept kept')
    (hkept : kept.isSome = e.scheduled) (hkept' : kept'.isSome = e'.scheduled)
    (hcount : arrivals.length = covered + e.window.unacknowledged.toNat)
    (hcount' : (arrivals ++ added).length = covered' + e'.window.unacknowledged.toNat)
    (hstopped : stopped ≤ arrivals.length) (heq : kept = deferred? arrivals covered stopped limit) :
    kept' = deferred? (arrivals ++ added) covered'
      (if confirmed then arrivals.length else stopped) limit := by
  cases h with
  | keeps hsame hscheduled _ =>
    rw [List.append_nil] at hcount' ⊢
    have hcovered : covered' = covered := by
      rw [hsame] at hcount'
      omega
    rw [hstamped.eq_of_isSome (by rw [hkept', hkept, hscheduled]), heq, hcovered]
    rfl
  | settles hnone hidle =>
    have hidle : kept' = none := by simpa [hidle] using hkept'
    rw [hnone, UInt16.toNat_zero] at hcount'
    rw [hidle, deferred?_eq_none (by omega)]
  | stops _ hidle =>
    have hidle : kept' = none := by simpa [hidle] using hkept'
    rw [hidle, List.append_nil, if_pos rfl, deferred?_eq_none (Nat.le_max_right _ _)]
  | defers hmore harmed =>
    rw [List.length_append, List.length_singleton, hmore] at hcount'
    have hcovered : covered' = covered := by omega
    rw [if_neg Bool.false_ne_true, hcovered, deferred?_concat (by omega) hstopped, ← heq]
    rw [harmed] at hkept'
    cases hstamped with
    | keeps =>
      obtain ⟨deadline, rfl⟩ := Option.isSome_iff_exists.mp hkept'
      rfl
    | drops => cases hkept'
    | sets => rfl

/-- While data transfer is stopped, nothing is accepted, and what is owed was left behind when the
end was confirmed. -/
theorem Endpoint.Debts.leaves {e e' : Endpoint} {now stopped : Nat} {arrivals added : List Nat}
    {confirmed : Bool} (h : e.Debts now added confirmed e') (hprompt : e'.Prompt)
    (hleaves : e.state = .stopped →
      e.window.unacknowledged = 0 ∨ stopped = arrivals.length)
    (hstopped : e'.state = .stopped) :
    e'.window.unacknowledged = 0 ∨
      (if confirmed then arrivals.length else stopped) = (arrivals ++ added).length := by
  cases h with
  | keeps hsame _ hbefore =>
    rw [hsame, List.append_nil]
    exact hleaves (hbefore hstopped)
  | settles hnone => exact .inl hnone
  | stops => exact .inr (by rw [if_pos rfl, List.append_nil])
  | defers _ harmed => cases harmed.symm.trans (hprompt.scheduled hstopped)

/-! ### Runs -/

namespace Station

/-- t2 is armed for the oldest frame that is not acknowledged and was accepted after the end of
data transfer was last confirmed to this station. -/
def Defers (s : Station) (j : Journal) : Prop :=
  s.link.timers.t2 = deferred? j.arrivals s.ledger.covered j.stopped s.link.settings.t2

variable {s : Station} {j : Journal}

/-- How many of the frames that were accepted are acknowledged. -/
theorem length_arrivals (h : s.Sound) (hj : j.Sound s) :
    j.arrivals.length = s.ledger.covered + s.link.window.unacknowledged.toNat :=
  hj.arrivals.trans h.ledger.records.accepted_eq

theorem Defers.step (hdefers : s.Defers j) (h : s.Sound) (hj : j.Sound s) {now : Nat}
    {input : LinkInput} (hopen : (s.step now input).link.closed = none) :
    (s.step now input).Defers (j.record s.endpoint now input (s.step now input).endpoint) := by
  have hstamped := (s.link.watch_step now input hopen).deadline?
  unfold Defers
  rw [s.settings_step now input]
  exact (debts_step h hopen).deadline_eq hstamped rfl rfl (length_arrivals h hj)
    (length_arrivals (h.step now input) (journal_step hj now input)) hj.stopped_le hdefers

/-- In an open station, t2 is armed for the oldest frame that it is to be armed for. -/
theorem t2_run (settings : Settings) (extension : Option Extension) (hvalid : settings.Valid)
    (inputs : List (Nat × LinkInput))
    (hopen : ((new settings extension).run inputs).link.closed = none) :
    ((new settings extension).run inputs).Defers ((new settings extension).journal {} inputs) :=
  open_induction hvalid extension rfl
    (fun _ _ _ _ hsound hjournal hopen hdefers => hdefers.step hsound hjournal hopen) inputs hopen

/-- A stopped station owes nothing, or has accepted nothing since the end of data transfer was last
confirmed to it. -/
def Leaves (s : Station) (j : Journal) : Prop :=
  s.link.state = .stopped → s.link.window.unacknowledged = 0 ∨ j.stopped = j.arrivals.length

theorem Leaves.step (hleaves : s.Leaves j) (h : s.Sound) {now : Nat} {input : LinkInput}
    (hopen : (s.step now input).link.closed = none) :
    (s.step now input).Leaves (j.record s.endpoint now input (s.step now input).endpoint) :=
  (debts_step h hopen).leaves (h.step now input).prompt hleaves

theorem leaves_run (settings : Settings) (extension : Option Extension) (hvalid : settings.Valid)
    (inputs : List (Nat × LinkInput))
    (hopen : ((new settings extension).run inputs).link.closed = none) :
    ((new settings extension).run inputs).Leaves ((new settings extension).journal {} inputs) :=
  open_induction hvalid extension (fun _ => .inl rfl)
    (fun _ _ _ _ hsound _ hopen hleaves => hleaves.step hsound hopen) inputs hopen

/-- A stopped station owes an acknowledgment exactly if it owed one when the end of data transfer
was last confirmed to it. -/
theorem owed_of_stopped (settings : Settings) (extension : Option Extension)
    (hvalid : settings.Valid) (inputs : List (Nat × LinkInput)) :
    let s := (new settings extension).run inputs
    let j := (new settings extension).journal {} inputs
    s.link.closed = none → s.link.state = .stopped →
      (s.link.window.unacknowledged = 0 ↔ j.stopped ≤ s.ledger.covered) := by
  intro s j hopen hstopped
  have hjournal : j.Sound s := journal_run (journal_new settings extension) inputs
  have hcount : j.arrivals.length = s.ledger.covered + s.link.window.unacknowledged.toNat :=
    length_arrivals ((sound_new hvalid extension).run inputs) hjournal
  have hleaves : s.link.window.unacknowledged = 0 ∨ j.stopped = j.arrivals.length :=
    leaves_run settings extension hvalid inputs hopen hstopped
  have hle := hjournal.stopped_le
  constructor
  · intro hnone
    rw [hnone, UInt16.toNat_zero] at hcount
    omega
  · intro hcovered
    rcases hleaves with hnone | hall
    · exact hnone
    · -- Then everything that was accepted is acknowledged.
      exact UInt16.toNat_inj.mp (show _ = 0 by omega)

/-- The deadline of t2 is in time for the oldest frame exactly if it is that of this frame, or of
one that came at the same instant. -/
theorem deferred?_in_time_iff {arrivals : List Nat} {covered stopped limit oldest : Nat}
    (hordered : arrivals.Pairwise (· ≤ ·)) (holdest : arrivals[covered]? = some oldest) :
    (∃ deadline, deferred? arrivals covered stopped limit = some deadline ∧
        deadline ≤ oldest + limit) ↔ stopped ≤ covered ∨ arrivals[stopped]? = some oldest := by
  unfold deferred?
  by_cases hle : stopped ≤ covered
  · rw [Nat.max_eq_left hle, holdest]
    exact iff_of_true ⟨_, rfl, Nat.le_refl _⟩ (.inl hle)
  · have hlt : covered < stopped := Nat.lt_of_not_le hle
    rw [Nat.max_eq_right (Nat.le_of_lt hlt), or_iff_right hle]
    constructor
    · rintro ⟨deadline, hdeadline, hdue⟩
      obtain ⟨later, hlater, rfl⟩ := Option.map_eq_some_iff.mp hdeadline
      obtain ⟨hcovered, rfl⟩ := List.getElem?_eq_some_iff.mp holdest
      obtain ⟨hstopped, rfl⟩ := List.getElem?_eq_some_iff.mp hlater
      have hage := List.pairwise_iff_getElem.mp hordered covered stopped hcovered hstopped hlt
      rw [hlater]
      congr 1
      omega
    · intro hlater
      rw [hlater]
      exact ⟨_, rfl, Nat.le_refl _⟩

/-- Whatever the other station does, and with a clock that never goes back, t2 of an open station
is armed for the oldest frame that is not acknowledged and was accepted after the end of data
transfer was last confirmed. So it is armed only if an acknowledgment is owed; and then it is in
time for the oldest frame to which one is owed exactly if this frame was accepted after that end,
or else at the same instant as the first one after it. -/
theorem acknowledged_in_time_iff (settings : Settings) (extension : Option Extension)
    (hvalid : settings.Valid) (inputs : List (Nat × LinkInput)) (hclock : Chronological inputs) :
    let s := (new settings extension).run inputs
    let j := (new settings extension).journal {} inputs
    s.link = (Link.new settings extension).run inputs ∧
      j.arrivals.length = s.ledger.covered + s.link.window.unacknowledged.toNat ∧
      (s.link.closed = none →
        s.link.timers.t2 =
          j.arrivals[max s.ledger.covered j.stopped]?.map (· + settings.t2) ∧
        (s.link.window.unacknowledged = 0 → s.link.timers.t2 = none) ∧
        (0 < s.link.window.unacknowledged →
          ∃ oldest, j.arrivals[s.ledger.covered]? = some oldest ∧
            ((∃ deadline, s.link.timers.t2 = some deadline ∧ deadline ≤ oldest + settings.t2) ↔
              j.stopped ≤ s.ledger.covered ∨ j.arrivals[j.stopped]? = some oldest))) := by
  intro s j
  have hsound : s.Sound := (sound_new hvalid extension).run inputs
  have hjournal : j.Sound s := journal_run (journal_new settings extension) inputs
  have hcount := length_arrivals hsound hjournal
  refine ⟨run_link _ inputs, hcount, fun hopen => ?_⟩
  have hdeadline : s.link.timers.t2 =
      deferred? j.arrivals s.ledger.covered j.stopped settings.t2 := by
    have hdefers := t2_run settings extension hvalid inputs hopen
    rwa [Defers, settings_run] at hdefers
  refine ⟨hdeadline, fun hnone => ?_, fun howed => ?_⟩
  · rw [hnone, UInt16.toNat_zero] at hcount
    rw [hdeadline, deferred?_eq_none (by omega)]
  · have hlt : s.ledger.covered < j.arrivals.length := by
      have howed := UInt16.lt_iff_toNat_lt.mp howed
      rw [UInt16.toNat_zero] at howed
      omega
    have holdest := List.getElem?_eq_getElem hlt
    refine ⟨_, holdest, ?_⟩
    rw [hdeadline]
    exact deferred?_in_time_iff (stamps_arrivals settings extension hclock).ordered holdest

/-- A frame that is accepted at the instant 2 is acknowledged at the instant 7 at the latest. -/
theorem answer_acknowledged_in_time :
    ({ t1 := 10, t2 := 5 } : Settings).Valid ∧
      let inputs : List (Nat × LinkInput) :=
        [(0, .call 0 (.start 0 9)), (1, .frame (.unnumbered .startCon)),
          (2, .frame (.information 0 0 [100, 1, 6, 0, 1, 0, 0, 0, 0, 20]))]
      Chronological inputs ∧
        let s := (new { t1 := 10, t2 := 5 } none).run inputs
        s.link.closed = none ∧ s.link.window.unacknowledged = 1 ∧
          ∃ deadline, s.link.timers.t2 = some deadline ∧ deadline ≤ 2 + 5 := by
  have hvalid : ({ t1 := 10, t2 := 5 } : Settings).Valid :=
    (Settings.validate_eq_ok_iff _).mp rfl
  refine ⟨hvalid, ?_⟩
  intro inputs
  have hclock : Chronological inputs := by decide
  refine ⟨hclock, ?_⟩
  intro s
  obtain ⟨-, -, hacknowledged⟩ := acknowledged_in_time_iff _ none hvalid inputs hclock
  obtain ⟨-, -, howed⟩ := hacknowledged rfl
  obtain ⟨oldest, holdest, hiff⟩ := howed (by decide)
  cases holdest
  exact ⟨rfl, rfl, hiff.mpr (.inl (Nat.zero_le _))⟩

/-- Data transfer is stopped and started again after a frame was accepted: the frame is not
acknowledged, and t2 is not armed. When t2 has passed, nothing is sent. -/
theorem acknowledgment_lost_by_restart :
    ({ t1 := 10, t2 := 5 } : Settings).Valid ∧
      let inputs : List (Nat × LinkInput) :=
        [(0, .call 0 (.start 0 9)), (1, .frame (.unnumbered .startCon)),
          (2, .frame (.information 0 0 [100, 1, 6, 0, 1, 0, 0, 0, 0, 20])),
          (3, .call 1 .stop), (4, .frame (.unnumbered .stopCon)),
          (5, .call 2 (.start 0 9)), (6, .frame (.unnumbered .startCon))]
      Chronological inputs ∧
        let l := (Link.new { t1 := 10, t2 := 5 } none).run inputs
        l.closed = none ∧ l.state = .started ∧ l.window.unacknowledged = 1 ∧
          l.timers.t2 = none ∧ (l.step 7 .timers).log = l.log := by
  refine ⟨(Settings.validate_eq_ok_iff _).mp rfl, ?_⟩
  intro inputs
  exact ⟨by decide, rfl, rfl, rfl, rfl, rfl⟩

end Station

end Telecontrol
