import Telecontrol.Proofs.Link.Ledger

/-!
# A station against any other

A `Station` is a link with its ledger. Whatever the other station sends and in whatever order
calls, frames and deadlines come, a station keeps its ledger (`Station.Sound.run`), and with
it the rules of the sliding window (`Station.run_keeps_window`).
-/

namespace Telecontrol

namespace Endpoint

/-- An open endpoint owes fewer than `w` acknowledgments, and none is scheduled while data
transfer is stopped. -/
structure Prompt (e : Endpoint) : Prop where
  unacknowledged_lt : e.closed = none → e.window.unacknowledged.toNat < e.window.w.toNat
  scheduled : e.state = .stopped → e.scheduled = false

/-- In going from one endpoint to another frames are sent; a ledger in which they are
entered stays sound. -/
structure Posts (now : Nat) (stopping : Bool) (e : Endpoint) (frames : List Apdu)
    (e' : Endpoint) : Prop where
  frames_eq : e'.frames = e.frames ++ frames
  sound : ∀ {b : Ledger}, b.Sound e → (b.post now stopping frames).Sound e'

namespace Posts

variable {now : Nat} {stopping : Bool} {e e₁ e₂ : Endpoint} {first rest : List Apdu}

theorem keeps (h : e₁.settings = e.settings ∧ e₁.window = e.window ∧ e₁.frames = e.frames) :
    Posts now stopping e [] e₁ where
  frames_eq := by rw [h.2.2, List.append_nil]
  sound := by
    intro b hb
    rw [Ledger.post_nil]
    exact hb.congr h.1 h.2.1 h.2.2

theorem trans (h : Posts now stopping e first e₁) (h' : Posts now stopping e₁ rest e₂) :
    Posts now stopping e (first ++ rest) e₂ where
  frames_eq := by rw [h'.frames_eq, h.frames_eq, List.append_assoc]
  sound := by
    intro b hb
    rw [Ledger.post_append]
    exact h'.sound (h.sound hb)

theorem unnumbered (e : Endpoint) (function : LinkFunction) :
    Posts now stopping e [.unnumbered function] (e.transmit (.unnumbered function)) :=
  ⟨rfl, fun h => h.transmit_unnumbered function⟩

theorem keeps_unnumbered {function : LinkFunction}
    (h : e₁.settings = e.settings ∧ e₁.window = e.window ∧ e₁.frames = e.frames) :
    Posts now stopping e [.unnumbered function] (e₁.transmit (.unnumbered function)) :=
  (keeps h).trans (unnumbered e₁ function)

theorem supervisory (e : Endpoint) :
    Posts now stopping e [.supervisory e.window.receive] e.sendSupervisory :=
  ⟨rfl, fun h => h.sendSupervisory⟩

theorem information (hroom : e.window.isFull = false) (octets : Octets) :
    Posts now stopping e [.information e.window.send e.window.receive octets]
      (e.sendInformation now octets) :=
  ⟨rfl, fun h => h.sendInformation hroom octets⟩

end Posts

variable {e e' : Endpoint} {now : Nat} {stopping : Bool} {input : LinkInput} {apdu : Apdu}

theorem Owed.posts (h : e.Owed e') (now : Nat) (stopping : Bool) :
    ∃ frames, Posts now stopping e frames e' := by
  cases h with
  | waits => exact ⟨_, .keeps ⟨rfl, rfl, rfl⟩⟩
  | lapses => exact ⟨_, .keeps ⟨rfl, rfl, rfl⟩⟩
  | acknowledges => exact ⟨_, .supervisory e⟩

theorem Tested.posts (h : e.Tested e') (now : Nat) (stopping : Bool) :
    ∃ frames, Posts now stopping e frames e' := by
  cases h with
  | waits => exact ⟨_, .keeps ⟨rfl, rfl, rfl⟩⟩
  | tests => exact ⟨_, .keeps_unnumbered ⟨rfl, rfl, rfl⟩⟩

/-- What happens at the station itself sends frames, and releases and accepts none. -/
theorem Act.posts (h : e.Act now input e') (stopping : Bool) :
    ∃ frames, Posts now stopping e frames e' := by
  cases h with
  | silent => exact ⟨_, .keeps ⟨rfl, rfl, rfl⟩⟩
  | closes => exact ⟨_, .keeps ⟨rfl, rfl, rfl⟩⟩
  | sends _ _ hroom => exact ⟨_, .information hroom _⟩
  | asksStart => exact ⟨_, .keeps_unnumbered ⟨rfl, rfl, rfl⟩⟩
  | asksStop => exact ⟨_, .keeps_unnumbered ⟨rfl, rfl, rfl⟩⟩
  | confirmsStart => exact ⟨_, .keeps_unnumbered ⟨rfl, rfl, rfl⟩⟩
  | passes _ howed htested =>
    obtain ⟨first, hfirst⟩ := howed.posts now stopping
    obtain ⟨rest, hrest⟩ := htested.posts now stopping
    exact ⟨_, hfirst.trans hrest⟩

/-- What is owed to a frame that ends data transfer. -/
theorem posts_owed (e : Endpoint) (now : Nat) (stopping : Bool) :
    ∃ frames, Posts now stopping e frames
      (if 0 < e.window.unacknowledged then e.sendSupervisory else e) := by
  split
  · exact ⟨_, .supervisory e⟩
  · exact ⟨_, .keeps ⟨rfl, rfl, rfl⟩⟩

/-! ### Acknowledgments are sent in time -/

theorem Prompt.close (e : Endpoint) (cause : Fault) : (e.close cause).Prompt :=
  ⟨fun h => (nomatch h), fun _ => rfl⟩

theorem Prompt.sendSupervisory (e : Endpoint) (hw : 0 < e.window.w.toNat) :
    e.sendSupervisory.Prompt :=
  ⟨fun _ => hw, fun _ => rfl⟩

theorem Prompt.sendInformation (e : Endpoint) (octets : Octets) (hw : 0 < e.window.w.toNat) :
    (e.sendInformation now octets).Prompt :=
  ⟨fun _ => hw, fun _ => rfl⟩

theorem Prompt.owed (h : e.Prompt) (hw : 0 < e.window.w.toNat) :
    (if 0 < e.window.unacknowledged then e.sendSupervisory else e).Prompt := by
  split
  · exact .sendSupervisory e hw
  · exact h

theorem Prompt.act (h : e.Prompt) (hw : 0 < e.window.w.toNat) (hact : e.Act now input e') :
    e'.Prompt := by
  cases hact with
  | silent => exact h
  | closes => exact .close e _
  | sends => exact .sendInformation e _ hw
  | asksStart | asksStop => exact ⟨h.unacknowledged_lt, h.scheduled⟩
  | confirmsStart => exact ⟨h.unacknowledged_lt, fun hstate => (nomatch hstate)⟩
  | @passes e₁ _ _ howed htested =>
    have he₁ : e₁.Prompt := by
      cases howed with
      | waits => exact h
      | lapses => exact ⟨h.unacknowledged_lt, fun _ => rfl⟩
      | acknowledges => exact .sendSupervisory e hw
    cases htested with
    | waits => exact he₁
    | tests => exact ⟨he₁.unacknowledged_lt, he₁.scheduled⟩

/-- An open endpoint can count one more frame, also after it has released some. -/
theorem Prompt.count_lt {b : Ledger} (h : e.Prompt) (hb : b.Sound e) (hclosed : e.closed = none)
    {number : UInt16} {released : Nat} {window : Window}
    (hack : e.window.acknowledge number = .ok (released, window)) :
    window.unacknowledged.toNat < 65535 := by
  obtain ⟨-, -, -, hunacknowledged⟩ := hb.records.acknowledge hack
  have hlt := h.unacknowledged_lt hclosed
  have hrange := UInt16.toNat_lt e.window.w
  rw [hunacknowledged]
  omega

/-- What an open endpoint owes after it has accepted a frame. -/
theorem Prompt.accept {b : Ledger} (h : e.Prompt) (hb : b.Sound e) (hclosed : e.closed = none)
    {number send : UInt16} {released : Nat} {window accepted : Window} {due : Bool}
    (hack : e.window.acknowledge number = .ok (released, window))
    (haccept : window.accept send = .ok (due, accepted)) :
    accepted.w = e.window.w ∧
      accepted.unacknowledged.toNat = e.window.unacknowledged.toNat + 1 ∧
      (due = true ↔ e.window.w.toNat ≤ e.window.unacknowledged.toNat + 1) := by
  obtain ⟨hrecords, -, hw, hunacknowledged⟩ := hb.records.acknowledge hack
  have hcount := h.count_lt hb hclosed hack
  obtain ⟨-, -, hw', hunacknowledged', hdue⟩ := hrecords.accept hcount haccept
  rw [hw, hunacknowledged] at hdue
  rw [hunacknowledged] at hunacknowledged'
  exact ⟨hw'.trans hw, hunacknowledged', hdue⟩

theorem Prompt.receive {b : Ledger} (h : e.Prompt) (hb : b.Sound e)
    (hw : 0 < e.window.w.toNat) (hclosed : e.closed = none) (hreceive : e.Receive apdu e') :
    e'.Prompt := by
  cases hreceive with
  | supervisory _ hack =>
    obtain ⟨-, -, hsame, hunacknowledged⟩ := hb.records.acknowledge hack
    exact ⟨by rw [hsame, hunacknowledged]; exact h.unacknowledged_lt, h.scheduled⟩
  | information hstate hack haccept =>
    obtain ⟨hsame, hcount, hdue⟩ := h.accept hb hclosed hack haccept
    refine ⟨fun _ => ?_, fun hstopped => by rw [hstate] at hstopped; cases hstopped⟩
    -- Otherwise an acknowledgment would be due.
    have hlt : e.window.unacknowledged.toNat + 1 < e.window.w.toNat :=
      Nat.lt_of_not_le fun hle => Bool.false_ne_true (hdue.mpr hle)
    show _ < _
    rw [hsame, hcount]
    exact hlt
  | informationDue _ hack haccept =>
    obtain ⟨hsame, -⟩ := h.accept hb hclosed hack haccept
    exact .sendSupervisory _ (by rw [hsame]; exact hw)
  | test | tested | startedAlready | startRequested => exact ⟨h.unacknowledged_lt, h.scheduled⟩
  | startedByOther | startConfirmed =>
    exact ⟨h.unacknowledged_lt, fun hstate => (nomatch hstate)⟩
  | stoppedByOther _ howed =>
    have howed := howed ▸ h.owed hw
    exact ⟨howed.unacknowledged_lt, fun _ => rfl⟩
  | stoppedAlready _ howed =>
    have howed := howed ▸ h.owed hw
    exact ⟨howed.unacknowledged_lt, howed.scheduled⟩
  | stopConfirmed => exact ⟨h.unacknowledged_lt, fun _ => rfl⟩
  | _ => exact .close _ _

end Endpoint

/-! ### One step -/

namespace Ledger

variable {b : Ledger} {e e' : Endpoint} {now : Nat} {input : LinkInput} {apdu : Apdu}
  {frames : List Apdu}

theorem Sound.record_frame (e₁ : Endpoint) (hreceived : (b.receive e apdu).Sound e₁)
    (hframes : e₁.frames = e.frames) (hposts : e₁.Posts now e.stopping frames e') :
    (b.record e now (.frame apdu) e').Sound e' := by
  have hdrop : e'.frames.drop e.frames.length = frames := by
    rw [hposts.frames_eq, hframes, List.drop_left]
  show ((b.receive e apdu).post now e.stopping (e'.frames.drop e.frames.length)).Sound e'
  rw [hdrop]
  exact hposts.sound hreceived

theorem Sound.act (h : b.Sound e) (hact : e.Act now input e')
    (hinput : ∀ apdu, input ≠ .frame apdu) : (b.record e now input e').Sound e' := by
  obtain ⟨frames, hposts⟩ := hact.posts e.stopping
  have hrecord : b.record e now input e' = b.post now e.stopping frames := by
    have hdrop : e'.frames.drop e.frames.length = frames := by
      rw [hposts.frames_eq, List.drop_left]
    unfold record
    split
    · exact absurd rfl (hinput _)
    · rw [hdrop]
  rw [hrecord]
  exact hposts.sound h

/-- A frame of the other station, whatever it is. -/
theorem Sound.receive (h : b.Sound e) (hprompt : e.Prompt) (hclosed : e.closed = none)
    (hreceive : e.Receive apdu e') : (b.record e now (.frame apdu) e').Sound e' := by
  have haccepted : ∀ {number released window send due accepted octets},
      e.window.acknowledge number = .ok (released, window) →
      window.accept send = .ok (due, accepted) →
      ({ b with released := b.released + released, accepted := b.accepted ++ [octets] } :
        Ledger).Sound { e with window := accepted } := by
    intro number released window send due accepted octets hack haccept
    exact (h.release hack).accept (hprompt.count_lt h hclosed hack) haccept octets
  cases hreceive with
  | informationStopped hstate =>
    refine .record_frame e ?_ rfl (.keeps ⟨rfl, rfl, rfl⟩)
    rwa [receive_of_not_started b _ (by simp [hstate])]
  | supervisoryStopped hstate =>
    refine .record_frame e ?_ rfl (.keeps ⟨rfl, rfl, rfl⟩)
    rwa [receive_of_not_started b _ (by simp [hstate])]
  | supervisoryRefused hstate hack =>
    refine .record_frame e ?_ rfl (.keeps ⟨rfl, rfl, rfl⟩)
    rwa [receive_supervisory_refused b hack]
  | informationRefused hstate hack =>
    refine .record_frame e ?_ rfl (.keeps ⟨rfl, rfl, rfl⟩)
    rwa [receive_information_refused b hack]
  | @supervisory _ _ _ window hstate hack =>
    refine .record_frame { e with window := window } ?_ rfl (.keeps ⟨rfl, rfl, rfl⟩)
    rw [receive_supervisory b hclosed hstate hack]
    exact h.release hack
  | @numberRefused _ _ _ _ window _ hstate hack haccept =>
    -- What the frame acknowledges is released before its own number is looked at.
    refine .record_frame { e with window := window } ?_ rfl (.keeps ⟨rfl, rfl, rfl⟩)
    rw [receive_number_refused b hclosed hstate hack haccept]
    exact h.release hack
  | @unitRefused _ _ _ _ _ _ accepted _ hstate hack haccept =>
    -- The frame counts as accepted, although its unit cannot be read.
    refine .record_frame { e with window := accepted } ?_ rfl (.keeps ⟨rfl, rfl, rfl⟩)
    rw [receive_information b hclosed hstate hack haccept]
    exact haccepted hack haccept
  | @information _ _ _ _ _ accepted hstate hack haccept =>
    refine .record_frame { e with window := accepted } ?_ rfl (.keeps ⟨rfl, rfl, rfl⟩)
    rw [receive_information b hclosed hstate hack haccept]
    exact haccepted hack haccept
  | @informationDue _ _ _ _ _ accepted hstate hack haccept =>
    refine .record_frame { e with window := accepted } ?_ rfl (.supervisory _)
    rw [receive_information b hclosed hstate hack haccept]
    exact haccepted hack haccept
  | stoppedByOther hstate howed =>
    obtain ⟨frames, hposts⟩ := Endpoint.posts_owed e now e.stopping
    rw [← howed] at hposts
    refine .record_frame e (by rwa [receive_unnumbered]) rfl
      ((hposts.trans (.unnumbered _ .stopCon)).trans (.keeps ⟨rfl, rfl, rfl⟩))
  | stoppedAlready hstate howed =>
    obtain ⟨frames, hposts⟩ := Endpoint.posts_owed e now e.stopping
    rw [← howed] at hposts
    exact .record_frame e (by rwa [receive_unnumbered]) rfl
      (hposts.trans (.unnumbered _ .stopCon))
  | test =>
    exact .record_frame e (by rwa [receive_unnumbered]) rfl (.unnumbered e _)
  | startedAlready =>
    exact .record_frame e (by rwa [receive_unnumbered]) rfl (.unnumbered e _)
  | startedByOther =>
    exact .record_frame e (by rwa [receive_unnumbered]) rfl
      (.keeps_unnumbered ⟨rfl, rfl, rfl⟩)
  | tested | startRequested | startConfirmed | stopConfirmed | testUnsolicited
  | startUnsolicited | stopUnsolicited =>
    exact .record_frame e (by rwa [receive_unnumbered]) rfl (.keeps ⟨rfl, rfl, rfl⟩)

theorem record_closed (hclosed : e.closed ≠ none) :
    b.record e now (.frame apdu) e = b := by
  show (b.receive e apdu).post now e.stopping (e.frames.drop e.frames.length) = b
  rw [List.drop_length, post_nil]
  exact receive_of_not_started b apdu fun h => hclosed h.1

end Ledger

/-! ### Runs -/

/-- A link with its ledger. -/
structure Station where
  link : Link
  ledger : Ledger := {}

namespace Station

/-- A station at the beginning of a connection. -/
def new (settings : Settings) (extension : Option Extension) : Station where
  link := Link.new settings extension

/-- What happens to a station at an instant. -/
def step (s : Station) (now : Nat) (input : LinkInput) : Station where
  link := s.link.step now input
  ledger := s.ledger.record s.link.endpoint now input (s.link.step now input).endpoint

/-- What happens to a station at one instant after the other. -/
def run (s : Station) (inputs : List (Nat × LinkInput)) : Station :=
  inputs.foldl (fun s input => s.step input.1 input.2) s

/-- The endpoint of the link of a station. -/
abbrev endpoint (s : Station) : Endpoint := s.link.endpoint

/-- What holds of a station at every instant. -/
structure Sound (s : Station) : Prop where
  valid : s.link.settings.Valid
  ledger : s.ledger.Sound s.endpoint
  prompt : s.endpoint.Prompt

/-- The ledger is kept beside the link. -/
theorem run_link (s : Station) (inputs : List (Nat × LinkInput)) :
    (s.run inputs).link = s.link.run inputs := by
  induction inputs generalizing s with
  | nil => rfl
  | cons input inputs ih => exact ih (s.step input.1 input.2)

theorem run_concat (s : Station) (inputs : List (Nat × LinkInput)) (input : Nat × LinkInput) :
    s.run (inputs ++ [input]) = (s.run inputs).step input.1 input.2 := by
  rw [run, List.foldl_append]
  rfl

theorem run_append (s : Station) (first rest : List (Nat × LinkInput)) :
    s.run (first ++ rest) = (s.run first).run rest := List.foldl_append

/-- A closed connection stays closed for the same cause. -/
theorem closed_step {s : Station} {cause : Fault} (h : s.link.closed = some cause) (now : Nat)
    (input : LinkInput) : (s.step now input).link.closed = some cause := by
  rcases s.link.step_cases now input with ⟨-, hact⟩ | ⟨-, -, hclosed, -⟩ | ⟨-, -, -, heq⟩
  · exact hact.closed_of_closed h
  · rw [h] at hclosed
    cases hclosed
  · exact (congrArg Link.closed heq).trans h

theorem open_before {s : Station} {now : Nat} {input : LinkInput}
    (h : (s.step now input).link.closed = none) : s.link.closed = none := by
  cases hclosed : s.link.closed with
  | none => rfl
  | some cause =>
    rw [closed_step hclosed] at h
    cases h

theorem accepted_frame (s : Station) (now : Nat) (apdu : Apdu) :
    (s.step now (.frame apdu)).ledger.accepted =
      s.ledger.accepted ++ (s.endpoint.accepts? apdu).toList := rfl

/-- A closed connection takes no notice of frames. -/
theorem step_of_closed {s : Station} (h : s.link.closed ≠ none) (now : Nat) (apdu : Apdu) :
    s.step now (.frame apdu) = s := by
  have hlink : s.link.step now (.frame apdu) = s.link := Link.handleFrame_of_closed now h apdu
  rw [Station.step, hlink, Ledger.record_closed h]

theorem settings_step (s : Station) (now : Nat) (input : LinkInput) :
    (s.step now input).link.settings = s.link.settings :=
  (s.link.sameSetup_step now input).1

theorem extension_step (s : Station) (now : Nat) (input : LinkInput) :
    (s.step now input).link.extension = s.link.extension :=
  (s.link.sameSetup_step now input).2

theorem settings_run (s : Station) (inputs : List (Nat × LinkInput)) :
    (s.run inputs).link.settings = s.link.settings := by
  induction inputs generalizing s with
  | nil => rfl
  | cons input inputs ih => exact (ih _).trans (s.settings_step input.1 input.2)

theorem extension_run (s : Station) (inputs : List (Nat × LinkInput)) :
    (s.run inputs).link.extension = s.link.extension := by
  induction inputs generalizing s with
  | nil => rfl
  | cons input inputs ih => exact (ih _).trans (s.extension_step input.1 input.2)

theorem sound_new {settings : Settings} (hvalid : settings.Valid)
    (extension : Option Extension) : (new settings extension).Sound where
  valid := hvalid
  ledger := .new settings extension
  prompt := ⟨fun _ => hvalid.w_pos, fun _ => rfl⟩

variable {s : Station}

theorem Sound.k_eq (h : s.Sound) : s.link.window.k = s.link.settings.k := h.ledger.k

theorem Sound.w_eq (h : s.Sound) : s.link.window.w = s.link.settings.w := h.ledger.w

theorem Sound.step (h : s.Sound) (now : Nat) (input : LinkInput) :
    (s.step now input).Sound := by
  have hpos : 0 < s.endpoint.window.w.toNat := by
    show 0 < s.link.window.w.toNat
    rw [h.w_eq]
    exact h.valid.w_pos
  have hvalid : (s.step now input).link.settings.Valid := s.settings_step now input ▸ h.valid
  rcases s.link.step_cases now input with
    ⟨hinput, hact⟩ | ⟨apdu, rfl, hclosed, hreceive⟩ | ⟨apdu, rfl, hclosed, -⟩
  · exact ⟨hvalid, h.ledger.act hact hinput, h.prompt.act hpos hact⟩
  · exact ⟨hvalid, h.ledger.receive h.prompt hclosed hreceive,
      h.prompt.receive h.ledger hpos hclosed hreceive⟩
  · rw [step_of_closed hclosed]
    exact h

theorem Sound.run (h : s.Sound) (inputs : List (Nat × LinkInput)) : (s.run inputs).Sound := by
  induction inputs generalizing s with
  | nil => exact h
  | cons input inputs ih => exact ih (h.step input.1 input.2)

/-- Against any other station, a station keeps the rules of the sliding window. -/
theorem run_keeps_window (settings : Settings) (extension : Option Extension)
    (hvalid : settings.Valid) (inputs : List (Nat × LinkInput)) :
    let s := (new settings extension).run inputs
    s.link = (Link.new settings extension).run inputs ∧
      s.ledger.sent.map (·.apdu) = s.link.log.filterMap Effect.frame? ∧
      s.link.window.outstanding.toList =
        (numbered (s.ledger.informations.map (·.sent))).drop s.ledger.released ∧
      (∀ i packet, s.ledger.informations[i]? = some packet →
        packet.apdu.control.send? = some (frameNumber i)) ∧
      (∀ packet ∈ s.ledger.sent, ∀ receive, packet.apdu.control.receive? = some receive →
        receive = frameNumber packet.accepted) ∧
      s.ledger.released ≤ s.ledger.informations.length ∧
      s.ledger.informations.length ≤ s.ledger.released + settings.k.toNat ∧
      (s.link.closed = none →
        s.ledger.accepted.length < s.ledger.covered + settings.w.toNat) := by
  intro s
  have hsound : s.Sound := (sound_new hvalid extension).run inputs
  have hsettings : s.link.settings = settings := settings_run _ inputs
  have hrecords := hsound.ledger.records
  have hlength : (s.ledger.informations.map (·.sent)).length = s.ledger.informations.length :=
    List.length_map _
  refine ⟨run_link _ inputs, hsound.ledger.frames, hrecords.outstanding,
    hsound.ledger.numbered, hsound.ledger.acknowledges, ?_, ?_, ?_⟩
  · rw [← hlength]
    exact hrecords.released_le
  · rw [← hlength, ← hsettings, ← hsound.k_eq]
    exact hrecords.length_le
  · intro hclosed
    have hlt := hsound.prompt.unacknowledged_lt hclosed
    rw [hrecords.accepted_eq, ← hsettings, ← hsound.w_eq]
    exact Nat.add_lt_add_left hlt _

/-- With windows of one frame, a command that is sent and answered is acknowledged, and so is
its answer. -/
theorem single_frame_windows_kept :
    ({ k := 1, w := 1 } : Settings).Valid ∧
      let s := (new { k := 1, w := 1 } none).run
        [(0, .call 0 (.start 0 9)), (1, .frame (.unnumbered .startCon)),
          (2, .call 1 (.send (.single .interrogation .activation 1 0
            [.interrogationQualifier 20]))),
          (3, .frame (.information 0 1 [100, 1, 7, 0, 1, 0, 0, 0, 0, 20]))]
      s.ledger.informations.length = 1 ∧ s.ledger.released = 1 ∧
        s.link.window.outstanding.toList = [] ∧ s.ledger.accepted.length = 1 ∧
        s.ledger.accepted.length < s.ledger.covered + 1 := by
  have hvalid : ({ k := 1, w := 1 } : Settings).Valid := (Settings.validate_eq_ok_iff _).mp rfl
  refine ⟨hvalid, ?_⟩
  intro s
  obtain ⟨-, -, houtstanding, -, -, -, -, hcovered⟩ := run_keeps_window _ none hvalid
    [(0, .call 0 (.start 0 9)), (1, .frame (.unnumbered .startCon)),
      (2, .call 1 (.send (.single .interrogation .activation 1 0
        [.interrogationQualifier 20]))),
      (3, .frame (.information 0 1 [100, 1, 7, 0, 1, 0, 0, 0, 0, 20]))]
  exact ⟨rfl, rfl, houtstanding, rfl, hcovered rfl⟩

end Station

end Telecontrol
