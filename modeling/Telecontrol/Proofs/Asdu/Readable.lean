import Telecontrol.Command
import Telecontrol.Proofs.Asdu.RoundTrip
import Telecontrol.Proofs.Link.Endpoint

/-!
# Units that can be sent and not be read

A unit without element sets at consecutive addresses is `Vacant`: an empty directory is one.
It can be written, with the address of its object; but the reader, who is told that there are
no element sets, expects no address, and finds octets left over (`AsduFormat.decode_vacant`).
Every other unit of a standard type that can be written is read, with as many objects and
element sets as it had (`AsduFormat.readable_iff_not_vacant`).
-/

namespace Telecontrol

/-- How many element sets each object has. -/
def Asdu.shape (a : Asdu) : List Nat := a.objects.map fun o => o.sets.length

/-- The element sets have consecutive addresses, but an object has none. -/
def Asdu.Vacant (a : Asdu) : Prop := a.sequence = true ∧ ∃ o ∈ a.objects, o.sets = []

theorem Asdu.shape_clipped (f : AsduFormat) (a : Asdu) : (a.clipped f).shape = a.shape := by
  have hobjects : (a.clipped f).objects = a.objects.map InformationObject.clipped := by
    unfold clipped objects
    cases a.body <;> rfl
  rw [shape, shape, hobjects, List.map_map]
  exact List.map_congr_left fun o _ => List.length_map _

namespace AsduFormat

variable {f : AsduFormat} {a : Asdu} {type : AsduType} {objects : List InformationObject}
  {octets : Octets}

/-- All that is written of the objects of a vacant unit is an address. -/
theorem encode_vacant (htype : a.type = .standard type) (hbody : a.body = .objects objects)
    (hvacant : a.Vacant) (h : f.encode a = .ok octets) :
    a.count = 0 ∧ f.Accepts a type objects ∧ ∃ cause address, causeOctet a = .ok cause ∧
      address.length = f.objectAddressWidth ∧
      octets = a.type.octet :: a.structureQualifier.octet :: cause ::
        (f.stationOctets a ++ address) := by
  obtain ⟨hfault, cause, body, hcause, hwrite, rfl⟩ := encode_eq_ok h
  have haccepts := accepts_of_fault? htype hbody hfault
  obtain ⟨hsequence, o, hmem, hempty⟩ := hvacant
  obtain ⟨only, rfl⟩ := haccepts.consecutive hsequence
  rw [Asdu.objects_eq hbody, List.mem_singleton] at hmem
  subst hmem
  have hcount : a.count = 0 := by simp [Asdu.count, hbody, hsequence, hempty]
  rw [hbody] at hwrite
  obtain ⟨address, rest, haddress, hrest, rfl⟩ := writeAll_cons_eq_ok hwrite
  cases hrest
  obtain ⟨sets, hsets, rfl⟩ := encodeObject_eq_ok haddress
  rw [hempty] at hsets
  cases hsets
  refine ⟨hcount, haccepts, cause, _, hcause, ?_, rfl⟩
  rw [List.append_nil, List.append_nil]
  exact Octets.length_ofNat _ _

/-- The address of a vacant unit is left over when the unit is read. -/
theorem decode_vacant (hcause : f.causeWidth = 1 ∨ f.causeWidth = 2)
    (haddress : 0 < f.objectAddressWidth) (htype : a.type = .standard type)
    (hbody : a.body = .objects objects) (hvacant : a.Vacant) (h : f.encode a = .ok octets) :
    f.decode octets = .error (.invalidAsdu (.trailingOctets f.objectAddressWidth 0)) := by
  obtain ⟨hcount, haccepts, cause, address, -, hwidth, rfl⟩ :=
    encode_vacant htype hbody hvacant h
  have hqualifier : StructureQualifier.ofOctet a.structureQualifier.octet = ⟨0, true⟩ := by
    rw [Asdu.structureQualifier, hcount, hvacant.1]
    rfl
  obtain ⟨hlength, -, -, hdrop⟩ := stationOctets_fields hcause haccepts.commonAddress address
  have hoctet : TypeIdentification.ofOctet a.type.octet = .standard type := by
    rw [htype]
    exact TypeIdentification.ofOctet_code type
  have hroom : ¬(a.type.octet :: a.structureQualifier.octet :: cause ::
      (f.stationOctets a ++ address)).length < f.headerLength := Nat.not_lt.mpr hlength
  have hbody : f.decodeBody (.standard type) ⟨0, true⟩ address = .ok (.objects [], address) :=
    rfl
  have hleft : address.isEmpty = false := by
    rw [List.isEmpty_eq_false_iff_exists_mem]
    exact List.exists_mem_of_length_pos (by omega)
  rw [decode, if_neg hroom]
  simp only [hdrop, hoctet, hqualifier, hbody]
  show (if address.isEmpty then _ else _) = _
  rw [hleft, if_neg Bool.false_ne_true, hwidth]
  rfl

theorem decode_not_vacant (hcause : f.causeWidth = 1 ∨ f.causeWidth = 2)
    (htype : a.type = .standard type) (hbody : a.body = .objects objects)
    (hvacant : ¬a.Vacant) (h : f.encode a = .ok octets) :
    f.decode octets = .ok (a.clipped f) := by
  refine decode_encode hcause htype hbody (fun hsequence o hmem hempty => ?_) h
  exact hvacant ⟨hsequence, o, by rwa [Asdu.objects_eq hbody], hempty⟩

end AsduFormat

/-! ### The other station -/

/-- A connection is closed for an invalid unit only if the unit of the received frame cannot be
read. -/
theorem Endpoint.Receive.unit_invalid {e e' : Endpoint} {apdu : Apdu} {fault : AsduFault}
    (h : e.Receive apdu e') (hopen : e.closed = none)
    (hclosed : e'.closed = some (.invalidAsdu fault)) :
    ∃ octets, apdu.asdu? = some octets ∧ e.format.decode octets = .error (.invalidAsdu fault) := by
  have hsequence : ∀ {number cause}, e.window.acknowledge number = .error cause →
      cause ≠ .invalidAsdu fault := by
    rintro number cause hack rfl
    simp only [Window.acknowledge] at hack
    split at hack <;> cases hack
  cases h with
  | supervisoryRefused _ hack | informationRefused _ hack =>
    exact absurd (Option.some.inj hclosed) (hsequence hack)
  | numberRefused _ _ haccept =>
    cases hclosed
    unfold Window.accept at haccept
    split at haccept <;> cases haccept
  | @unitRefused _ _ octets? _ _ _ _ _ _ _ _ hunit =>
    cases hclosed
    cases octets? with
    | none => cases hunit
    | some octets =>
      refine ⟨octets, rfl, ?_⟩
      simp only [unitFault?] at hunit
      split at hunit
      · next hdecode => rw [hdecode, Option.some.inj hunit]
      · cases hunit
  | informationStopped | supervisoryStopped | testUnsolicited | startUnsolicited
  | stopUnsolicited => cases hclosed
  | stoppedByOther _ howed | stoppedAlready _ howed =>
    subst howed
    refine absurd (hclosed.symm.trans (?_ : _ = none)) (Option.some_ne_none _)
    split <;> exact hopen
  | _ => exact absurd (hclosed.symm.trans hopen) (Option.some_ne_none _)

/-- A frame with the numbers that are expected closes the connection if its unit cannot be
read. -/
theorem Endpoint.Receive.closed_of_unreadable {e e' : Endpoint} {send receive : UInt16}
    {octets : Octets} {released : Nat} {window accepted : Window} {due : Bool} {cause : Fault}
    (h : e.Receive (.information send receive octets) e') (hstate : e.state = .started)
    (hack : e.window.acknowledge receive = .ok (released, window))
    (haccept : window.accept send = .ok (due, accepted))
    (hdecode : e.format.decode octets = .error cause) : e'.closed = some cause := by
  have hfault : e.unitFault? (some octets) = some cause := by
    simp only [unitFault?, hdecode]
  cases h with
  | informationStopped hstopped => cases hstate.symm.trans hstopped
  | informationRefused _ hrefused => cases hack.symm.trans hrefused
  | numberRefused _ hack' hrefused =>
    cases hack.symm.trans hack'
    cases haccept.symm.trans hrefused
  | unitRefused _ _ _ hunit => exact hunit.symm.trans hfault
  | information _ _ _ hunit | informationDue _ _ _ hunit => cases hunit.symm.trans hfault

/-- The octets of a unit close an open connection as invalid, in some run of a station. -/
def Settings.Refuses (settings : Settings) (extension : Option Extension) (octets : Octets) :
    Prop :=
  ∃ inputs now send receive fault,
    ((Link.new settings extension).run inputs).closed = none ∧
      (((Link.new settings extension).run inputs).step now
        (.frame (.information send receive octets))).closed = some (.invalidAsdu fault)

theorem Settings.refuses_iff (settings : Settings) (extension : Option Extension)
    (octets : Octets) :
    settings.Refuses extension octets ↔
      ∃ fault, (settings.format extension).decode octets = .error (.invalidAsdu fault) := by
  constructor
  · rintro ⟨inputs, now, send, receive, fault, hopen, hclosed⟩
    obtain ⟨read, hread, hdecode⟩ :=
      (Link.endpoint_handleFrame now hopen _).unit_invalid hopen hclosed
    cases hread
    refine ⟨fault, ?_⟩
    rwa [show (Link.endpoint _).format = settings.format extension from
      Link.format_run (Link.new settings extension) inputs] at hdecode
  · rintro ⟨fault, hdecode⟩
    -- Data transfer is started, and the unit is that of the first frame after it.
    refine ⟨[(0, .call 0 (.start 0 0)), (0, .frame (.unnumbered .startCon))], 0, 0, 0, fault,
      rfl, ?_⟩
    generalize hl : (Link.new settings extension).run _ = l
    have hopen : l.closed = none := by rw [← hl]; rfl
    have hwindow : l.endpoint.window = { k := settings.k, w := settings.w } := by rw [← hl]; rfl
    have hack : l.endpoint.window.acknowledge 0 = .ok (0, l.endpoint.window) := by
      rw [hwindow]
      simp [Window.acknowledge, Window.distance, Window.base, sequenceModulus]
    have haccept : l.endpoint.window.accept 0 = .ok (settings.w ≤ 1,
        { k := settings.k, w := settings.w, receive := 1, unacknowledged := 1 }) := by
      rw [hwindow]
      rfl
    refine (Link.endpoint_handleFrame 0 hopen _).closed_of_unreadable ?_ hack haccept ?_
    · rw [← hl]
      rfl
    · rw [← hl]
      exact hdecode

/-- A unit of a standard type that can be written is read again, with as many element sets in
as many objects, and no connection with the same settings is closed by it as invalid, exactly
if it is not vacant. -/
theorem AsduFormat.readable_iff_not_vacant (settings : Settings) (hvalid : settings.Valid)
    (extension : Option Extension) (a : Asdu) (type : AsduType)
    (objects : List InformationObject) (octets : Octets) (htype : a.type = .standard type)
    (hbody : a.body = .objects objects)
    (h : (settings.format extension).encode a = .ok octets) :
    ((∃ b, (settings.format extension).decode octets = .ok b ∧ b.shape = a.shape) ↔
        ¬a.Vacant) ∧
      (settings.Refuses extension octets ↔ a.Vacant) := by
  have haddress : 0 < (settings.format extension).objectAddressWidth := by
    have hwidth := hvalid.objectAddressWidth
    show 0 < settings.objectAddressWidth
    omega
  rw [Settings.refuses_iff]
  by_cases hvacant : a.Vacant
  · have hdecode := decode_vacant hvalid.causeWidth haddress htype hbody hvacant h
    refine ⟨⟨?_, fun hnot => absurd hvacant hnot⟩, fun _ => hvacant, fun _ => ⟨_, hdecode⟩⟩
    rintro ⟨b, hread, -⟩
    cases hdecode.symm.trans hread
  · have hdecode := decode_not_vacant hvalid.causeWidth htype hbody hvacant h
    refine ⟨⟨fun _ => hvacant, fun _ => ⟨_, hdecode, a.shape_clipped _⟩⟩, ?_,
      fun hyes => absurd hyes hvacant⟩
    rintro ⟨fault, hfault⟩
    cases hdecode.symm.trans hfault

/-- A directory with one file is read by every station with the same settings. -/
theorem AsduFormat.directory_of_one_file_readable :
    ({} : Settings).Valid ∧
      let f := ({} : Settings).format none
      let a := (Command.directory 700
        [⟨1, 512, 0, .ofBits 0, ⟨1000, 30, 12, 15, 3, 6, 24, false, false⟩⟩]).asdu 0 1
      ∃ octets, f.encode a = .ok octets ∧
        (∃ b, f.decode octets = .ok b ∧ b.shape = [1]) ∧
          ¬({} : Settings).Refuses none octets := by
  have hvalid : ({} : Settings).Valid := (Settings.validate_eq_ok_iff _).mp rfl
  refine ⟨hvalid, _, rfl, ?_⟩
  obtain ⟨hread, hrefuses⟩ := readable_iff_not_vacant {} hvalid none
    ((Command.directory 700
      [⟨1, 512, 0, .ofBits 0, ⟨1000, 30, 12, 15, 3, 6, 24, false, false⟩⟩]).asdu 0 1)
    .directory _ _ rfl rfl rfl
  have hvacant : ¬((Command.directory 700
      [⟨1, 512, 0, .ofBits 0, ⟨1000, 30, 12, 15, 3, 6, 24, false, false⟩⟩]).asdu 0 1).Vacant := by
    rintro ⟨-, o, ho, hempty⟩
    obtain rfl := List.mem_singleton.mp ho
    cases hempty
  exact ⟨hread.mpr hvacant, fun h => hvacant (hrefuses.mp h)⟩

/-- An empty directory can be sent, and closes the connection of the station that receives
it. -/
theorem AsduFormat.empty_directory_not_readable :
    ∃ octets, (({} : Settings).format none).encode ((Command.directory 700 []).asdu 0 1) =
        .ok octets ∧
      (({} : Settings).format none).decode octets =
          .error (.invalidAsdu (.trailingOctets 3 0)) ∧
        ((Link.new {} none).run [(0, .call 0 (.start 0 9)), (1, .frame (.unnumbered .startCon)),
          (2, .frame (.information 0 0 octets))]).closed =
            some (.invalidAsdu (.trailingOctets 3 0)) :=
  ⟨[126, 128, 13, 0, 1, 0, 188, 2, 0], rfl, rfl, rfl⟩

end Telecontrol
