import Telecontrol.Command
import Telecontrol.Proofs.Asdu.Confirmation
import Telecontrol.Proofs.Asdu.Sendable

/-!
# Commands say what was asked

`Command.demand` is what a command asks for in the terms of the standard: the name of its type,
which tells whether there is a time tag, the cause, the address and the element sets. The unit of a
command says just that (`Asdu.Says`, `Command.says`). If the arguments fit their fields, the unit
can be sent, and the other station reads what was asked for, from the originator that the settings
name (`Command.read_as_asked`).
-/

namespace Telecontrol

/-- What is asked of another station, in the terms of the standard. -/
structure Demand where
  /-- The name of the type in the standard. -/
  mnemonic : String
  /-- The cause of transmission. -/
  cause : Cause
  /-- The address of the first element set. -/
  address : UInt32
  /-- The element sets, at consecutive addresses. -/
  sets : List ElementSet

namespace Demand

/-- A switching command: its type depends on whether there is a time tag, which is the last
element. -/
def switching (options : CommandOptions) (plain timed : String) (address : UInt32)
    (elements : ElementSet) : Demand :=
  match options.time with
  | none => ⟨plain, .activation, address, [elements]⟩
  | some time => ⟨timed, .activation, address, [elements ++ [.time56 time]]⟩

/-- A parameter that is set. -/
def parameter (mnemonic : String) (address : UInt32) (value : Element) (kind : UInt8) : Demand :=
  ⟨mnemonic, .activation, address, [[value, .measuredParameterQualifier kind false false]]⟩

/-- A message about a file. -/
def file (mnemonic : String) (address : UInt32) (name : UInt16) (elements : ElementSet) :
    Demand :=
  ⟨mnemonic, .fileTransfer, address, [.fileName name :: elements]⟩

/-- The arguments fit their fields. -/
structure Fits (width : Nat) (r : Demand) : Prop where
  cause : ∃ octet, r.cause = .ofOctet octet
  number : 1 ≤ r.sets.length ∧ r.sets.length ≤ maxCount
  address : r.address.toNat + (r.sets.length - 1) < Octets.bound width
  elements : ∀ set ∈ r.sets, ∀ e ∈ set, e.Fits ∧ e.Writable

end Demand

/-- What a command asks for. -/
def Command.demand : Command → Demand
  | interrogation qualifier =>
    ⟨"C_IC_NA_1", .activation, 0, [[.interrogationQualifier qualifier]]⟩
  | counterInterrogation cause request freeze =>
    ⟨"C_CI_NA_1", cause, 0, [[.counterQualifier request freeze]]⟩
  | read address => ⟨"C_RD_NA_1", .request, address, [[]]⟩
  | clockSynchronization time => ⟨"C_CS_NA_1", .activation, 0, [[.time56 time]]⟩
  | test => ⟨"C_TS_NA_1", .activation, 0, [[.fixedTestPattern]]⟩
  | testWithTime counter time =>
    ⟨"C_TS_TA_1", .activation, 0, [[.testSequenceCounter counter, .time56 time]]⟩
  | resetProcess qualifier => ⟨"C_RP_NA_1", .activation, 0, [[.resetQualifier qualifier]]⟩
  | delayAcquisition delay => ⟨"C_CD_NA_1", .activation, 0, [[.time16 delay]]⟩
  | single address on o =>
    .switching o "C_SC_NA_1" "C_SC_TA_1" address [.singleCommand on o.qualifier o.select]
  | double address state o =>
    .switching o "C_DC_NA_1" "C_DC_TA_1" address [.doubleCommand state o.qualifier o.select]
  | regulatingStep address state o =>
    .switching o "C_RC_NA_1" "C_RC_TA_1" address [.regulatingStep state o.qualifier o.select]
  | setpointNormalized address value o =>
    .switching o "C_SE_NA_1" "C_SE_TA_1" address
      [.normalized value, .setpointQualifier o.qualifier o.select]
  | setpointScaled address value o =>
    .switching o "C_SE_NB_1" "C_SE_TB_1" address
      [.scaled value, .setpointQualifier o.qualifier o.select]
  | setpointFloat address encoding o =>
    .switching o "C_SE_NC_1" "C_SE_TC_1" address
      [.shortFloat encoding, .setpointQualifier o.qualifier o.select]
  | bitstring address value o => .switching o "C_BO_NA_1" "C_BO_TA_1" address [.bitstring value]
  | parameterNormalized address value kind =>
    .parameter "P_ME_NA_1" address (.normalized value) kind
  | parameterScaled address value kind => .parameter "P_ME_NB_1" address (.scaled value) kind
  | parameterFloat address encoding kind =>
    .parameter "P_ME_NC_1" address (.shortFloat encoding) kind
  | parameterActivation address qualifier =>
    ⟨"P_AC_NA_1", .activation, address, [[.parameterActivationQualifier qualifier]]⟩
  | fileReady address name length qualifier negative =>
    .file "F_FR_NA_1" address name [.fileLength length, .fileReady qualifier negative]
  | sectionReady address name sectionName length qualifier notReady =>
    .file "F_SR_NA_1" address name
      [.sectionName sectionName, .fileLength length, .sectionReady qualifier notReady]
  | selectCall cause address name sectionName qualifier =>
    { Demand.file "F_SC_NA_1" address name [.sectionName sectionName, .selectCall qualifier] with
      cause := cause }
  | lastSection address name sectionName qualifier checksum =>
    .file "F_LS_NA_1" address name
      [.sectionName sectionName, .lastSection qualifier, .checksum checksum]
  | acknowledgeFile address name sectionName action notice =>
    .file "F_AF_NA_1" address name [.sectionName sectionName, .acknowledgeFile action notice]
  | segment address name sectionName data =>
    .file "F_SG_NA_1" address name [.sectionName sectionName, .segment data]
  | directory address entries =>
    ⟨"F_DR_TA_1", .fileTransfer, address, entries.map fun entry =>
      [.fileName entry.file, .fileLength entry.length, .fileStatus entry.status entry.flags,
        .time56 entry.created]⟩
  | queryLog address name start stop =>
    .file "F_SC_NB_1" address name [.time56 start, .time56 stop]

/-! ### The unit of a command -/

/-- A unit of a standard type says what is demanded, and nothing else. -/
structure Asdu.Says (a : Asdu) (type : AsduType) (r : Demand) : Prop where
  standard : a.type = .standard type
  mnemonic : type.mnemonic = r.mnemonic
  cause : a.cause = r.cause
  unflagged : a.test = false ∧ a.negative = false
  body : a.body = .objects [⟨r.address, r.sets⟩]
  separate : a.sequence = false → ∃ set, r.sets = [set]
  layout : ∀ set ∈ r.sets, set.map (·.kind?) = type.layout.map some

section Says

variable (type : AsduType) (cause : Cause) (commonAddress : UInt16) (address : UInt32)

theorem Asdu.single_says {elements : ElementSet}
    (hlayout : elements.map (·.kind?) = type.layout.map some) :
    (single type cause commonAddress address elements).Says type
      ⟨type.mnemonic, cause, address, [elements]⟩ where
  standard := rfl
  mnemonic := rfl
  cause := rfl
  unflagged := ⟨rfl, rfl⟩
  body := rfl
  separate _ := ⟨elements, rfl⟩
  layout := List.forall_mem_singleton.mpr hlayout

theorem Asdu.consecutive_says {sets : List ElementSet}
    (hlayout : ∀ set ∈ sets, set.map (·.kind?) = type.layout.map some) :
    (consecutive type cause commonAddress address sets).Says type
      ⟨type.mnemonic, cause, address, sets⟩ where
  standard := rfl
  mnemonic := rfl
  cause := rfl
  unflagged := ⟨rfl, rfl⟩
  body := rfl
  separate := nofun
  layout := hlayout

/-- With a time tag, the type is the one with a time tag, whose layout ends with one. -/
theorem CommandOptions.switching_says (o : CommandOptions) (plain timed : AsduType)
    {elements : ElementSet} (hplain : elements.map (·.kind?) = plain.layout.map some)
    (htimed : timed.layout = plain.layout ++ [.time56]) :
    (Asdu.single (o.pick plain timed) .activation commonAddress address
        (o.withTime elements)).Says (o.pick plain timed)
      (.switching o plain.mnemonic timed.mnemonic address elements) := by
  cases o with
  | mk select qualifier time =>
    cases time with
    | none =>
      show (Asdu.single plain _ _ _ (elements ++ [])).Says plain _
      rw [List.append_nil]
      exact Asdu.single_says _ _ _ _ hplain
    | some time =>
      refine Asdu.single_says timed _ _ _ ?_
      show (elements ++ [Element.time56 time]).map Element.kind? = timed.layout.map some
      rw [List.map_append, hplain, htimed, List.map_append]
      rfl

end Says

theorem Command.unit_says (c : Command) (commonAddress : UInt16) :
    ∃ type, (c.unit commonAddress).Says type c.demand := by
  cases c with
  | single _ _ o | double _ _ o | regulatingStep _ _ o | setpointNormalized _ _ o
    | setpointScaled _ _ o | setpointFloat _ _ o | bitstring _ _ o =>
    exact ⟨_, o.switching_says _ _ _ _ rfl rfl⟩
  | directory address entries =>
    exact ⟨_, Asdu.consecutive_says _ _ _ _ (List.forall_mem_map.mpr fun _ _ => rfl)⟩
  | _ => exact ⟨_, Asdu.single_says _ _ _ _ rfl⟩

/-- What a command to a station says. -/
theorem Command.says (c : Command) (originator : UInt8) (commonAddress : UInt16) :
    ∃ type, (c.asdu originator commonAddress).Says type c.demand := by
  obtain ⟨type, h⟩ := c.unit_says commonAddress
  exact ⟨type, h.standard, h.mnemonic, h.cause, h.unflagged, h.body, h.separate, h.layout⟩

theorem Command.commonAddress_asdu (c : Command) (originator : UInt8) (commonAddress : UInt16) :
    (c.asdu originator commonAddress).commonAddress = commonAddress := by
  cases c <;> rfl

/-! ### The unit is sent and read -/

theorem writeAll_eq_ok {α : Type} {write : α → Except Fault Octets} {items : List α}
    (h : ∀ item ∈ items, ∃ octets, write item = .ok octets) :
    ∃ octets, writeAll write items = .ok octets := by
  induction items with
  | nil => exact ⟨[], rfl⟩
  | cons item items ih =>
    obtain ⟨hitem, hitems⟩ := List.forall_mem_cons.mp h
    obtain ⟨first, hfirst⟩ := hitem
    obtain ⟨rest, hrest⟩ := ih hitems
    exact ⟨first ++ rest, by rw [writeAll, hfirst, hrest]; rfl⟩

/-- Object addresses are narrow enough for the numbers that hold them. -/
theorem Settings.Valid.bound_objectAddress_le {s : Settings} (hvalid : s.Valid) :
    Octets.bound s.objectAddressWidth + maxCount ≤ UInt32.size := by
  rcases hvalid.objectAddressWidth with h | h | h <;> rw [h] <;> decide

namespace Asdu.Says

variable {a : Asdu} {type : AsduType} {r : Demand} {f : AsduFormat}

/-- As many element sets are announced as were asked for. -/
theorem count (h : a.Says type r) : a.count = r.sets.length := by
  rw [Asdu.count, h.body]
  cases hsequence : a.sequence with
  | true => rfl
  | false =>
    obtain ⟨set, hset⟩ := h.separate hsequence
    rw [hset]
    rfl

theorem fault?_eq_none (h : a.Says type r) (hfits : r.Fits f.objectAddressWidth)
    (hstation : a.commonAddress.toNat < Octets.bound f.commonAddressWidth) :
    f.fault? a = none := by
  refine (AsduFormat.fault?_eq_none_iff h.body).mpr ⟨hstation, ?_, ?_, ?_, ?_⟩
  · rw [AsduFormat.arrangementFault?_eq_none_iff]
    refine ⟨fun _ => rfl, fun hsequence => List.forall_mem_singleton.mpr ?_⟩
    exact List.length_eq_one_iff.mpr (h.separate hsequence)
  · rw [h.count]
    exact hfits.number.2
  · rw [AsduFormat.addressFault?_eq_none_iff]
    exact List.forall_mem_singleton.mpr hfits.address
  · rw [AsduFormat.layoutFault?_eq_none_iff, Asdu.type?, h.standard]
    rintro _ ⟨⟩
    exact List.forall_mem_singleton.mpr h.layout

/-- What was asked for can be sent. -/
theorem encode (h : a.Says type r) (hfits : r.Fits f.objectAddressWidth)
    (hstation : a.commonAddress.toNat < Octets.bound f.commonAddressWidth) :
    ∃ octets, f.encode a = .ok octets := by
  obtain ⟨octet, hoctet⟩ := hfits.cause
  have hcause : ∃ cause, AsduFormat.causeOctet a = .ok cause := by
    rw [AsduFormat.causeOctet, h.cause, hoctet, Cause.encode_ofOctet]
    exact ⟨_, rfl⟩
  have hbody : ∃ body, f.encodeBody a.body = .ok body := by
    rw [h.body]
    refine writeAll_eq_ok (List.forall_mem_singleton.mpr ?_)
    have hwritable : ∀ e ∈ r.sets.flatten, ∃ octets, e.encode = .ok octets := by
      intro e he
      obtain ⟨set, hset, he⟩ := List.mem_flatten.mp he
      exact ⟨e.octets, Element.encode_of_writable (hfits.elements set hset e he).2⟩
    obtain ⟨elements, helements⟩ := writeAll_eq_ok hwritable
    rw [AsduFormat.encodeObject, helements]
    exact ⟨_, rfl⟩
  obtain ⟨cause, hcause⟩ := hcause
  obtain ⟨body, hbody⟩ := hbody
  exact AsduFormat.encode_of_parts (h.fault?_eq_none hfits hstation) hcause hbody

/-- Nothing is lost of what was asked for. -/
theorem fits (h : a.Says type r) {width : Nat} (hfits : r.Fits width)
    (horiginator : f.causeWidth = 1 → a.originator = 0) : a.Fits f where
  cause := h.cause ▸ hfits.cause
  originator := horiginator
  elements := by
    rw [Asdu.objects_eq h.body]
    exact List.forall_mem_singleton.mpr fun set hset e he => (hfits.elements set hset e he).1

/-- The element sets are at consecutive addresses. -/
theorem addressedSets (h : a.Says type r)
    (hlast : r.address.toNat + r.sets.length ≤ UInt32.size) :
    (a.objects.flatMap InformationObject.addressedSets).map (fun set => (set.1.toNat, set.2)) =
      r.sets.mapIdx fun i set => (r.address.toNat + i, set) := by
  have hnumbers := InformationObject.addresses_eq_range (o := ⟨r.address, r.sets⟩) hlast
  rw [Asdu.objects_eq h.body, List.flatMap_singleton]
  refine List.ext_getElem (by simp [InformationObject.addressedSets]) fun i hi _ => ?_
  have hnumber := List.getElem_of_eq hnumbers (by simpa using hi)
  simp only [InformationObject.addressedSets, List.getElem_map, List.getElem_mapIdx] at hnumber ⊢
  rw [hnumber, List.getElem_range', Nat.one_mul]

end Asdu.Says

/-- A command whose arguments fit their fields can be sent, and the other station reads what was
asked for: the type, with or without time tag, the cause, the originator that the settings name,
the station, and the element sets in their order, each at its address. -/
theorem Command.read_as_asked (settings : Settings) (hvalid : settings.Valid)
    (sender peer : Option Extension) (commonAddress : UInt16) (c : Command)
    (hstation : commonAddress.toNat < Octets.bound settings.commonAddressWidth)
    (hfits : c.demand.Fits settings.objectAddressWidth) :
    ∃ octets a type,
      (settings.format sender).encode (c.asdu settings.originator commonAddress) = .ok octets ∧
        (settings.format peer).decode octets = .ok a ∧
          a.type = .standard type ∧ type.mnemonic = c.demand.mnemonic ∧
            a.cause = c.demand.cause ∧ a.test = false ∧ a.negative = false ∧
              a.originator = settings.originator ∧ a.commonAddress = commonAddress ∧
                (a.objects.flatMap InformationObject.addressedSets).map
                    (fun set => (set.1.toNat, set.2)) =
                  c.demand.sets.mapIdx fun i set => (c.demand.address.toNat + i, set) := by
  obtain ⟨type, hunit⟩ := c.says settings.originator commonAddress
  have hcommon := c.commonAddress_asdu settings.originator commonAddress
  obtain ⟨octets, hoctets⟩ :=
    hunit.encode (f := settings.format sender) hfits (by rw [hcommon]; exact hstation)
  have horiginator : settings.causeWidth = 1 → settings.originator = 0 := by
    intro hone
    rcases hvalid.originator with hzero | htwo
    · exact hzero
    · omega
  have hkept := (hunit.fits (f := settings.format peer) hfits horiginator).clipped_eq
    hvalid.causeWidth
  have hnonempty : ∀ o ∈ [InformationObject.mk c.demand.address c.demand.sets], o.sets ≠ [] :=
    List.forall_mem_singleton.mpr (List.length_pos_iff.mp hfits.number.1)
  -- The extension of the sender has no part in what is written of a standard type.
  have hread := AsduFormat.decode_encode (f := settings.format peer) hvalid.causeWidth
    hunit.standard hunit.body (fun _ => hnonempty) hoctets
  rw [hkept] at hread
  have hlast : c.demand.address.toNat + c.demand.sets.length ≤ UInt32.size := by
    have hbound := hvalid.bound_objectAddress_le
    have hnumber := hfits.number
    have haddress := hfits.address
    omega
  exact ⟨octets, _, type, hoctets, hread, hunit.standard, hunit.mnemonic, hunit.cause,
    hunit.unflagged.1, hunit.unflagged.2, rfl, hcommon, hunit.addressedSets hlast⟩

theorem DirectoryEntry.elements_fit {e : DirectoryEntry} (hlength : e.length ≤ 0xFFFFFF)
    (hstatus : e.status.toNat < 32) (hflags : e.flags.Defined) (hcreated : e.created.Fits) :
    ∀ element ∈ e.elements, element.Fits ∧ element.Writable := by
  simp only [elements, List.forall_mem_cons]
  exact ⟨⟨trivial, trivial⟩, ⟨trivial, hlength⟩, ⟨⟨hstatus, hflags⟩, trivial⟩,
    ⟨hcreated, trivial⟩, nofun⟩

/-- Two files, the larger one of the largest length, at the last two addresses. -/
def archive : List DirectoryEntry :=
  [⟨1, 0xFFFFFF, 0, .ofBits 0, ⟨0, 0, 12, 1, 6, 5, 24, false, false⟩⟩,
    ⟨2, 9, 31, .ofBits 0x20, ⟨59999, 59, 23, 31, 7, 12, 99, true, true⟩⟩]

theorem archive_read_as_asked :
    ({ originator := 7 } : Settings).Valid ∧
      (Command.directory 0xFFFFFE archive).demand.Fits 3 ∧
        ∃ octets a, (({ originator := 7 } : Settings).format none).encode
            ((Command.directory 0xFFFFFE archive).asdu 7 0xFFFF) = .ok octets ∧
          (({ originator := 7 } : Settings).format none).decode octets = .ok a ∧
            a.originator = 7 ∧ (a.objects.flatMap InformationObject.addressedSets).map
                (fun set => (set.1.toNat, set.2.length)) = [(0xFFFFFE, 4), (0xFFFFFF, 4)] := by
  have hvalid : ({ originator := 7 } : Settings).Valid := (Settings.validate_eq_ok_iff _).mp rfl
  have hfits : (Command.directory 0xFFFFFE archive).demand.Fits 3 := by
    refine ⟨⟨13, rfl⟩, by decide, by decide, List.forall_mem_map.mpr ?_⟩
    refine List.forall_mem_cons.mpr ⟨?_, List.forall_mem_singleton.mpr ?_⟩
    · exact DirectoryEntry.elements_fit (by decide) (by decide) (Flags.defined_ofBits _)
        (by constructor <;> decide)
    · exact DirectoryEntry.elements_fit (by decide) (by decide) (Flags.defined_ofBits _)
        (by constructor <;> decide)
  obtain ⟨octets, a, type, hoctets, hread, -, -, -, -, -, horiginator, -, hsets⟩ :=
    Command.read_as_asked { originator := 7 } hvalid none none 0xFFFF
      (.directory 0xFFFFFE archive) (by decide) hfits
  refine ⟨hvalid, hfits, octets, a, hoctets, hread, horiginator, ?_⟩
  have hlengths := congrArg (List.map fun set => (set.1, set.2.length)) hsets
  rw [List.map_map] at hlengths
  exact hlengths.trans rfl

end Telecontrol
