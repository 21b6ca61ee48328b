import Telecontrol.Proofs.Asdu.Received

/-!
# Units are written as they were read

A unit that was read can be written again, unless its element sets have consecutive addresses
and there are none, or the last address does not fit (`Asdu.Addressable`): this is all that the
writer checks and a reader does not (`AsduFormat.IsRead.fault?_eq_none_iff`). The octets that
are written are the ones that were read, without the reserved bits of the elements
(`AsduFormat.IsRead.encode_eq_ok`), and the same unit is read from them
(`AsduFormat.encode_decode`).
-/

namespace Telecontrol

/-- The bits that are in use in the octets of a unit. -/
def Asdu.definedBits (f : AsduFormat) (a : Asdu) : Octets :=
  Octets.full f.headerLength ++
    match a.body with
    | .objects objects => objects.flatMap (InformationObject.definedBits f.objectAddressWidth)
    | .verbatim _ data => Octets.full data.length

theorem Octets.flatMap_full {α : Type} {items : List α} {mask : α → Octets}
    (h : ∀ item ∈ items, ∃ n, mask item = full n) : ∃ n, items.flatMap mask = full n := by
  induction items with
  | nil => exact ⟨0, rfl⟩
  | cons item items ih =>
    obtain ⟨hitem, hitems⟩ := List.forall_mem_cons.mp h
    obtain ⟨m, hm⟩ := hitem
    obtain ⟨n, hn⟩ := ih hitems
    exact ⟨m + n, by rw [List.flatMap_cons, hm, hn, full_add]⟩

/-! ### The octets of the header -/

theorem StructureQualifier.octet_ofOctet (b : UInt8) : (ofOctet b).octet = b := by
  revert b
  exact forall_octet (by decide +kernel)

theorem StructureQualifier.count_ofOctet_le (b : UInt8) :
    (ofOctet b).count.toNat ≤ maxCount := by
  revert b
  exact forall_octet (by decide +kernel)

theorem Cause.encode_ofOctet (b : UInt8) : (ofOctet b).encode = .ok (b &&& codeMask) := by
  have hrange : ∀ b, b &&& codeMask ≤ codeMask := forall_octet (by decide +kernel)
  rw [encode, ofOctet, code_ofCode, if_neg (UInt8.not_lt.mpr (hrange b))]

/-- The cause octet is its code and its flags. -/
theorem causeOctet_parts (b : UInt8) :
    (b &&& Cause.codeMask) |||
        (if (b &&& Cause.testFlag != 0) = true then Cause.testFlag else 0) |||
      (if (b &&& Cause.negativeFlag != 0) = true then Cause.negativeFlag else 0) = b := by
  revert b
  exact forall_octet (by decide +kernel)

/-! ### What the writer checks -/

/-- There are element sets, and the addresses up to the last fit their field. -/
def Asdu.Addressable (f : AsduFormat) (a : Asdu) : Prop :=
  a.sequence = true → ∀ objects, a.body = .objects objects →
    1 ≤ a.count ∧
      ∀ o ∈ objects, o.address.toNat + (a.count - 1) < Octets.bound f.objectAddressWidth

namespace AsduFormat

theorem arrangementFault?_eq_none_iff {sequence : Bool} {objects : List InformationObject} :
    arrangementFault? sequence objects = none ↔
      (sequence = true → objects.length = 1) ∧
        (sequence = false → ∀ o ∈ objects, o.sets.length = 1) := by
  cases sequence <;> simp [arrangementFault?]

theorem addressFault?_eq_none_iff {f : AsduFormat} {objects : List InformationObject} :
    f.addressFault? objects = none ↔
      ∀ o ∈ objects, o.address.toNat + (o.sets.length - 1) < Octets.bound f.objectAddressWidth := by
  simp [addressFault?]

theorem layoutFault?_eq_none_iff {type? : Option AsduType} {objects : List InformationObject} :
    layoutFault? type? objects = none ↔
      ∀ type, type? = some type → ∀ o ∈ objects, ∀ set ∈ o.sets,
        set.map (·.kind?) = type.layout.map some := by
  cases type? <;> simp [layoutFault?, fitsLayout]

/-- The writer does not refuse element sets of the form that a reader finds. -/
theorem layoutFault?_eq_none_of_hasSet {type : TypeIdentification}
    {objects : List InformationObject} (h : ∀ o ∈ objects, ∀ set ∈ o.sets, type.HasSet set) :
    layoutFault? type.type? objects = none := by
  rw [layoutFault?_eq_none_iff]
  intro type' htype o ho set hset
  have hset := h o ho set hset
  cases type with
  | standard type =>
    cases htype
    exact hset.kinds
  | reserved code | privateUse code => cases htype

/-- Objects of the announced arrangement are refused for their last address only. -/
theorem arranged_iff {f : AsduFormat} {q : StructureQualifier} {form : ElementSet → Prop}
    {objects : List InformationObject} (h : Announced q f.objectAddressWidth form objects) :
    (arrangementFault? q.sequence objects = none ∧ f.addressFault? objects = none) ↔
      (q.sequence = true → 1 ≤ q.count.toNat ∧ ∀ o ∈ objects,
        o.address.toNat + (q.count.toNat - 1) < Octets.bound f.objectAddressWidth) := by
  rw [arrangementFault?_eq_none_iff, addressFault?_eq_none_iff]
  cases hsequence : q.sequence with
  | false =>
    obtain ⟨-, hone⟩ := h.separate hsequence
    refine iff_of_true ⟨⟨nofun, fun _ => hone⟩, fun o ho => ?_⟩ nofun
    rw [hone o ho]
    exact h.address o ho
  | true =>
    rcases h.consecutive hsequence with ⟨hzero, rfl⟩ | ⟨hnonzero, o, rfl, hlength⟩
    · rw [hzero]
      exact iff_of_false (fun hall => nomatch hall.1.1 rfl) fun hall => nomatch (hall rfl).1
    · have hpos : q.count.toNat ≠ 0 := fun hzero => hnonzero (UInt8.toNat_inj.mp hzero)
      simp only [List.forall_mem_singleton, hlength]
      exact ⟨fun hall _ => ⟨Nat.one_le_iff_ne_zero.mpr hpos, hall.2⟩,
        fun hall => ⟨⟨fun _ => rfl, nofun⟩, (hall trivial).2⟩⟩

theorem fault?_eq_none_iff {f : AsduFormat} {a : Asdu} {objects : List InformationObject}
    (hbody : a.body = .objects objects) :
    f.fault? a = none ↔
      a.commonAddress.toNat < Octets.bound f.commonAddressWidth ∧
        arrangementFault? a.sequence objects = none ∧ a.count ≤ maxCount ∧
          f.addressFault? objects = none ∧ layoutFault? a.type? objects = none := by
  simp only [fault?, hbody]
  split
  · next hcommon => exact iff_of_false nofun fun h => absurd h.1 (Nat.not_lt.mpr hcommon)
  · next hcommon => simp [Option.or_eq_none_iff, Nat.lt_of_not_le hcommon]

/-! ### Units that were read -/

namespace IsRead

variable {f : AsduFormat} {typeOctet qualifier causeOctet : UInt8} {octets body : Octets}
  {a : Asdu} {objects : List InformationObject}

/-- What was read as objects is of the announced arrangement. -/
theorem rewritten_objects (h : f.IsRead typeOctet qualifier causeOctet body a)
    (hf : f.Regular) (hbody : a.body = .objects objects) :
    Rewritten (Announced (.ofOctet qualifier) f.objectAddressWidth a.type.HasSet)
      (writeAll f.encodeObject)
      (fun objects => objects.flatMap (InformationObject.definedBits f.objectAddressWidth))
      body objects := by
  rcases decodeBody_eq_ok h.body with ⟨readSet, read, hreader, hobjects, hread⟩ | ⟨-, hread, -⟩
  · cases hbody.symm.trans hread
    obtain ⟨own, hown, hrewritten⟩ :=
      rewrites_decodeObjects hf (hreader.rewrites hf) _ hobjects
    rw [List.append_nil] at hown
    rwa [hown]
  · cases hbody.symm.trans hread

theorem body_of_verbatim {count : UInt8} {data : Octets}
    (h : f.IsRead typeOctet qualifier causeOctet body a) (hbody : a.body = .verbatim count data) :
    count = (StructureQualifier.ofOctet qualifier).count ∧ data = body ∧ a.type? = none := by
  rcases decodeBody_eq_ok h.body with ⟨_, _, _, _, hread⟩ | ⟨htype, hread, -⟩
  · cases hbody.symm.trans hread
  · cases hbody.symm.trans hread
    exact ⟨rfl, rfl, htype⟩

theorem body_of_standard {type : AsduType} (h : f.IsRead typeOctet qualifier causeOctet body a)
    (htype : a.type = .standard type) : ∃ objects, a.body = .objects objects := by
  cases hbody : a.body with
  | objects objects => exact ⟨objects, rfl⟩
  | verbatim count data =>
    have hnot := (h.body_of_verbatim hbody).2.2
    rw [Asdu.type?, htype] at hnot
    cases hnot

/-- The unit has as many objects or element sets as its structure qualifier announced. -/
theorem count (h : f.IsRead typeOctet qualifier causeOctet body a)
    (hf : f.Regular) : a.count = (StructureQualifier.ofOctet qualifier).count.toNat := by
  cases hbody : a.body with
  | verbatim count data =>
    simp only [Asdu.count, hbody, (h.body_of_verbatim hbody).1]
  | objects objects =>
    have hannounced := (h.rewritten_objects hf hbody).form
    simp only [Asdu.count, hbody]
    split
    · next hsequence =>
      rcases hannounced.consecutive (h.sequence.symm.trans hsequence) with
        ⟨hzero, rfl⟩ | ⟨-, o, rfl, hlength⟩
      · rw [hzero]
        rfl
      · exact hlength
    · next hsequence =>
      rw [h.sequence, Bool.not_eq_true] at hsequence
      exact (hannounced.separate hsequence).1

/-- The structure qualifier is written as it was read. -/
theorem structureQualifier (h : f.IsRead typeOctet qualifier causeOctet body a)
    (hf : f.Regular) : a.structureQualifier.octet = qualifier := by
  rw [Asdu.structureQualifier, h.count hf, h.sequence,
    Nat.min_eq_left (StructureQualifier.count_ofOctet_le qualifier), UInt8.ofNat_toNat,
    StructureQualifier.octet_ofOctet]

/-- All that the writer may refuse of a unit that was read is its last address. -/
theorem fault?_eq_none_iff (h : f.IsRead typeOctet qualifier causeOctet body a)
    (hf : f.Regular) : f.fault? a = none ↔ a.Addressable f := by
  have hcount := h.count hf
  have hmax := StructureQualifier.count_ofOctet_le qualifier
  cases hbody : a.body with
  | verbatim count data =>
    refine iff_of_true ?_ fun _ objects hobjects => ?_
    · rw [← (h.body_of_verbatim hbody).1] at hmax
      simp only [fault?, hbody, Nat.not_le.mpr h.commonAddress, Nat.not_lt.mpr hmax, if_false]
    · cases hbody.symm.trans hobjects
  | objects objects =>
    have hannounced := (h.rewritten_objects hf hbody).form
    have harranged := arranged_iff hannounced
    have hlayout := layoutFault?_eq_none_of_hasSet hannounced.form
    rw [← h.sequence, ← hcount] at harranged
    rw [AsduFormat.fault?_eq_none_iff hbody]
    constructor
    · rintro ⟨-, hfirst, -, hlast, -⟩ hsequence objects' hobjects'
      cases hbody.symm.trans hobjects'
      exact harranged.mp ⟨hfirst, hlast⟩ hsequence
    · intro haddressable
      obtain ⟨hfirst, hlast⟩ := harranged.mpr fun hsequence => haddressable hsequence objects hbody
      exact ⟨h.commonAddress, hfirst, hcount ▸ hmax, hlast, hlayout⟩

/-- The cause octet is written as it was read. -/
theorem causeOctet_eq (h : f.IsRead typeOctet qualifier causeOctet body a) :
    AsduFormat.causeOctet a = .ok causeOctet := by
  rw [AsduFormat.causeOctet, h.cause, Cause.encode_ofOctet, h.test, h.negative]
  exact congrArg Except.ok (causeOctet_parts causeOctet)

/-- The body of a unit that was read is written as it was read, without reserved bits. -/
theorem encodeBody_eq_ok (h : f.IsRead typeOctet qualifier causeOctet body a)
    (hf : f.Regular) :
    ∃ mask, a.definedBits f = Octets.full f.headerLength ++ mask ∧ body.length = mask.length ∧
      f.encodeBody a.body = .ok (body.masked mask) := by
  cases hbody : a.body with
  | verbatim count data =>
    obtain ⟨-, rfl, -⟩ := h.body_of_verbatim hbody
    refine ⟨Octets.full data.length, ?_, (Octets.length_full _).symm, ?_⟩
    · rw [Asdu.definedBits, hbody]
    · rw [Octets.masked_full]
      rfl
  | objects objects =>
    have hobjects := h.rewritten_objects hf hbody
    refine ⟨_, ?_, hobjects.length, hobjects.write⟩
    rw [Asdu.definedBits, hbody]

/-- Units outside the standard have no reserved bits. -/
theorem definedBits_of_extended (h : f.IsRead typeOctet qualifier causeOctet body a)
    (hf : f.Regular) (htype : a.type? = none) : ∃ n, a.definedBits f = Octets.full n := by
  cases hbody : a.body with
  | verbatim count data =>
    refine ⟨f.headerLength + data.length, ?_⟩
    rw [Asdu.definedBits, hbody, Octets.full_add]
  | objects objects =>
    have hform := (h.rewritten_objects hf hbody).form.form
    have hsets : ∀ o ∈ objects, ∀ set ∈ o.sets,
        ∃ n, set.flatMap Element.definedBits = Octets.full n := by
      intro o ho set hset
      obtain ⟨data, rfl⟩ :=
        (TypeIdentification.hasSet_of_extended htype).mp (hform o ho set hset)
      exact ⟨data.length, List.flatMap_singleton ..⟩
    have hobjects : ∀ o ∈ objects,
        ∃ n, o.definedBits f.objectAddressWidth = Octets.full n := by
      intro o ho
      obtain ⟨n, hn⟩ := Octets.flatMap_full (hsets o ho)
      exact ⟨f.objectAddressWidth + n, by rw [InformationObject.definedBits, hn, Octets.full_add]⟩
    obtain ⟨n, hn⟩ := Octets.flatMap_full hobjects
    refine ⟨f.headerLength + n, ?_⟩
    rw [Asdu.definedBits, hbody, Octets.full_add]
    exact congrArg _ hn

/-- A unit that was read is written as the octets without their reserved bits. -/
theorem encode_eq_ok (h : f.IsRead typeOctet qualifier causeOctet body a)
    (hf : f.Regular) (haddressable : a.Addressable f)
    (hoctets : octets = typeOctet :: qualifier :: causeOctet :: (f.stationOctets a ++ body)) :
    octets.length = (a.definedBits f).length ∧
      f.encode a = .ok (octets.masked (a.definedBits f)) := by
  obtain ⟨mask, hmask, hlength, hwrite⟩ := h.encodeBody_eq_ok hf
  generalize hheader : typeOctet :: qualifier :: causeOctet :: f.stationOctets a = header
  have hsplit : octets = header ++ body := by
    rw [hoctets, ← hheader]
    rfl
  have hheaderLength : header.length = f.headerLength := by
    rw [← length_stationOctets hf a, ← hheader, List.length_cons, List.length_cons,
      List.length_cons]
    omega
  have hfull : header.length = (Octets.full f.headerLength).length := by
    rw [hheaderLength, Octets.length_full]
  refine ⟨?_, ?_⟩
  · rw [hsplit, hmask, List.length_append, List.length_append, hfull, hlength]
  · have htype : a.type.octet = typeOctet := by rw [h.type, TypeIdentification.octet_ofOctet]
    rw [hsplit, hmask, Octets.masked_append hfull, ← hheaderLength, Octets.masked_full, encode,
      (h.fault?_eq_none_iff hf).mpr haddressable]
    simp only [h.causeOctet_eq, hwrite, htype, h.structureQualifier hf]
    rw [← hheader, stationOctets]
    show Except.ok _ = Except.ok _
    simp only [List.cons_append, List.nil_append, List.append_assoc]

/-- Nothing is lost when an object that was read is written. -/
theorem clipped_object {type : AsduType} (h : f.IsRead typeOctet qualifier causeOctet body a)
    (hf : f.Regular) (htype : a.type = .standard type) : ∀ o ∈ a.objects, o.clipped = o := by
  intro o ho
  obtain ⟨objects, hbody⟩ := h.body_of_standard htype
  rw [Asdu.objects_eq hbody] at ho
  have hform := (h.rewritten_objects hf hbody).form.form o ho
  rw [htype] at hform
  exact InformationObject.clipped_eq fun set hset => (hform set hset).clipped

/-- The octets that are written of a unit that was read hold the same unit. -/
theorem decode_encode {type : AsduType} {written : Octets}
    (h : f.IsRead typeOctet qualifier causeOctet body a) (hf : f.Regular)
    (htype : a.type = .standard type) (hwritten : f.encode a = .ok written) :
    f.decode written = .ok a := by
  obtain ⟨objects, hbody⟩ := h.body_of_standard htype
  have hsets : a.sequence = true → ∀ o ∈ objects, o.sets ≠ [] := fun _ o ho =>
    ((h.rewritten_objects hf hbody).form.length_sets ho).1
  have hclipped : a.clipped f = a := Asdu.clipped_eq hf.causeWidth ⟨causeOctet, h.cause⟩
    h.originator (h.clipped_object hf htype)
  rw [AsduFormat.decode_encode hf.causeWidth htype hbody hsets hwritten, hclipped]

end IsRead

/-- A unit that was read is written again, if its last address fits: as many octets as were
read, from which the same unit is read, and which differ in reserved bits of elements of the
standard only. -/
theorem encode_decode (settings : Settings) (hvalid : settings.Valid)
    (extension : Option Extension) (hkeeps : ∀ x, extension = some x → x.KeepsOctets)
    (octets : Octets) (a : Asdu) (h : (settings.format extension).decode octets = .ok a)
    (haddressable : a.Addressable (settings.format extension)) :
    ∃ written, (settings.format extension).encode a = .ok written ∧
      written.length = octets.length ∧ (settings.format extension).decode written = .ok a ∧
        written = octets.masked (a.definedBits (settings.format extension)) ∧
          (a.type? = none → written = octets) := by
  have hf := hvalid.regular hkeeps
  obtain ⟨typeOctet, qualifier, causeOctet, body, hoctets, hread⟩ := decode_eq_ok hf h
  obtain ⟨hlength, hwritten⟩ := hread.encode_eq_ok hf haddressable hoctets
  have hextended : a.type? = none →
      octets.masked (a.definedBits (settings.format extension)) = octets := by
    intro htype
    obtain ⟨n, hn⟩ := hread.definedBits_of_extended hf htype
    rw [hn, Octets.length_full] at hlength
    rw [hn, ← hlength, Octets.masked_full]
  refine ⟨_, hwritten, Octets.length_masked hlength, ?_, rfl, hextended⟩
  cases htype : a.type with
  | standard type =>
    exact hread.decode_encode hf htype hwritten
  | reserved code | privateUse code =>
    rwa [hextended (by rw [Asdu.type?, htype]; rfl)]

/-- Two points at the last addresses are written without their reserved bits. -/
theorem encode_decode_two_points :
    ({ causeWidth := 1, commonAddressWidth := 1, objectAddressWidth := 2 } : Settings).Valid ∧
      let f := ({ causeWidth := 1, commonAddressWidth := 1, objectAddressWidth := 2 } :
        Settings).format (some (.ofWidth [200] 2))
      ∃ a, f.decode [1, 0x82, 0xEE, 7, 0xFE, 0xFF, 0x0F, 0xF1] = .ok a ∧ a.Addressable f ∧
        f.encode a = .ok [1, 0x82, 0xEE, 7, 0xFE, 0xFF, 0x01, 0xF1] ∧
          f.decode [1, 0x82, 0xEE, 7, 0xFE, 0xFF, 0x01, 0xF1] = .ok a := by
  have hvalid : ({ causeWidth := 1, commonAddressWidth := 1, objectAddressWidth := 2 } :
      Settings).Valid := (Settings.validate_eq_ok_iff _).mp rfl
  have haddressable : (Asdu.mk (.standard .singlePoint) true (.ofOctet 0xEE) true true 0 7
      (.objects [⟨0xFFFE, [[.singlePoint true (.ofBits 0)],
        [.singlePoint true (.ofBits 0xF0)]]⟩])).Addressable
      (Settings.format
        { causeWidth := 1, commonAddressWidth := 1, objectAddressWidth := 2 }
        (some (.ofWidth [200] 2))) := by
    intro _ objects hobjects
    cases hobjects
    refine ⟨by decide, List.forall_mem_singleton.mpr ?_⟩
    decide
  obtain ⟨written, hwritten, -, hread, hmasked, -⟩ := encode_decode _ hvalid
    (some (.ofWidth [200] 2))
    (by rintro x hx; cases hx; exact Extension.keepsOctets_ofWidth [200] 2)
    [1, 0x82, 0xEE, 7, 0xFE, 0xFF, 0x0F, 0xF1] _ rfl haddressable
  have hvalue : written = [1, 0x82, 0xEE, 7, 0xFE, 0xFF, 0x01, 0xF1] := hmasked.trans rfl
  rw [hvalue] at hwritten hread
  exact ⟨hvalid, _, rfl, haddressable, hwritten, hread⟩

end AsduFormat

end Telecontrol
