import Telecontrol.Proofs.Asdu.Canonical

/-!
# Units that can be read and not be sent

Of consecutive addresses only the first is on the wire. A reader takes any number of element
sets to belong to it, also if the addresses run past the end of their field (`Asdu.Overruns`),
and takes a unit that announces no element sets to have no object (`Asdu.Objectless`). Units of
both kinds are read and cannot be sent; every other unit of a standard type that can be read
can be sent as well (`AsduFormat.sendable_iff`).
-/

namespace Telecontrol

/-- The last of consecutive addresses does not fit its field. -/
def Asdu.Overruns (f : AsduFormat) (a : Asdu) : Prop :=
  a.sequence = true ∧ ∃ o ∈ a.objects,
    Octets.bound f.objectAddressWidth ≤ o.address.toNat + (o.sets.length - 1)

/-- The element sets have consecutive addresses, but there is no object. -/
def Asdu.Objectless (a : Asdu) : Prop := a.sequence = true ∧ a.objects = []

/-! ### Consecutive addresses -/

namespace InformationObject

variable {o : InformationObject}

/-- Addresses that do not wrap are consecutive numbers. -/
theorem addresses_eq_range (h : o.address.toNat + o.sets.length ≤ UInt32.size) :
    o.addressedSets.map (fun set => set.1.toNat) = List.range' o.address.toNat o.sets.length := by
  refine List.ext_getElem (by simp [addressedSets]) fun i hi _ => ?_
  have hlt : i < o.sets.length := by simpa [addressedSets] using hi
  have hsum : o.address.toNat + i < 4294967296 := Nat.lt_of_lt_of_le (by omega) h
  have hoffset : (UInt32.ofNat i).toNat = i := UInt32.toNat_ofNat_of_lt' (by omega)
  simp [addressedSets, UInt32.toNat_add, hoffset, Nat.mod_eq_of_lt hsum]

/-- The addresses fit a field if the last does. -/
theorem addresses_lt_iff {bound : Nat} (hnumbers : o.addressedSets.map (fun set => set.1.toNat) =
      List.range' o.address.toNat o.sets.length) (hsets : o.sets ≠ []) :
    (∀ set ∈ o.addressedSets, set.1.toNat < bound) ↔
      o.address.toNat + (o.sets.length - 1) < bound := by
  have hpos := List.length_pos_iff.mpr hsets
  have hall : (∀ set ∈ o.addressedSets, set.1.toNat < bound) ↔
      ∀ n ∈ List.range' o.address.toNat o.sets.length, n < bound := by
    rw [← hnumbers, List.forall_mem_map]
  rw [hall]
  simp only [List.mem_range'_1]
  exact ⟨fun h => h _ (by omega), fun h n hn => by omega⟩

end InformationObject

/-! ### Announced objects -/

namespace Announced

variable {q : StructureQualifier} {width : Nat} {form : ElementSet → Prop}
  {objects : List InformationObject} {o : InformationObject}

/-- The addresses of announced objects do not wrap. -/
theorem addresses_eq_range (h : Announced q width form objects)
    (hwidth : width = 1 ∨ width = 2 ∨ width = 3) (ho : o ∈ objects) :
    o.addressedSets.map (fun set => set.1.toNat) =
      List.range' o.address.toNat o.sets.length := by
  have haddress := h.address o ho
  have hlength := (h.length_sets ho).2
  have hbound : Octets.bound width + UInt8.size ≤ UInt32.size := by
    rcases hwidth with rfl | rfl | rfl <;> decide
  exact InformationObject.addresses_eq_range (by omega)

end Announced

/-! ### Units that were read -/

namespace AsduFormat.IsRead

variable {f : AsduFormat} {typeOctet qualifier causeOctet : UInt8} {body : Octets} {a : Asdu}
  {objects : List InformationObject}

theorem addresses_lt_iff (h : f.IsRead typeOctet qualifier causeOctet body a) (hf : f.Regular)
    (hbody : a.body = .objects objects) :
    (∀ o ∈ objects, ∀ set ∈ o.addressedSets,
        set.1.toNat < Octets.bound f.objectAddressWidth) ↔ ¬a.Overruns f := by
  have hannounced := (h.rewritten_objects hf hbody).form
  have hfits : ∀ o ∈ objects,
      (∀ set ∈ o.addressedSets, set.1.toNat < Octets.bound f.objectAddressWidth) ↔
        o.address.toNat + (o.sets.length - 1) < Octets.bound f.objectAddressWidth := fun o ho =>
    InformationObject.addresses_lt_iff (hannounced.addresses_eq_range hf.objectAddressWidth ho)
      (hannounced.length_sets ho).1
  rw [Asdu.Overruns, Asdu.objects_eq hbody]
  constructor
  · rintro hall ⟨-, o, ho, hlast⟩
    exact Nat.not_lt.mpr hlast ((hfits o ho).mp (hall o ho))
  · intro hnot o ho
    rw [hfits o ho]
    cases hsequence : a.sequence with
    | false =>
      rw [(hannounced.separate (h.sequence.symm.trans hsequence)).2 o ho]
      exact hannounced.address o ho
    | true => exact Nat.not_le.mp fun hlast => hnot ⟨hsequence, o, ho, hlast⟩

theorem addressable_iff (h : f.IsRead typeOctet qualifier causeOctet body a) (hf : f.Regular)
    (hbody : a.body = .objects objects) :
    a.Addressable f ↔ ¬a.Overruns f ∧ ¬a.Objectless := by
  have hannounced := (h.rewritten_objects hf hbody).form
  rw [Asdu.Addressable, Asdu.Overruns, Asdu.Objectless, Asdu.objects_eq hbody, h.count hf]
  cases hsequence : a.sequence with
  | false => exact iff_of_true nofun ⟨nofun, nofun⟩
  | true =>
    rcases hannounced.consecutive (h.sequence.symm.trans hsequence) with
      ⟨hzero, rfl⟩ | ⟨hnonzero, o, rfl, hlength⟩
    · rw [hzero]
      exact iff_of_false (fun hall => nomatch (hall rfl [] hbody).1) fun hall =>
        hall.2 ⟨rfl, rfl⟩
    · have hpos : (StructureQualifier.ofOctet qualifier).count.toNat ≠ 0 := fun hzero =>
        hnonzero (UInt8.toNat_inj.mp hzero)
      rw [← hlength] at hpos ⊢
      constructor
      · intro hall
        have hlast := (hall rfl [o] hbody).2 o List.mem_cons_self
        refine ⟨?_, nofun⟩
        rintro ⟨-, o', ho', hover⟩
        obtain rfl := List.mem_singleton.mp ho'
        exact Nat.not_lt.mpr hover hlast
      · rintro ⟨hnot, -⟩ - objects hobjects
        cases hbody.symm.trans hobjects
        refine ⟨Nat.one_le_iff_ne_zero.mpr hpos, List.forall_mem_singleton.mpr ?_⟩
        exact Nat.not_le.mp fun hlast => hnot ⟨rfl, o, List.mem_cons_self, hlast⟩

end AsduFormat.IsRead

namespace AsduFormat

/-- The element sets of a unit of a standard type that was read have consecutive addresses that
do not wrap. They fit their field exactly if the unit does not overrun it, and the unit can be
sent exactly if, besides, it is not without an object. -/
theorem sendable_iff (settings : Settings) (hvalid : settings.Valid) (octets : Octets) (a : Asdu)
    (type : AsduType) (htype : a.type = .standard type)
    (h : (settings.format none).decode octets = .ok a) :
    (∀ o ∈ a.objects, o.addressedSets.map (fun set => set.1.toNat) =
        List.range' o.address.toNat o.sets.length) ∧
      ((∀ o ∈ a.objects, ∀ set ∈ o.addressedSets,
          set.1.toNat < Octets.bound settings.objectAddressWidth) ↔
        ¬a.Overruns (settings.format none)) ∧
      ((∃ written, (settings.format none).encode a = .ok written) ↔
        ¬a.Overruns (settings.format none) ∧ ¬a.Objectless) := by
  have hf : (settings.format none).Regular := hvalid.regular nofun
  obtain ⟨typeOctet, qualifier, causeOctet, body, hoctets, hread⟩ := decode_eq_ok hf h
  obtain ⟨objects, hbody⟩ := hread.body_of_standard htype
  have hannounced := (hread.rewritten_objects hf hbody).form
  have hsent : (∃ written, (settings.format none).encode a = .ok written) ↔
      a.Addressable (settings.format none) := by
    constructor
    · rintro ⟨written, hwritten⟩
      exact (hread.fault?_eq_none_iff hf).mp (encode_eq_ok hwritten).1
    · exact fun haddressable => ⟨_, (hread.encode_eq_ok hf haddressable hoctets).2⟩
  rw [hsent, hread.addressable_iff hf hbody, Asdu.objects_eq hbody]
  exact ⟨fun o ho => hannounced.addresses_eq_range hf.objectAddressWidth ho,
    hread.addresses_lt_iff hf hbody, Iff.rfl⟩

/-- Two points at the last two addresses of a field of three octets can be sent. -/
theorem last_addresses_sendable :
    ({} : Settings).Valid ∧ ∃ a, (({} : Settings).format none).decode
        [1, 0x82, 3, 0, 1, 0, 0xFE, 0xFF, 0xFF, 1, 0] = .ok a ∧
      a.type = .standard .singlePoint ∧
        (∀ o ∈ a.objects, ∀ set ∈ o.addressedSets, set.1.toNat < 0x1000000) ∧
          ∃ written, (({} : Settings).format none).encode a = .ok written := by
  have hvalid : ({} : Settings).Valid := (Settings.validate_eq_ok_iff _).mp rfl
  obtain ⟨-, hfits, hsent⟩ := sendable_iff {} hvalid
    [1, 0x82, 3, 0, 1, 0, 0xFE, 0xFF, 0xFF, 1, 0] _ .singlePoint rfl rfl
  have hover : ¬Asdu.Overruns (({} : Settings).format none)
      ⟨.standard .singlePoint, true, .ofOctet 3, false, false, 0, 1,
        .objects [⟨0xFFFFFE, [[.singlePoint true (.ofBits 0)],
          [.singlePoint false (.ofBits 0)]]⟩]⟩ := by
    rintro ⟨-, o, ho, hlast⟩
    obtain rfl := List.mem_singleton.mp ho
    exact absurd hlast (by decide)
  exact ⟨hvalid, _, rfl, rfl, hfits.mpr hover, hsent.mpr ⟨hover, fun hnone => nomatch hnone.2⟩⟩

/-- Two points at the last address and the one after it are read, and cannot be sent. -/
theorem address_past_last_not_sendable :
    ({} : Settings).Valid ∧ ∃ a, (({} : Settings).format none).decode
        [1, 0x82, 3, 0, 1, 0, 0xFF, 0xFF, 0xFF, 1, 0] = .ok a ∧
      a.type = .standard .singlePoint ∧
        (∃ o ∈ a.objects, ∃ set ∈ o.addressedSets, set.1.toNat = 0x1000000) ∧
          (({} : Settings).format none).encode a =
            .error (.invalidAsdu (.objectAddressRange 0x1000000 3)) :=
  ⟨(Settings.validate_eq_ok_iff _).mp rfl, _, rfl, rfl,
    ⟨_, List.mem_cons_self, (0x1000000, [.singlePoint false (.ofBits 0)]), by decide, rfl⟩, rfl⟩

/-- A unit that announces no points at consecutive addresses cannot be sent either. -/
example : ∃ a, (({} : Settings).format none).decode [1, 0x80, 3, 0, 1, 0] = .ok a ∧
    (({} : Settings).format none).encode a = .error (.invalidAsdu (.sequenceObjects 0)) :=
  ⟨_, rfl, rfl⟩

end AsduFormat

end Telecontrol
