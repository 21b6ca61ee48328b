import Telecontrol.Proofs.Asdu.RoundTrip
import Telecontrol.Proofs.Element.DefinedBits

/-!
# Units that were read

What a reader takes off the head of a string is written again as the same octets, apart from
their reserved bits: `Rewrites` says so of a reader and the writer that belongs to it. It holds
of elements, and from them of element sets, of objects and of the whole body of a unit
(`AsduFormat.rewrites_decodeObjects`).

A unit that was read has the arrangement that its structure qualifier announced (`Announced`),
and its header can be recovered octet by octet (`AsduFormat.decode_eq_ok`).
-/

namespace Telecontrol

/-! ### Readers and the writers that belong to them -/

/-- Octets were read as an item of some form, and the item is written as the octets without
their reserved bits. -/
structure Rewritten {α : Type} (form : α → Prop) (write : α → Except Fault Octets)
    (mask : α → Octets) (octets : Octets) (item : α) : Prop where
  form : form item
  length : octets.length = (mask item).length
  write : write item = .ok (octets.masked (mask item))

/-- An item that is read at the head of a string is of some form, and is written as its octets
without their reserved bits. -/
def Rewrites {α : Type} (form : α → Prop) (write : α → Except Fault Octets)
    (mask : α → Octets) (read : Octets → Except Fault (α × Octets)) : Prop :=
  ∀ ⦃octets item rest⦄, read octets = .ok (item, rest) →
    ∃ own, octets = own ++ rest ∧ Rewritten form write mask own item

section

variable {α : Type} {form : α → Prop} {forms forms' : List α → Prop}
  {write : α → Except Fault Octets} {mask : α → Octets}

theorem Rewritten.nil (h : forms []) :
    Rewritten forms (writeAll write) (fun items => items.flatMap mask) [] [] :=
  ⟨h, rfl, rfl⟩

theorem Rewritten.cons {own others : Octets} {item : α} {items : List α}
    (hitem : Rewritten form write mask own item)
    (hitems : Rewritten forms (writeAll write) (fun items => items.flatMap mask) others items)
    (h : forms' (item :: items)) :
    Rewritten forms' (writeAll write) (fun items => items.flatMap mask) (own ++ others)
      (item :: items) := by
  refine ⟨h, ?_, ?_⟩
  · rw [List.flatMap_cons, List.length_append, List.length_append, hitem.length, hitems.length]
  · rw [List.flatMap_cons, Octets.masked_append hitem.length, writeAll, hitem.write,
      hitems.write]
    rfl

theorem Rewritten.singleton {own : Octets} {item : α} (hitem : Rewritten form write mask own item)
    (h : forms [item]) :
    Rewritten forms (writeAll write) (fun items => items.flatMap mask) own [item] := by
  have hnone : Rewritten (fun _ => True) (writeAll write) (fun items => items.flatMap mask) [] [] :=
    .nil trivial
  have hall := hitem.cons hnone h
  rwa [List.append_nil] at hall

/-- Items that are read one after the other are written one after the other. -/
theorem Rewrites.readMany {read : Octets → Except Fault (α × Octets)}
    (hread : Rewrites form write mask read) (n : Nat) :
    Rewrites (fun items => items.length = n ∧ ∀ item ∈ items, form item) (writeAll write)
      (fun items => items.flatMap mask) (readMany read n) := by
  induction n with
  | zero =>
    intro octets items rest h
    cases h
    exact ⟨[], rfl, .nil ⟨rfl, nofun⟩⟩
  | succ n ih =>
    intro octets items rest h
    obtain ⟨⟨item, tail⟩, hfirst, h⟩ := bind_eq_ok h
    obtain ⟨⟨others, rest⟩, hmore, h⟩ := bind_eq_ok h
    cases h
    obtain ⟨own, rfl, hitem⟩ := hread hfirst
    obtain ⟨own', rfl, hothers⟩ := ih hmore
    refine ⟨own ++ own', (List.append_assoc _ _ _).symm, hitem.cons hothers ⟨?_, ?_⟩⟩
    · rw [List.length_cons, hothers.form.1]
    · exact List.forall_mem_cons.mpr ⟨hitem.form, hothers.form.2⟩

end

/-! ### Element sets -/

/-- The elements of a set are of the given kinds, and their fields are within their bits. -/
structure Conforms (kinds : List ElementKind) (set : ElementSet) : Prop where
  kinds : set.map (·.kind?) = kinds.map some
  clipped : set.map Element.clipped = set

theorem ElementKind.rewrites_decode (kind : ElementKind) :
    Rewrites (fun e => e.kind? = some kind ∧ e.clipped = e) Element.encode
      Element.definedBits kind.decode := by
  intro octets e rest h
  obtain ⟨own, hown, hread⟩ := decode_eq_ok h
  exact ⟨own, hown, ⟨hread.kind?, hread.clipped⟩, hread.length, hread.encode⟩

theorem rewrites_decodeSet (kinds : List ElementKind) :
    Rewrites (Conforms kinds) (writeAll Element.encode)
      (fun set => set.flatMap Element.definedBits) (decodeSet kinds) := by
  induction kinds with
  | nil =>
    intro octets set rest h
    cases h
    exact ⟨[], rfl, .nil ⟨rfl, rfl⟩⟩
  | cons kind kinds ih =>
    intro octets set rest h
    obtain ⟨⟨e, tail⟩, hfirst, h⟩ := bind_eq_ok h
    obtain ⟨⟨set, rest⟩, hmore, h⟩ := bind_eq_ok h
    cases h
    obtain ⟨own, rfl, he⟩ := kind.rewrites_decode hfirst
    obtain ⟨own', rfl, hset⟩ := ih hmore
    refine ⟨own ++ own', (List.append_assoc _ _ _).symm, he.cons hset ⟨?_, ?_⟩⟩
    · rw [List.map_cons, List.map_cons, he.form.1, hset.form.kinds]
    · rw [List.map_cons, he.form.2, hset.form.clipped]

/-- An extension keeps the octets of an element set as they are, in one element. -/
def Extension.KeepsOctets (extension : Extension) : Prop :=
  ∀ ⦃code octets set rest⦄, extension.handles code = true →
    extension.decodeSet code octets = .ok (set, rest) →
      ∃ data, octets = data ++ rest ∧ set = [.raw data]

theorem Extension.keepsOctets_ofWidth (codes : List UInt8) (width : Nat) :
    (ofWidth codes width).KeepsOctets := by
  intro code octets set rest _ h
  simp only [ofWidth] at h
  split at h
  · cases h
  · cases h
    exact ⟨_, (List.take_append_drop width octets).symm, rfl⟩

/-- The form of the element sets that are read of a unit of some type. -/
def TypeIdentification.HasSet : TypeIdentification → ElementSet → Prop
  | standard type, set => Conforms type.layout set
  | _, set => ∃ data, set = [.raw data]

theorem TypeIdentification.hasSet_of_extended {type : TypeIdentification}
    (htype : type.type? = none) {set : ElementSet} :
    type.HasSet set ↔ ∃ data, set = [.raw data] := by
  cases type with
  | standard type => cases htype
  | _ => exact Iff.rfl

/-- The reader of element sets of a type: that of its layout, or that of the extension. -/
inductive AsduFormat.SetReader (f : AsduFormat) :
    TypeIdentification → (Octets → Except Fault (ElementSet × Octets)) → Prop
  | layout (type : AsduType) : f.SetReader (.standard type) (decodeSet type.layout)
  | extended {type : TypeIdentification} {extension : Extension} :
    type.type? = none → f.extension = some extension → extension.handles type.octet = true →
      f.SetReader type (extension.decodeSet type.octet)

/-- The widths of the fields are those of valid settings, and the extension keeps octets. -/
structure AsduFormat.Regular (f : AsduFormat) : Prop where
  causeWidth : f.causeWidth = 1 ∨ f.causeWidth = 2
  commonAddressWidth : f.commonAddressWidth = 1 ∨ f.commonAddressWidth = 2
  objectAddressWidth :
    f.objectAddressWidth = 1 ∨ f.objectAddressWidth = 2 ∨ f.objectAddressWidth = 3
  keeps : ∀ x, f.extension = some x → x.KeepsOctets

theorem Settings.Valid.regular {settings : Settings} (h : settings.Valid)
    {extension : Option Extension} (hkeeps : ∀ x, extension = some x → x.KeepsOctets) :
    (settings.format extension).Regular :=
  ⟨h.causeWidth, h.commonAddressWidth, h.objectAddressWidth, hkeeps⟩

theorem AsduFormat.SetReader.rewrites {f : AsduFormat} {type : TypeIdentification}
    {readSet : Octets → Except Fault (ElementSet × Octets)} (h : f.SetReader type readSet)
    (hf : f.Regular) :
    Rewrites type.HasSet (writeAll Element.encode) (fun set => set.flatMap Element.definedBits)
      readSet := by
  cases h with
  | layout type => exact rewrites_decodeSet type.layout
  | extended htype hextension hhandles =>
    intro octets set rest hread
    obtain ⟨data, hoctets, rfl⟩ := hf.keeps _ hextension hhandles hread
    refine ⟨data, hoctets, (TypeIdentification.hasSet_of_extended htype).mpr ⟨data, rfl⟩, ?_, ?_⟩
    · rw [List.flatMap_singleton, Element.length_definedBits]
      rfl
    · rw [List.flatMap_singleton]
      show Except.ok (data ++ []) = .ok (data.masked (Octets.full data.length))
      rw [Octets.masked_full, List.append_nil]

/-! ### Objects -/

/-- The bits that are in use in the octets of an object. -/
def InformationObject.definedBits (width : Nat) (o : InformationObject) : Octets :=
  Octets.full width ++ o.sets.flatMap fun set => set.flatMap Element.definedBits

/-- The objects that a structure qualifier announces: their number, their addresses, which fit
a field of some width, and the form of their element sets. -/
structure Announced (q : StructureQualifier) (width : Nat) (form : ElementSet → Prop)
    (objects : List InformationObject) : Prop where
  separate : q.sequence = false →
    objects.length = q.count.toNat ∧ ∀ o ∈ objects, o.sets.length = 1
  consecutive : q.sequence = true →
    (q.count = 0 ∧ objects = []) ∨
      (q.count ≠ 0 ∧ ∃ o, objects = [o] ∧ o.sets.length = q.count.toNat)
  address : ∀ o ∈ objects, o.address.toNat < Octets.bound width
  form : ∀ o ∈ objects, ∀ set ∈ o.sets, form set

/-- Every announced object has element sets, not more than can be announced. -/
theorem Announced.length_sets {q : StructureQualifier} {width : Nat} {form : ElementSet → Prop}
    {objects : List InformationObject} {o : InformationObject}
    (h : Announced q width form objects) (ho : o ∈ objects) :
    o.sets ≠ [] ∧ o.sets.length ≤ UInt8.size := by
  have hcount := q.count.toNat_lt
  cases hsequence : q.sequence with
  | false =>
    have hone := (h.separate hsequence).2 o ho
    exact ⟨List.ne_nil_of_length_eq_add_one hone, by rw [hone]; decide⟩
  | true =>
    rcases h.consecutive hsequence with ⟨-, rfl⟩ | ⟨hnonzero, only, rfl, hlength⟩
    · cases ho
    · obtain rfl := List.mem_singleton.mp ho
      refine ⟨fun hempty => hnonzero (UInt8.toNat_inj.mp ?_), ?_⟩
      · rw [← hlength, hempty]
        rfl
      · rw [hlength]
        exact Nat.le_of_lt hcount

namespace AsduFormat

variable {f : AsduFormat} {form : ElementSet → Prop}
  {readSet : Octets → Except Fault (ElementSet × Octets)}

theorem rewrites_decodeAddress (hf : f.Regular) :
    Rewrites (fun address => address.toNat < Octets.bound f.objectAddressWidth)
      (fun address => .ok (Octets.ofNat f.objectAddressWidth address.toNat))
      (fun _ => Octets.full f.objectAddressWidth) f.decodeAddress := by
  intro octets address rest h
  unfold decodeAddress at h
  split at h
  · cases h
  · next hroom =>
    cases h
    have hlength := Octets.length_take_of_le hroom
    have hlt := Octets.toNat_lt (octets.take f.objectAddressWidth)
    rw [hlength] at hlt
    -- Three octets are less than the 32 bits of an address.
    have hbound : Octets.bound f.objectAddressWidth < UInt32.size := by
      rcases hf.objectAddressWidth with h | h | h <;> rw [h] <;> decide
    have hnumber := UInt32.toNat_ofNat_of_lt' (Nat.lt_trans hlt hbound)
    refine ⟨octets.take f.objectAddressWidth, (List.take_append_drop _ _).symm, ?_, ?_, ?_⟩
    · rw [hnumber]
      exact hlt
    · rw [hlength, Octets.length_full]
    · have hwrite := Octets.ofNat_toNat (octets.take f.objectAddressWidth)
      have hmask := Octets.masked_full (octets.take f.objectAddressWidth)
      rw [hlength] at hwrite hmask
      rw [hnumber, hwrite, hmask]

/-- An object is written as its address and its element sets. -/
theorem rewritten_object {form : UInt32 → Prop} {forms : List ElementSet → Prop}
    {objectForm : InformationObject → Prop} {own others : Octets} {address : UInt32}
    {sets : List ElementSet}
    (haddress : Rewritten form
      (fun address => .ok (Octets.ofNat f.objectAddressWidth address.toNat))
      (fun _ => Octets.full f.objectAddressWidth) own address)
    (hsets : Rewritten forms (writeAll (writeAll Element.encode))
      (fun sets => sets.flatMap fun set => set.flatMap Element.definedBits) others sets)
    (h : objectForm ⟨address, sets⟩) :
    Rewritten objectForm f.encodeObject (InformationObject.definedBits f.objectAddressWidth)
      (own ++ others) ⟨address, sets⟩ := by
  have hwrite := Except.ok.inj haddress.write
  refine ⟨h, ?_, ?_⟩
  · rw [InformationObject.definedBits, List.length_append, List.length_append,
      haddress.length, hsets.length]
  · rw [InformationObject.definedBits, Octets.masked_append haddress.length, ← hwrite,
      encodeObject, writeAll_flatten, hsets.write]
    rfl

theorem rewrites_decodeObject (hf : f.Regular)
    (hread : Rewrites form (writeAll Element.encode)
      (fun set => set.flatMap Element.definedBits) readSet) :
    Rewrites (fun o => o.address.toNat < Octets.bound f.objectAddressWidth ∧
        o.sets.length = 1 ∧ ∀ set ∈ o.sets, form set)
      f.encodeObject (InformationObject.definedBits f.objectAddressWidth)
      (f.decodeObject readSet) := by
  intro octets o rest h
  obtain ⟨⟨address, tail⟩, hfirst, h⟩ := bind_eq_ok h
  obtain ⟨⟨set, rest⟩, hmore, h⟩ := bind_eq_ok h
  cases h
  obtain ⟨own, rfl, haddress⟩ := rewrites_decodeAddress hf hfirst
  obtain ⟨own', rfl, hset⟩ := hread hmore
  have hsets : Rewritten (fun sets => ∀ set ∈ sets, form set) (writeAll (writeAll Element.encode))
      (fun sets => sets.flatMap fun set => set.flatMap Element.definedBits) own' [set] :=
    hset.singleton (List.forall_mem_singleton.mpr hset.form)
  exact ⟨own ++ own', (List.append_assoc _ _ _).symm,
    rewritten_object haddress hsets ⟨haddress.form, rfl, hsets.form⟩⟩

/-- Objects are of the announced arrangement, and are written as they were read. -/
theorem rewrites_decodeObjects (hf : f.Regular)
    (hread : Rewrites form (writeAll Element.encode)
      (fun set => set.flatMap Element.definedBits) readSet) (q : StructureQualifier) :
    Rewrites (Announced q f.objectAddressWidth form) (writeAll f.encodeObject)
      (fun objects => objects.flatMap (InformationObject.definedBits f.objectAddressWidth))
      (f.decodeObjects q readSet) := by
  intro octets objects rest h
  unfold decodeObjects at h
  split at h
  · next hsequence =>
    have hnot : q.sequence ≠ false := by simp [hsequence]
    split at h
    · next hzero =>
      -- Nothing is announced, so no address is read either.
      cases h
      refine ⟨[], rfl, .nil ⟨fun h => absurd h hnot, fun _ => .inl ⟨hzero, rfl⟩, ?_, ?_⟩⟩
      · exact nofun
      · exact nofun
    · next hnonzero =>
      obtain ⟨⟨address, tail⟩, hfirst, h⟩ := bind_eq_ok h
      obtain ⟨⟨sets, rest⟩, hmore, h⟩ := bind_eq_ok h
      cases h
      obtain ⟨own, rfl, haddress⟩ := rewrites_decodeAddress hf hfirst
      obtain ⟨own', rfl, hsets⟩ := hread.readMany _ hmore
      obtain ⟨hlength, hform⟩ := hsets.form
      have hobject : Rewritten (fun _ => True) f.encodeObject
          (InformationObject.definedBits f.objectAddressWidth) (own ++ own') ⟨address, sets⟩ :=
        rewritten_object haddress hsets trivial
      exact ⟨own ++ own', (List.append_assoc _ _ _).symm, hobject.singleton
        ⟨fun h => absurd h hnot, fun _ => .inr ⟨hnonzero, _, rfl, hlength⟩,
          List.forall_mem_singleton.mpr haddress.form, List.forall_mem_singleton.mpr hform⟩⟩
  · next hsequence =>
    obtain ⟨own, rfl, hobjects⟩ := (rewrites_decodeObject hf hread).readMany _ h
    obtain ⟨hlength, hform⟩ := hobjects.form
    exact ⟨own, rfl, ⟨fun _ => ⟨hlength, fun o hmem => (hform o hmem).2.1⟩,
      fun h => absurd h hsequence, fun o hmem => (hform o hmem).1,
      fun o hmem => (hform o hmem).2.2⟩, hobjects.length, hobjects.write⟩

/-! ### Units -/

/-- What follows the header was read as objects, or kept as it is. -/
theorem decodeBody_eq_ok {type : TypeIdentification} {q : StructureQualifier}
    {octets rest : Octets} {body : AsduBody}
    (h : f.decodeBody type q octets = .ok (body, rest)) :
    (∃ readSet objects, f.SetReader type readSet ∧
        f.decodeObjects q readSet octets = .ok (objects, rest) ∧ body = .objects objects) ∨
      (type.type? = none ∧ body = .verbatim q.count octets ∧ rest = []) := by
  have hobjects : ∀ {readSet}, f.SetReader type readSet →
      (f.decodeObjects q readSet octets >>= fun read =>
        Except.ok (AsduBody.objects read.1, read.2)) = .ok (body, rest) →
      ∃ readSet objects, f.SetReader type readSet ∧
        f.decodeObjects q readSet octets = .ok (objects, rest) ∧ body = .objects objects := by
    intro readSet hreader h
    obtain ⟨⟨objects, left⟩, hobjects, h⟩ := bind_eq_ok h
    cases h
    exact ⟨readSet, objects, hreader, hobjects, rfl⟩
  unfold decodeBody at h
  cases type with
  | standard type => exact .inl (hobjects (.layout type) h)
  | reserved code =>
    simp only at h
    split at h
    · next x hx =>
      split at h
      · next hhandles => exact .inl (hobjects (.extended rfl hx hhandles) h)
      · cases h
    · cases h
  | privateUse code =>
    simp only at h
    split at h
    · next x hx =>
      split at h
      · next hhandles => exact .inl (hobjects (.extended rfl hx hhandles) h)
      · cases h
        exact .inr ⟨rfl, rfl, rfl⟩
    · cases h
      exact .inr ⟨rfl, rfl, rfl⟩

/-- A unit was read from a header and a body. -/
structure IsRead (f : AsduFormat) (typeOctet qualifier causeOctet : UInt8) (body : Octets)
    (a : Asdu) : Prop where
  type : a.type = .ofOctet typeOctet
  sequence : a.sequence = (StructureQualifier.ofOctet qualifier).sequence
  cause : a.cause = .ofOctet causeOctet
  test : a.test = (causeOctet &&& Cause.testFlag != 0)
  negative : a.negative = (causeOctet &&& Cause.negativeFlag != 0)
  originator : f.causeWidth = 1 → a.originator = 0
  commonAddress : a.commonAddress.toNat < Octets.bound f.commonAddressWidth
  body : f.decodeBody a.type (.ofOctet qualifier) body = .ok (a.body, [])

theorem length_stationOctets (hf : f.Regular) (a : Asdu) :
    3 + (f.stationOctets a).length = f.headerLength := by
  unfold stationOctets headerLength
  rcases hf.causeWidth with hone | htwo
  · rw [if_neg (by omega), List.nil_append, Octets.length_ofNat]
    omega
  · rw [if_pos htwo, List.length_append, List.length_singleton, Octets.length_ofNat]
    omega

/-- The common address is in the octets before the body. -/
theorem commonAddress_of_take {octets : Octets} (hf : f.Regular)
    (hroom : ¬octets.length < f.commonAddressWidth) :
    let address := UInt16.ofNat (Octets.toNat (octets.take f.commonAddressWidth))
    address.toNat < Octets.bound f.commonAddressWidth ∧
      octets = Octets.ofNat f.commonAddressWidth address.toNat ++
        octets.drop f.commonAddressWidth := by
  have hlength := Octets.length_take_of_le hroom
  have hlt := Octets.toNat_lt (octets.take f.commonAddressWidth)
  have hwrite := Octets.ofNat_toNat (octets.take f.commonAddressWidth)
  rw [hlength] at hlt hwrite
  have hbound : Octets.bound f.commonAddressWidth ≤ UInt16.size := by
    rcases hf.commonAddressWidth with h | h <;> rw [h] <;> decide
  have hnumber := UInt16.toNat_ofNat_of_lt' (Nat.lt_of_lt_of_le hlt hbound)
  refine ⟨?_, ?_⟩
  · rw [hnumber]
    exact hlt
  · rw [hnumber, hwrite, List.take_append_drop]

/-- The octets of a unit that was read are its header and its body. -/
theorem decode_eq_ok {octets : Octets} {a : Asdu} (hf : f.Regular)
    (h : f.decode octets = .ok a) :
    ∃ typeOctet qualifier cause body,
      octets = typeOctet :: qualifier :: cause :: (f.stationOctets a ++ body) ∧
        f.IsRead typeOctet qualifier cause body a := by
  unfold decode at h
  simp only at h
  split at h
  · cases h
  · next hroom =>
    split at h
    · next typeOctet qualifier cause rest =>
      obtain ⟨⟨body, left⟩, hbody, h⟩ := bind_eq_ok h
      simp only at h
      split at h
      · next hleft =>
        cases h
        rw [List.isEmpty_iff.mp hleft] at hbody
        rw [headerLength, List.length_cons, List.length_cons, List.length_cons] at hroom
        have hcause := hf.causeWidth
        refine ⟨typeOctet, qualifier, cause, _, ?_, rfl, rfl, rfl, rfl, rfl, ?_, ?_, hbody⟩
        · rcases hcause with hone | htwo
          · have hnot : f.causeWidth ≠ 2 := by omega
            have hlength : ¬rest.length < f.commonAddressWidth := by omega
            simp only [if_neg hnot, stationOctets, List.nil_append]
            rw [← (commonAddress_of_take hf hlength).2]
          · cases rest with
            | nil =>
              rw [List.length_nil] at hroom
              omega
            | cons originator rest =>
              rw [List.length_cons] at hroom
              have hlength : ¬rest.length < f.commonAddressWidth := by omega
              simp only [if_pos htwo, stationOctets, List.headD_cons, List.tail_cons,
                List.cons_append, List.nil_append]
              rw [← (commonAddress_of_take hf hlength).2]
        · intro hone
          exact if_neg (by omega)
        · refine (commonAddress_of_take hf ?_).1
          split
          · rw [List.length_tail]
            omega
          · omega
      · cases h
    · cases h

end AsduFormat

end Telecontrol
