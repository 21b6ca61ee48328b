import Telecontrol.Asdu.Codec
import Telecontrol.Proofs.Element.RoundTrip

/-!
# Units are read as they were written

A unit of a standard type that can be written is read again, except for what exceeds its
fields: the reader finds `Asdu.clipped` (`AsduFormat.decode_encode`). Nothing is lost of a unit
that `Fits` its fields (`AsduFormat.decode_encode_of_fits`). The announced number of element
sets must not be zero if they have consecutive addresses, because the reader then expects no
address.
-/

namespace Telecontrol

theorem bind_eq_ok {ε α β : Type} {first : Except ε α} {next : α → Except ε β} {b : β}
    (h : (first >>= next) = .ok b) : ∃ a, first = .ok a ∧ next a = .ok b := by
  cases first with
  | error e => cases h
  | ok a => exact ⟨a, rfl, h⟩

/-! ### One item after the other -/

section

variable {α : Type} {write : α → Except Fault Octets} {octets : Octets}

theorem writeAll_cons_eq_ok {item : α} {items : List α}
    (h : writeAll write (item :: items) = .ok octets) :
    ∃ first rest, write item = .ok first ∧ writeAll write items = .ok rest ∧
      octets = first ++ rest := by
  obtain ⟨first, hfirst, h⟩ := bind_eq_ok h
  obtain ⟨rest, hrest, h⟩ := bind_eq_ok h
  cases h
  exact ⟨first, rest, hfirst, hrest, rfl⟩

theorem writeAll_append (items items' : List α) :
    writeAll write (items ++ items') = (do
      let first ← writeAll write items
      let rest ← writeAll write items'
      return first ++ rest) := by
  induction items with
  | nil =>
    show _ = writeAll write items' >>= fun rest => Except.ok rest
    cases h : writeAll write items' <;> exact h
  | cons item items ih =>
    rw [List.cons_append, writeAll, writeAll, ih]
    cases write item with
    | error cause => rfl
    | ok head =>
      cases writeAll write items with
      | error cause => rfl
      | ok first =>
        cases writeAll write items' with
        | error cause => rfl
        | ok rest => exact congrArg Except.ok (List.append_assoc head first rest).symm

/-- Groups of items are written one after the other. -/
theorem writeAll_flatten (groups : List (List α)) :
    writeAll write groups.flatten = writeAll (writeAll write) groups := by
  induction groups with
  | nil => rfl
  | cons group groups ih => rw [List.flatten_cons, writeAll_append, ih, writeAll]

/-- If each item is read as it was written, so are all of them. -/
theorem readMany_writeAll {read : Octets → Except Fault (α × Octets)} {kept : α → α}
    {items : List α}
    (hread : ∀ item ∈ items, ∀ octets, write item = .ok octets →
      ∀ rest, read (octets ++ rest) = .ok (kept item, rest))
    (h : writeAll write items = .ok octets) (rest : Octets) :
    readMany read items.length (octets ++ rest) = .ok (items.map kept, rest) := by
  induction items generalizing octets with
  | nil =>
    cases h
    rfl
  | cons item items ih =>
    obtain ⟨first, others, hfirst, hothers, rfl⟩ := writeAll_cons_eq_ok h
    have hitem := hread item List.mem_cons_self first hfirst (others ++ rest)
    have hitems := ih (fun item hmem => hread item (List.mem_cons_of_mem _ hmem)) hothers
    rw [List.append_assoc, List.length_cons, readMany, hitem]
    show (readMany read items.length (others ++ rest) >>= _) = _
    rw [hitems]
    rfl

end

/-! ### Element sets and objects -/

/-- What is left of an object that has been written. -/
def InformationObject.clipped (o : InformationObject) : InformationObject :=
  { o with sets := o.sets.map fun set => set.map Element.clipped }

/-- An element set is read by the layout that it was checked against. -/
theorem decodeSet_writeAll {kinds : List ElementKind} {set : ElementSet} {octets : Octets}
    (hlayout : set.map (·.kind?) = kinds.map some)
    (h : writeAll Element.encode set = .ok octets) (rest : Octets) :
    decodeSet kinds (octets ++ rest) = .ok (set.map Element.clipped, rest) := by
  induction kinds generalizing set octets with
  | nil =>
    obtain rfl := List.map_eq_nil_iff.mp hlayout
    cases h
    rfl
  | cons kind kinds ih =>
    cases set with
    | nil => cases hlayout
    | cons e set =>
      obtain ⟨hkind, hkinds⟩ := List.cons.inj hlayout
      obtain ⟨first, others, hfirst, hothers, rfl⟩ := writeAll_cons_eq_ok h
      rw [List.append_assoc, decodeSet, ElementKind.decode_encode hkind hfirst]
      show (decodeSet kinds (others ++ rest) >>= _) = _
      rw [ih hkinds hothers]
      rfl

namespace AsduFormat

variable {f : AsduFormat} {octets : Octets}

theorem decodeAddress_append {address : UInt32}
    (h : address.toNat < Octets.bound f.objectAddressWidth) (rest : Octets) :
    f.decodeAddress (Octets.ofNat f.objectAddressWidth address.toNat ++ rest) =
      .ok (address, rest) := by
  have hlength : (Octets.ofNat f.objectAddressWidth address.toNat).length =
      f.objectAddressWidth := Octets.length_ofNat _ _
  have hroom : ¬(Octets.ofNat f.objectAddressWidth address.toNat ++ rest).length <
      f.objectAddressWidth := by
    rw [List.length_append, hlength]
    omega
  rw [decodeAddress, if_neg hroom, List.take_left' hlength, List.drop_left' hlength,
    Octets.toNat_ofNat, Nat.mod_eq_of_lt h, UInt32.ofNat_toNat]

/-- The octets of an object are its address and its element sets. -/
theorem encodeObject_eq_ok {o : InformationObject} (h : f.encodeObject o = .ok octets) :
    ∃ sets, writeAll (writeAll Element.encode) o.sets = .ok sets ∧
      octets = Octets.ofNat f.objectAddressWidth o.address.toNat ++ sets := by
  obtain ⟨sets, hsets, h⟩ := bind_eq_ok h
  cases h
  exact ⟨sets, writeAll_flatten o.sets ▸ hsets, rfl⟩

/-- What `fault?` checks of a unit of a standard type with information objects. -/
structure Accepts (f : AsduFormat) (a : Asdu) (type : AsduType)
    (objects : List InformationObject) : Prop where
  commonAddress : a.commonAddress.toNat < Octets.bound f.commonAddressWidth
  consecutive : a.sequence = true → ∃ o, objects = [o]
  separate : a.sequence = false → ∀ o ∈ objects, ∃ set, o.sets = [set]
  count : a.count ≤ maxCount
  address : ∀ o ∈ objects, o.address.toNat < Octets.bound f.objectAddressWidth
  layout : ∀ o ∈ objects, ∀ set ∈ o.sets, set.map (·.kind?) = type.layout.map some

theorem accepts_of_fault? {a : Asdu} {type : AsduType} {objects : List InformationObject}
    (htype : a.type = .standard type) (hbody : a.body = .objects objects)
    (h : f.fault? a = none) : f.Accepts a type objects := by
  unfold fault? at h
  split at h
  · cases h
  · next hcommon =>
    rw [hbody] at h
    simp only [Option.or_eq_none_iff] at h
    obtain ⟨harranged, hcount, haddress, hlayout⟩ := h
    refine ⟨Nat.lt_of_not_le hcommon, fun hsequence => ?_, fun hsequence => ?_, ?_, ?_, ?_⟩
    · rw [arrangementFault?, if_pos hsequence] at harranged
      split at harranged
      · next hone => exact List.length_eq_one_iff.mp hone
      · cases harranged
    · intro o hmem
      rw [arrangementFault?, if_neg (by simp [hsequence]), Option.map_eq_none_iff,
        List.find?_eq_none] at harranged
      exact List.length_eq_one_iff.mp (by simpa using harranged o hmem)
    · split at hcount
      · cases hcount
      · next hle => exact Nat.le_of_not_lt hle
    · intro o hmem
      have hlast := List.findSome?_eq_none_iff.mp haddress o hmem
      simp only [ite_eq_left_iff, reduceCtorEq, imp_false, Decidable.not_not] at hlast
      omega
    · intro o hmem set hset
      have htype? : a.type? = some type := by
        rw [Asdu.type?, htype]
        rfl
      simp only [layoutFault?, htype?, ite_eq_left_iff, reduceCtorEq, imp_false,
        Decidable.not_not, List.all_eq_true] at hlayout
      exact eq_of_beq (hlayout o hmem set hset)

/-- An object with one element set is read as it was written. -/
theorem decodeObject_encodeObject {o : InformationObject} {kinds : List ElementKind}
    (haddress : o.address.toNat < Octets.bound f.objectAddressWidth) (hone : ∃ set, o.sets = [set])
    (hlayout : ∀ set ∈ o.sets, set.map (·.kind?) = kinds.map some)
    (h : f.encodeObject o = .ok octets) (rest : Octets) :
    f.decodeObject (decodeSet kinds) (octets ++ rest) = .ok (o.clipped, rest) := by
  obtain ⟨set, hset⟩ := hone
  obtain ⟨sets, hsets, rfl⟩ := encodeObject_eq_ok h
  rw [hset] at hsets hlayout
  obtain ⟨elements, others, helements, hothers, rfl⟩ := writeAll_cons_eq_ok hsets
  cases hothers
  rw [List.append_nil, List.append_assoc, decodeObject, decodeAddress_append haddress]
  show (decodeSet kinds (elements ++ rest) >>= _) = _
  rw [decodeSet_writeAll (hlayout set List.mem_cons_self) helements]
  show Except.ok _ = Except.ok _
  rw [InformationObject.clipped, hset]
  rfl

/-- The objects of an accepted unit are read as they were written. -/
theorem decodeObjects_encode {a : Asdu} {type : AsduType} {objects : List InformationObject}
    (haccepts : f.Accepts a type objects) (hbody : a.body = .objects objects)
    (hsets : a.sequence = true → ∀ o ∈ objects, o.sets ≠ [])
    (h : writeAll f.encodeObject objects = .ok octets) (rest : Octets) :
    f.decodeObjects ⟨UInt8.ofNat a.count, a.sequence⟩ (decodeSet type.layout) (octets ++ rest) =
      .ok (objects.map InformationObject.clipped, rest) := by
  have hcount : (UInt8.ofNat a.count).toNat = a.count :=
    UInt8.toNat_ofNat_of_lt' (Nat.lt_of_le_of_lt haccepts.count (by decide))
  cases hsequence : a.sequence with
  | false =>
    have hlength : a.count = objects.length := by simp [Asdu.count, hbody, hsequence]
    show readMany (f.decodeObject _) (UInt8.ofNat a.count).toNat _ = _
    rw [hcount, hlength]
    refine readMany_writeAll (fun o hmem octets hwrite rest => ?_) h rest
    exact decodeObject_encodeObject (haccepts.address o hmem)
      (haccepts.separate hsequence o hmem) (haccepts.layout o hmem) hwrite rest
  | true =>
    obtain ⟨o, rfl⟩ := haccepts.consecutive hsequence
    have hlength : a.count = o.sets.length := by simp [Asdu.count, hbody, hsequence]
    -- If no sets were announced, the reader would not look for the address.
    have hnonzero : UInt8.ofNat a.count ≠ 0 := by
      intro hzero
      rw [hzero, hlength] at hcount
      exact hsets hsequence o List.mem_cons_self (List.length_eq_zero_iff.mp hcount.symm)
    obtain ⟨first, others, hfirst, hothers, rfl⟩ := writeAll_cons_eq_ok h
    cases hothers
    obtain ⟨sets, hwrite, rfl⟩ := encodeObject_eq_ok hfirst
    have hread : ∀ set ∈ o.sets, ∀ octets, writeAll Element.encode set = .ok octets →
        ∀ rest, decodeSet type.layout (octets ++ rest) = .ok (set.map Element.clipped, rest) :=
      fun set hmem _ hset => decodeSet_writeAll
        (haccepts.layout o List.mem_cons_self set hmem) hset
    rw [decodeObjects, if_pos rfl, if_neg hnonzero, List.append_nil, List.append_assoc,
      decodeAddress_append (haccepts.address o List.mem_cons_self)]
    show (readMany (decodeSet type.layout) (UInt8.ofNat a.count).toNat (sets ++ rest) >>= _) = _
    rw [hcount, hlength, readMany_writeAll hread hwrite]
    rfl

end AsduFormat

/-! ### The header -/

theorem StructureQualifier.ofOctet_octet {count : Nat} (h : count ≤ maxCount) (sequence : Bool) :
    ofOctet (octet ⟨UInt8.ofNat count, sequence⟩) = ⟨UInt8.ofNat count, sequence⟩ := by
  have hmax : count < 128 := Nat.lt_of_le_of_lt h (by decide)
  have hsequence := sequence.toNat_lt
  have hcount : (UInt8.ofNat count).toNat = count :=
    UInt8.toNat_ofNat_of_lt' (Nat.lt_trans hmax (by decide))
  generalize hn : count + 128 * sequence.toNat = n
  have hlt : n < UInt8.size := by
    show n < 256
    omega
  have hoctet : (octet ⟨UInt8.ofNat count, sequence⟩).toNat = n := by
    rw [octet, hcount, Nat.mod_eq_of_lt hmax, hn]
    exact UInt8.toNat_ofNat_of_lt' hlt
  have hlow : bits n 0 7 = count := by
    simp only [bits, Nat.reduceShiftLeft]
    omega
  rw [ofOctet, hoctet, hlow, testBit_eq_of_shift (b := sequence) (by omega)]

/-- The cause octet holds the code of the cause and both flags. -/
theorem causeOctet_fields {code : UInt8} (h : code ≤ Cause.codeMask) (test negative : Bool) :
    let octet := code ||| (if test then Cause.testFlag else 0) |||
      (if negative then Cause.negativeFlag else 0)
    octet &&& Cause.codeMask = code ∧ (octet &&& Cause.testFlag != 0) = test ∧
      (octet &&& Cause.negativeFlag != 0) = negative := by
  -- The flags lie outside the mask, which is tried on all octets.
  have every : ∀ i : Fin 256, UInt8.ofNat i ≤ Cause.codeMask → ∀ test negative : Bool,
      let octet := UInt8.ofNat i ||| (if test then Cause.testFlag else 0) |||
        (if negative then Cause.negativeFlag else 0)
      octet &&& Cause.codeMask = UInt8.ofNat i ∧ (octet &&& Cause.testFlag != 0) = test ∧
        (octet &&& Cause.negativeFlag != 0) = negative := by
    decide +kernel
  have hcode := every ⟨code.toNat, code.toNat_lt⟩
  rw [UInt8.ofNat_toNat] at hcode
  exact hcode h test negative

theorem Cause.encode_eq_ok {cause : Cause} {code : UInt8} (h : cause.encode = .ok code) :
    code = cause.code ∧ code ≤ codeMask := by
  unfold encode at h
  split at h
  · cases h
  · next hrange =>
    cases h
    exact ⟨rfl, UInt8.not_lt.mp hrange⟩

namespace AsduFormat

variable {f : AsduFormat} {a : Asdu} {octets : Octets}

/-- Cause and flags are read from the cause octet as they were written. -/
theorem causeOctet_eq_ok {octet : UInt8} (h : causeOctet a = .ok octet) :
    Cause.ofOctet octet = .ofCode a.cause.code ∧ (octet &&& Cause.testFlag != 0) = a.test ∧
      (octet &&& Cause.negativeFlag != 0) = a.negative := by
  obtain ⟨code, hcode, h⟩ := bind_eq_ok h
  cases h
  obtain ⟨rfl, hrange⟩ := Cause.encode_eq_ok hcode
  obtain ⟨hmask, hflags⟩ := causeOctet_fields hrange a.test a.negative
  exact ⟨congrArg Cause.ofCode hmask, hflags⟩

/-- The fields between the cause octet and the body. -/
def stationOctets (f : AsduFormat) (a : Asdu) : Octets :=
  (if f.causeWidth = 2 then [a.originator] else []) ++
    Octets.ofNat f.commonAddressWidth a.commonAddress.toNat

/-- The octets of a unit are its header and its body. -/
theorem encode_eq_ok (h : f.encode a = .ok octets) :
    f.fault? a = none ∧ ∃ cause body, causeOctet a = .ok cause ∧
      f.encodeBody a.body = .ok body ∧
      octets = a.type.octet :: a.structureQualifier.octet :: cause ::
        (f.stationOctets a ++ body) := by
  unfold encode at h
  split at h
  · cases h
  · next hfault =>
    obtain ⟨cause, hcause, h⟩ := bind_eq_ok h
    obtain ⟨body, hbody, h⟩ := bind_eq_ok h
    cases h
    refine ⟨hfault, cause, body, hcause, hbody, ?_⟩
    simp only [stationOctets, List.cons_append, List.nil_append, List.append_assoc]

/-- What a reader takes from the fields between the cause octet and the body. -/
theorem stationOctets_fields (hwidth : f.causeWidth = 1 ∨ f.causeWidth = 2)
    (hstation : a.commonAddress.toNat < Octets.bound f.commonAddressWidth) (body : Octets) :
    let rest := f.stationOctets a ++ body
    let tail := if f.causeWidth = 2 then rest.tail else rest
    f.headerLength ≤ rest.length + 3 ∧
      (if f.causeWidth = 2 then rest.headD 0 else 0) =
        (if f.causeWidth = 2 then a.originator else 0) ∧
      UInt16.ofNat (Octets.toNat (tail.take f.commonAddressWidth)) = a.commonAddress ∧
      tail.drop f.commonAddressWidth = body := by
  have hlength : (Octets.ofNat f.commonAddressWidth a.commonAddress.toNat).length =
      f.commonAddressWidth := Octets.length_ofNat _ _
  have haddress : UInt16.ofNat (Octets.toNat
      (Octets.ofNat f.commonAddressWidth a.commonAddress.toNat)) = a.commonAddress := by
    rw [Octets.toNat_ofNat, Nat.mod_eq_of_lt hstation, UInt16.ofNat_toNat]
  rcases hwidth with hone | htwo
  · have hnot : f.causeWidth ≠ 2 := by omega
    simp only [stationOctets, if_neg hnot, List.nil_append]
    refine ⟨?_, trivial, ?_, List.drop_left' hlength⟩
    · rw [headerLength, List.length_append, hlength]
      omega
    · rw [List.take_left' hlength, haddress]
  · simp only [stationOctets, if_pos htwo, List.cons_append, List.nil_append, List.tail_cons]
    refine ⟨?_, rfl, ?_, List.drop_left' hlength⟩
    · rw [headerLength, List.length_cons, List.length_append, hlength]
      omega
    · rw [List.take_left' hlength, haddress]

end AsduFormat

/-! ### Units -/

theorem Asdu.objects_eq {a : Asdu} {objects : List InformationObject}
    (h : a.body = .objects objects) : a.objects = objects := by
  rw [Asdu.objects, h]

/-- What is left of a unit that has been written. -/
def Asdu.clipped (f : AsduFormat) (a : Asdu) : Asdu :=
  { a with
    cause := .ofCode a.cause.code
    originator := if f.causeWidth = 2 then a.originator else 0
    body :=
      match a.body with
      | .objects objects => .objects (objects.map InformationObject.clipped)
      | .verbatim count data => .verbatim count data }

/-- The fields of a unit are within their bits, and a field that is not sent is zero. -/
structure Asdu.Fits (f : AsduFormat) (a : Asdu) : Prop where
  cause : ∃ octet, a.cause = .ofOctet octet
  originator : f.causeWidth = 1 → a.originator = 0
  elements : ∀ o ∈ a.objects, ∀ set ∈ o.sets, ∀ e ∈ set, e.Fits

theorem InformationObject.clipped_eq {o : InformationObject}
    (h : ∀ set ∈ o.sets, set.map Element.clipped = set) : o.clipped = o := by
  rw [clipped, List.map_congr_left h, List.map_id']

/-- Nothing is lost of a unit if nothing is lost of its header and of its objects. -/
theorem Asdu.clipped_eq {f : AsduFormat} {a : Asdu}
    (hwidth : f.causeWidth = 1 ∨ f.causeWidth = 2) (hcause : ∃ octet, a.cause = .ofOctet octet)
    (hunsent : f.causeWidth = 1 → a.originator = 0) (h : ∀ o ∈ a.objects, o.clipped = o) :
    a.clipped f = a := by
  have hcode : Cause.ofCode a.cause.code = a.cause := by
    obtain ⟨octet, hoctet⟩ := hcause
    rw [hoctet, Cause.ofOctet, Cause.code_ofCode]
  have horiginator : (if f.causeWidth = 2 then a.originator else 0) = a.originator := by
    rcases hwidth with hone | htwo
    · rw [hunsent hone, ite_self]
    · rw [if_pos htwo]
  unfold clipped
  rw [hcode, horiginator]
  cases a with
  | mk _ _ _ _ _ _ _ body =>
    cases body with
    | verbatim count data => rfl
    | objects objects =>
      have hobjects : ∀ o ∈ objects, o.clipped = o := h
      simp only [List.map_congr_left hobjects, List.map_id']

theorem Asdu.Fits.clipped_eq {f : AsduFormat} {a : Asdu} (h : a.Fits f)
    (hwidth : f.causeWidth = 1 ∨ f.causeWidth = 2) : a.clipped f = a := by
  refine Asdu.clipped_eq hwidth h.cause h.originator fun o ho => ?_
  refine InformationObject.clipped_eq fun set hset => ?_
  exact (List.map_congr_left fun e he => (h.elements o ho set hset e he).clipped_eq).trans
    (List.map_id' set)

/-- A unit that has been written is read, whatever the extension. -/
theorem AsduFormat.decode_encode {f : AsduFormat} {a : Asdu} {type : AsduType}
    {objects : List InformationObject} {octets : Octets}
    (hwidth : f.causeWidth = 1 ∨ f.causeWidth = 2) (htype : a.type = .standard type)
    (hbody : a.body = .objects objects)
    (hsets : a.sequence = true → ∀ o ∈ objects, o.sets ≠ []) (h : f.encode a = .ok octets) :
    f.decode octets = .ok (a.clipped f) := by
  obtain ⟨hfault, cause, body, hcause, hwrite, rfl⟩ := encode_eq_ok h
  have haccepts := accepts_of_fault? htype hbody hfault
  have hqualifier : a.structureQualifier = ⟨UInt8.ofNat a.count, a.sequence⟩ := by
    rw [Asdu.structureQualifier, Nat.min_eq_left haccepts.count]
  have hread := StructureQualifier.ofOctet_octet haccepts.count a.sequence
  obtain ⟨hofOctet, htest, hnegative⟩ := causeOctet_eq_ok hcause
  obtain ⟨hlength, horiginator, hstation, hdrop⟩ :=
    stationOctets_fields hwidth haccepts.commonAddress body
  rw [hbody] at hwrite
  -- Nothing follows the objects, so nothing is left over.
  have hobjects := decodeObjects_encode haccepts hbody hsets hwrite []
  rw [List.append_nil] at hobjects
  have hdecode : f.decodeBody (.standard type) ⟨UInt8.ofNat a.count, a.sequence⟩ body =
      .ok (.objects (objects.map InformationObject.clipped), []) := by
    show (f.decodeObjects _ _ _ >>= _) = _
    rw [hobjects]
    rfl
  have hoctet : TypeIdentification.ofOctet a.type.octet = .standard type := by
    rw [htype]
    exact TypeIdentification.ofOctet_code type
  have hroom : ¬(a.type.octet :: a.structureQualifier.octet :: cause ::
      (f.stationOctets a ++ body)).length < f.headerLength := Nat.not_lt.mpr hlength
  rw [decode, if_neg hroom]
  simp only [horiginator, hstation, hdrop, hoctet, hqualifier, hread, hdecode, hofOctet, htest,
    hnegative]
  show Except.ok _ = Except.ok _
  rw [Asdu.clipped, htype, hbody]

/-- Nothing is lost of a unit of a standard type that fits its fields. -/
theorem AsduFormat.decode_encode_of_fits (settings : Settings) (hvalid : settings.Valid)
    (extension : Option Extension) (a : Asdu) (type : AsduType) (octets : Octets)
    (objects : List InformationObject) (htype : a.type = .standard type)
    (hbody : a.body = .objects objects) (hfits : a.Fits (settings.format extension))
    (hsets : a.sequence = true → ∀ o ∈ objects, o.sets ≠ [])
    (h : (settings.format extension).encode a = .ok octets) :
    (settings.format extension).decode octets = .ok a := by
  rw [decode_encode hvalid.causeWidth htype hbody hsets h, hfits.clipped_eq hvalid.causeWidth]

/-- Two points with consecutive addresses are read as they were written. -/
theorem AsduFormat.decode_encode_two_points :
    ({ causeWidth := 1, commonAddressWidth := 1, objectAddressWidth := 2 } : Settings).Valid ∧
      let f := ({ causeWidth := 1, commonAddressWidth := 1, objectAddressWidth := 2 } :
        Settings).format none
      let a := Asdu.consecutive .singlePointTime24 .spontaneous 7 0x1FF
        [[.singlePoint true (.ofBits 0x80), .time24 ⟨59999, 59, false⟩],
          [.singlePoint false (.ofBits 0), .time24 ⟨0, 0, true⟩]]
      f.encode a = .ok [2, 130, 3, 7, 0xFF, 1, 0x81, 0x5F, 0xEA, 59, 0, 0, 0, 0x80] ∧
        f.decode [2, 130, 3, 7, 0xFF, 1, 0x81, 0x5F, 0xEA, 59, 0, 0, 0, 0x80] = .ok a := by
  have hvalid : ({ causeWidth := 1, commonAddressWidth := 1, objectAddressWidth := 2 } :
      Settings).Valid := (Settings.validate_eq_ok_iff _).mp rfl
  refine ⟨hvalid, rfl, ?_⟩
  refine decode_encode_of_fits _ hvalid none _ .singlePointTime24 _ _ rfl rfl ?_ ?_ rfl
  · refine ⟨⟨3, rfl⟩, fun _ => rfl, fun o ho set hset e he => ?_⟩
    obtain rfl := List.mem_singleton.mp ho
    simp only [List.mem_cons, List.not_mem_nil, or_false] at hset
    rcases hset with rfl | rfl
    · simp only [List.mem_cons, List.not_mem_nil, or_false] at he
      rcases he with rfl | rfl
      · rfl
      · exact ⟨by decide⟩
    · simp only [List.mem_cons, List.not_mem_nil, or_false] at he
      rcases he with rfl | rfl
      · rfl
      · exact ⟨by decide⟩
  · rintro - o ho
    obtain rfl := List.mem_singleton.mp ho
    exact List.cons_ne_nil _ _

end Telecontrol
