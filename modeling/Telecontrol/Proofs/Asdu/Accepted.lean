import Telecontrol.Proofs.Asdu.RoundTrip
import Telecontrol.Proofs.Asdu.Strict

/-!
# What the reader of units accepts

A reader takes octets off the head of a string. How many, and what has to be in them, is its
`Extent`; the extents of readers that follow each other add up (`Measured.bind`). A string is
read as a unit if the extent of what its header announces is the whole rest of the string, and
for types of fixed width this is a matter of counting (`AsduFormat.decode_isOk_iff`).
-/

namespace Telecontrol

/-! ### Extents -/

/-- How many octets something takes at the head of a string, and what has to hold of them. The
number may be told by the octets themselves. -/
structure Extent where
  length : Octets → Nat
  sound : Octets → Prop

namespace Extent

/-- A fixed number of octets, whatever they are. -/
def octets (n : Nat) : Extent := ⟨fun _ => n, fun _ => True⟩

/-- One thing after the other. -/
def append (e e' : Extent) : Extent where
  length octets := e.length octets + e'.length (octets.drop (e.length octets))
  sound octets := e.sound octets ∧ e'.sound (octets.drop (e.length octets))

instance : Append Extent := ⟨append⟩

/-- A number of things of one kind. -/
def times (e : Extent) : Nat → Extent
  | 0 => octets 0
  | n + 1 => e ++ e.times n

/-- The things are there, and as they have to be. -/
def Fits (e : Extent) (octets : Octets) : Prop :=
  e.length octets ≤ octets.length ∧ e.sound octets

variable {e e' : Extent} {string : Octets}

@[simp] theorem length_append (e e' : Extent) (string : Octets) :
    (e ++ e').length string = e.length string + e'.length (string.drop (e.length string)) := rfl

@[simp] theorem sound_append (e e' : Extent) (string : Octets) :
    (e ++ e').sound string ↔ e.sound string ∧ e'.sound (string.drop (e.length string)) := Iff.rfl

theorem fits_append : (e ++ e').Fits string ↔
    e.Fits string ∧ e'.Fits (string.drop (e.length string)) := by
  simp only [Fits, length_append, sound_append, List.length_drop]
  constructor
  · rintro ⟨hlength, hsound, hsound'⟩
    exact ⟨⟨by omega, hsound⟩, by omega, hsound'⟩
  · rintro ⟨⟨hlength, hsound⟩, hlength', hsound'⟩
    exact ⟨by omega, hsound, hsound'⟩

/-- The number of octets is the same in every string. -/
def Fixed (e : Extent) (n : Nat) : Prop := ∀ string, e.length string = n

theorem fixed_octets (n : Nat) : (octets n).Fixed n := fun _ => rfl

theorem Fixed.append {m n : Nat} (h : e.Fixed m) (h' : e'.Fixed n) : (e ++ e').Fixed (m + n) :=
  fun string => by rw [length_append, h, h']

theorem Fixed.times {width : Nat} (h : e.Fixed width) (n : Nat) :
    (e.times n).Fixed (n * width) := by
  induction n with
  | zero =>
    rw [Nat.zero_mul]
    exact fixed_octets 0
  | succ n ih =>
    rw [Nat.succ_mul, Nat.add_comm (n * width)]
    exact h.append ih

/-- Things of fixed width have to be as they have to at every multiple of the width. -/
theorem Fixed.sound_times {width : Nat} (h : e.Fixed width) (n : Nat) (string : Octets) :
    (e.times n).sound string ↔ ∀ i < n, e.sound (string.drop (i * width)) := by
  induction n generalizing string with
  | zero => exact iff_of_true trivial nofun
  | succ n ih =>
    rw [Extent.times, sound_append, h, ih]
    constructor
    · rintro ⟨hfirst, hrest⟩ i hi
      cases i with
      | zero => rwa [Nat.zero_mul, List.drop_zero]
      | succ i =>
        have hnext := hrest i (by omega)
        rwa [List.drop_drop, Nat.add_comm width, ← Nat.succ_mul] at hnext
    · intro hall
      refine ⟨?_, fun i hi => ?_⟩
      · simpa only [Nat.zero_mul, List.drop_zero] using hall 0 (by omega)
      · rw [List.drop_drop, Nat.add_comm width, ← Nat.succ_mul]
        exact hall (i + 1) (by omega)

end Extent

/-- A reader takes what its extent says if that fits the string, and refuses the string as
invalid otherwise. -/
structure Measured {α : Type} (read : Octets → Except Fault (α × Octets)) (e : Extent) : Prop where
  ok : ∀ {octets}, e.Fits octets → ∃ item, read octets = .ok (item, octets.drop (e.length octets))
  error : ∀ {octets}, ¬e.Fits octets → ∃ fault, read octets = .error (.invalidAsdu fault)

namespace Measured

variable {α β : Type} {read : Octets → Except Fault (α × Octets)} {e e' : Extent}

theorem congr {read' : Octets → Except Fault (α × Octets)} (h : Measured read e)
    (heq : ∀ octets, read' octets = read octets) : Measured read' e := by
  rwa [funext heq]

theorem pure (a : α) : Measured (fun octets => .ok (a, octets)) (.octets 0) :=
  ⟨fun _ => ⟨a, rfl⟩, fun h => absurd ⟨Nat.zero_le _, trivial⟩ h⟩

/-- Readers one after the other. -/
theorem bind {next : α → Octets → Except Fault (β × Octets)} (h : Measured read e)
    (hnext : ∀ a, Measured (next a) e') :
    Measured (fun octets => read octets >>= fun (a, rest) => next a rest) (e ++ e') := by
  constructor
  · intro octets hfits
    obtain ⟨hfits, hfits'⟩ := Extent.fits_append.mp hfits
    obtain ⟨a, ha⟩ := h.ok hfits
    obtain ⟨b, hb⟩ := (hnext a).ok hfits'
    refine ⟨b, ?_⟩
    rw [List.drop_drop] at hb
    show (read octets >>= fun (a, rest) => next a rest) = _
    rw [ha]
    exact hb
  · intro octets hnot
    show ∃ fault, (read octets >>= fun (a, rest) => next a rest) = _
    by_cases hfits : e.Fits octets
    · obtain ⟨a, ha⟩ := h.ok hfits
      rw [ha]
      exact (hnext a).error fun hfits' => hnot (Extent.fits_append.mpr ⟨hfits, hfits'⟩)
    · obtain ⟨fault, hfault⟩ := h.error hfits
      rw [hfault]
      exact ⟨fault, rfl⟩

/-- What is done with an item at the end takes no more octets. -/
theorem map (h : Measured read e) (next : α → β) :
    Measured (fun octets => read octets >>= fun (a, rest) => .ok (next a, rest)) e := by
  constructor
  · intro octets hfits
    obtain ⟨a, ha⟩ := h.ok hfits
    refine ⟨next a, ?_⟩
    show (read octets >>= fun (a, rest) => Except.ok (next a, rest)) = _
    rw [ha]
    rfl
  · intro octets hnot
    obtain ⟨fault, hfault⟩ := h.error hnot
    refine ⟨fault, ?_⟩
    show (read octets >>= fun (a, rest) => Except.ok (next a, rest)) = _
    rw [hfault]
    rfl

theorem times (h : Measured read e) (n : Nat) : Measured (readMany read n) (e.times n) := by
  induction n with
  | zero => exact .pure []
  | succ n ih => exact h.bind fun item => ih.map fun items => item :: items

/-- A string is read to its end if the extent is the whole string. -/
theorem whole (h : Measured read e) (next : α → β) (left : Nat → AsduFault) (octets : Octets) :
    let result := read octets >>= fun item =>
      if item.2.isEmpty then .ok (next item.1) else .error (.invalidAsdu (left item.2.length))
    ((octets.length = e.length octets ∧ e.sound octets) ∧ ∃ b, result = .ok b) ∨
      (¬(octets.length = e.length octets ∧ e.sound octets) ∧
        ∃ fault, result = .error (.invalidAsdu fault)) := by
  intro result
  by_cases hfits : e.Fits octets
  · obtain ⟨item, hitem⟩ := h.ok hfits
    have hresult : result = if (octets.drop (e.length octets)).isEmpty then .ok (next item)
        else .error (.invalidAsdu (left (octets.drop (e.length octets)).length)) := by
      show (read octets >>= fun item => _) = _
      rw [hitem]
      rfl
    obtain ⟨hlength, hsound⟩ := hfits
    by_cases hall : octets.length = e.length octets
    · refine .inl ⟨⟨hall, hsound⟩, next item, ?_⟩
      rw [hresult, ← hall, List.drop_length]
      rfl
    · refine .inr ⟨fun hwhole => hall hwhole.1, _, hresult.trans (if_neg fun hempty => hall ?_)⟩
      have hle := List.drop_eq_nil_iff.mp (List.isEmpty_iff.mp hempty)
      omega
  · obtain ⟨fault, hfault⟩ := h.error hfits
    refine .inr ⟨fun hwhole => hfits ⟨Nat.le_of_eq hwhole.1.symm, hwhole.2⟩, fault, ?_⟩
    show (read octets >>= fun item => _) = _
    rw [hfault]
    rfl

end Measured

/-! ### Elements and element sets -/

/-- The octets of an element of a kind: a segment tells its length in an octet of its own, and a
test pattern has to be the one that is fixed. -/
def ElementKind.extent (kind : ElementKind) : Extent where
  length octets :=
    match kind.width? with
    | none => 1 + (octets.headD 0).toNat
    | some width => width
  sound octets := kind = .fbp → Octets.toNat (octets.take 2) = testPattern

/-- The octets of an element set of the given kinds. -/
def setExtent : List ElementKind → Extent
  | [] => .octets 0
  | kind :: kinds => kind.extent ++ setExtent kinds

theorem ElementKind.ofNumber_isOk {kind : ElementKind} {width n : Nat}
    (hwidth : kind.width? = some width) (h : kind = .fbp → n = testPattern) :
    ∃ e, kind.ofNumber n = .ok e := by
  cases kind
  case segment => cases hwidth
  case fbp => exact ⟨_, if_pos (h rfl)⟩
  all_goals exact ⟨_, rfl⟩

theorem ElementKind.measured_decode (kind : ElementKind) : Measured kind.decode kind.extent := by
  cases hwidth : kind.width? with
  | none =>
    -- Only a segment has no fixed width.
    obtain rfl : kind = .segment := by cases kind <;> first | rfl | cases hwidth
    constructor
    · rintro octets ⟨hlength, -⟩
      cases octets with
      | nil => cases hlength
      | cons length rest =>
        have hroom : ¬rest.length < length.toNat := by
          have hlength : 1 + length.toNat ≤ rest.length + 1 := hlength
          omega
        refine ⟨.segment (rest.take length.toNat), ?_⟩
        show decodeSegment (length :: rest) = .ok (_, (length :: rest).drop (1 + length.toNat))
        rw [decodeSegment, if_neg hroom, Nat.add_comm 1, List.drop_succ_cons]
    · intro octets hnot
      cases octets with
      | nil => exact ⟨_, rfl⟩
      | cons length rest =>
        have hroom : rest.length < length.toNat := by
          have hlength : ¬(1 + length.toNat ≤ rest.length + 1) := fun hle =>
            hnot ⟨hle, fun hfbp => absurd hfbp (by decide)⟩
          omega
        exact ⟨_, if_pos hroom⟩
  | some width =>
    have hextent : ∀ octets, kind.extent.length octets = width := fun octets => by
      simp only [extent, hwidth]
    constructor
    · rintro octets ⟨hlength, hsound⟩
      rw [hextent] at hlength ⊢
      have hpattern : kind = .fbp → Octets.toNat (octets.take width) = testPattern := by
        rintro rfl
        cases hwidth
        exact hsound rfl
      obtain ⟨e, he⟩ := ofNumber_isOk hwidth hpattern
      refine ⟨e, ?_⟩
      simp only [decode, hwidth, if_neg (Nat.not_lt.mpr hlength), he]
      rfl
    · intro octets hnot
      simp only [decode, hwidth]
      split
      · exact ⟨_, rfl⟩
      · next hroom =>
        -- The octets are there, so the pattern is a wrong one.
        have hwrong : ¬kind.extent.sound octets := fun hsound =>
          hnot ⟨by rw [hextent]; omega, hsound⟩
        obtain ⟨rfl, hpattern⟩ := Classical.not_imp.mp hwrong
        cases hwidth
        exact ⟨_, by rw [ofNumber, if_neg hpattern]; rfl⟩

theorem measured_decodeSet (kinds : List ElementKind) :
    Measured (decodeSet kinds) (setExtent kinds) := by
  induction kinds with
  | nil => exact .pure []
  | cons kind kinds ih => exact kind.measured_decode.bind fun e => ih.map fun set => e :: set

/-- The octets of an element set of the given kinds, if none is a segment. -/
def layoutWidth : List ElementKind → Nat
  | [] => 0
  | kind :: kinds => kind.width?.getD 0 + layoutWidth kinds

theorem ElementKind.fixed_extent {kind : ElementKind} (h : kind ≠ .segment) :
    kind.extent.Fixed (kind.width?.getD 0) := by
  intro octets
  cases hwidth : kind.width? with
  | none => cases kind <;> first | exact absurd rfl h | cases hwidth
  | some width => simp only [extent, hwidth, Option.getD_some]

theorem fixed_setExtent {kinds : List ElementKind} (h : .segment ∉ kinds) :
    (setExtent kinds).Fixed (layoutWidth kinds) := by
  induction kinds with
  | nil => exact Extent.fixed_octets 0
  | cons kind kinds ih =>
    obtain ⟨hkind, hkinds⟩ := not_or.mp (mt List.mem_cons.mpr h)
    exact (ElementKind.fixed_extent (Ne.symm hkind)).append (ih hkinds)

/-- The test patterns of an element set are where its layout says. -/
theorem sound_setExtent {kinds : List ElementKind} (h : .segment ∉ kinds) (octets : Octets) :
    (setExtent kinds).sound octets ↔ ∀ j, kinds[j]? = some .fbp →
      Octets.toNat ((octets.drop (layoutWidth (kinds.take j))).take 2) = testPattern := by
  induction kinds generalizing octets with
  | nil => exact iff_of_true trivial nofun
  | cons kind kinds ih =>
    obtain ⟨hkind, hkinds⟩ := not_or.mp (mt List.mem_cons.mpr h)
    have hnext : ∀ j, layoutWidth ((kind :: kinds).take (j + 1)) =
        kind.width?.getD 0 + layoutWidth (kinds.take j) := fun j => rfl
    rw [setExtent, Extent.sound_append, ElementKind.fixed_extent (Ne.symm hkind), ih hkinds]
    constructor
    · rintro ⟨hfirst, hrest⟩ j hj
      cases j with
      | zero => exact hfirst (Option.some.inj hj)
      | succ j =>
        rw [hnext, ← List.drop_drop]
        exact hrest j hj
    · intro hall
      refine ⟨fun hfbp => hall 0 (congrArg some hfbp), fun j hj => ?_⟩
      rw [List.drop_drop, ← hnext]
      exact hall (j + 1) hj

/-! ### Objects -/

namespace AsduFormat

variable {f : AsduFormat} {q : StructureQualifier} {e : Extent}
  {readSet : Octets → Except Fault (ElementSet × Octets)}

/-- The octets of the objects that a structure qualifier announces. -/
def objectsExtent (f : AsduFormat) (q : StructureQualifier) (e : Extent) : Extent :=
  if q.sequence then
    if q.count = 0 then .octets 0
    else .octets f.objectAddressWidth ++ e.times q.count.toNat
  else (.octets f.objectAddressWidth ++ e).times q.count.toNat

theorem measured_decodeAddress : Measured f.decodeAddress (.octets f.objectAddressWidth) := by
  constructor
  · rintro octets ⟨hlength, -⟩
    exact ⟨_, if_neg (Nat.not_lt.mpr hlength)⟩
  · intro octets hnot
    exact ⟨_, if_pos (Nat.not_le.mp fun hle => hnot ⟨hle, trivial⟩)⟩

theorem measured_decodeObject (h : Measured readSet e) :
    Measured (f.decodeObject readSet) (.octets f.objectAddressWidth ++ e) := by
  unfold decodeObject
  exact measured_decodeAddress.bind fun address =>
    h.map fun set => InformationObject.mk address [set]

theorem measured_decodeObjects (h : Measured readSet e) (q : StructureQualifier) :
    Measured (f.decodeObjects q readSet) (f.objectsExtent q e) := by
  unfold objectsExtent
  split
  · next hsequence =>
    split
    · next hzero =>
      refine (Measured.pure []).congr fun octets => ?_
      rw [decodeObjects, if_pos hsequence, if_pos hzero]
    · next hnonzero =>
      refine (measured_decodeAddress.bind fun address => (h.times q.count.toNat).map
        fun sets => [InformationObject.mk address sets]).congr fun octets => ?_
      rw [decodeObjects, if_pos hsequence, if_neg hnonzero]
      rfl
  · next hsequence =>
    exact ((measured_decodeObject h).times q.count.toNat).congr fun octets => if_neg hsequence

/-! ### Units -/

/-- What is read of a string that is long enough for a header. -/
theorem decode_eq_decodeBody (hwidth : f.causeWidth = 1 ∨ f.causeWidth = 2) {octets : Octets}
    (hroom : f.headerLength ≤ octets.length) :
    let q := StructureQualifier.ofOctet (octets.tail.headD 0)
    ∃ unit : AsduBody → Asdu, (∀ body, (unit body).body = body) ∧
      f.decode octets =
        (f.decodeBody (.ofOctet (octets.headD 0)) q (octets.drop f.headerLength) >>= fun item =>
          if item.2.isEmpty then .ok (unit item.1)
          else .error (.invalidAsdu (.trailingOctets item.2.length q.count.toNat))) := by
  unfold decode
  rw [if_neg (Nat.not_lt.mpr hroom)]
  match octets, hroom with
  | [], hroom | [_], hroom | [_, _], hroom =>
    simp only [headerLength, List.length_cons, List.length_nil] at hroom
    omega
  | typeOctet :: qualifier :: cause :: rest, hroom =>
    have hdrop : (if f.causeWidth = 2 then rest.tail else rest).drop f.commonAddressWidth =
        (typeOctet :: qualifier :: cause :: rest).drop f.headerLength := by
      rw [headerLength]
      rcases hwidth with hone | htwo
      · rw [if_neg (by omega), hone, Nat.add_comm]
        rfl
      · rw [if_pos htwo, htwo, Nat.add_comm, List.drop_tail]
        rfl
    simp only [hdrop]
    exact ⟨fun body => ⟨_, _, _, _, _, _, _, body⟩, fun _ => rfl, rfl⟩

/-- A string whose type is of the standard is read if what its header announces is what follows
the header, and is refused as invalid otherwise. -/
theorem decode_standard (hwidth : f.causeWidth = 1 ∨ f.causeWidth = 2) {octets : Octets}
    {type : AsduType} (htype : octets.head? = some type.code) :
    let e := f.objectsExtent (.ofOctet (octets.tail.headD 0)) (setExtent type.layout)
    ((∃ a, f.decode octets = .ok a) ↔ f.headerLength ≤ octets.length ∧
        octets.length = f.headerLength + e.length (octets.drop f.headerLength) ∧
          e.sound (octets.drop f.headerLength)) ∧
      ((¬∃ a, f.decode octets = .ok a) →
        ∃ fault, f.decode octets = .error (.invalidAsdu fault)) := by
  intro e
  by_cases hroom : f.headerLength ≤ octets.length
  · obtain ⟨unit, -, hdecode⟩ := decode_eq_decodeBody hwidth hroom
    have hoctet : TypeIdentification.ofOctet (octets.headD 0) = .standard type := by
      rw [List.headD_eq_head?_getD, htype, Option.getD_some, TypeIdentification.ofOctet_code]
    have hread : Measured (f.decodeBody (.standard type) (.ofOctet (octets.tail.headD 0))) e :=
      (measured_decodeObjects (measured_decodeSet type.layout) _).map AsduBody.objects
    rw [hoctet] at hdecode
    rw [hdecode]
    have hrest : octets.length = f.headerLength + e.length (octets.drop f.headerLength) ↔
        (octets.drop f.headerLength).length = e.length (octets.drop f.headerLength) := by
      rw [List.length_drop]
      omega
    rw [hrest]
    rcases hread.whole unit (fun left => .trailingOctets left
        (StructureQualifier.ofOctet (octets.tail.headD 0)).count.toNat)
      (octets.drop f.headerLength) with ⟨hwhole, a, ha⟩ | ⟨hnot, fault, hfault⟩
    · exact ⟨iff_of_true ⟨a, ha⟩ ⟨hroom, hwhole⟩, fun hnone => absurd ⟨a, ha⟩ hnone⟩
    · refine ⟨iff_of_false ?_ fun hwhole => hnot hwhole.2, fun _ => ⟨fault, hfault⟩⟩
      rintro ⟨a, ha⟩
      cases hfault.symm.trans ha
  · have hdecode : f.decode octets =
        .error (.invalidAsdu (.headerTruncated octets.length f.headerLength)) := by
      unfold decode
      exact if_pos (Nat.not_le.mp hroom)
    refine ⟨iff_of_false ?_ fun hwhole => hroom hwhole.1, fun _ => ⟨_, hdecode⟩⟩
    rintro ⟨a, ha⟩
    cases hdecode.symm.trans ha

/-! ### Announced lengths -/

/-- The length of a unit with element sets of a fixed width, as its header announces it. -/
def announcedLength (f : AsduFormat) (q : StructureQualifier) (width : Nat) : Nat :=
  if q.count = 0 then f.headerLength
  else if q.sequence then f.headerLength + f.objectAddressWidth + q.count.toNat * width
  else f.headerLength + q.count.toNat * (f.objectAddressWidth + width)

/-- Where an element set of fixed width begins. -/
def setStart (f : AsduFormat) (q : StructureQualifier) (width i : Nat) : Nat :=
  if q.sequence then f.headerLength + f.objectAddressWidth + i * width
  else f.headerLength + i * (f.objectAddressWidth + width) + f.objectAddressWidth

theorem length_objectsExtent {width : Nat} (h : e.Fixed width) (string : Octets) :
    f.headerLength + (f.objectsExtent q e).length string = f.announcedLength q width := by
  unfold objectsExtent announcedLength
  have haddress := Extent.fixed_octets f.objectAddressWidth
  by_cases hcount : q.count = 0
  · rw [if_pos hcount]
    split
    · rfl
    · rw [hcount]
      rfl
  · rw [if_neg hcount]
    split
    · rw [haddress.append (h.times _) string, Nat.add_assoc]
    · rw [(haddress.append h).times _ string]

theorem sound_objectsExtent {width : Nat} (h : e.Fixed width) (string : Octets) :
    (f.objectsExtent q e).sound (string.drop f.headerLength) ↔
      ∀ i < q.count.toNat, e.sound (string.drop (f.setStart q width i)) := by
  have haddress := Extent.fixed_octets f.objectAddressWidth
  unfold objectsExtent setStart
  split
  · split
    · next hzero =>
      rw [hzero]
      exact iff_of_true trivial nofun
    · rw [Extent.sound_append, haddress, h.sound_times]
      simp only [List.drop_drop]
      exact ⟨fun hall => hall.2, fun hall => ⟨trivial, hall⟩⟩
  · rw [(haddress.append h).sound_times]
    simp only [Extent.sound_append, haddress (_ : Octets), List.drop_drop]
    exact ⟨fun hall i hi => (hall i hi).2, fun hall i hi => ⟨trivial, hall i hi⟩⟩

end AsduFormat

/-- The octets that segments take one after the other, each with its names and its length after a
gap: the length tells how many octets follow it. -/
def segmentsLength (gap : Nat) : Nat → Octets → Nat
  | 0, _ => 0
  | n + 1, octets =>
    let own := gap + 4 + ((octets.drop (gap + 3)).headD 0).toNat
    own + segmentsLength gap n (octets.drop own)

theorem Extent.length_times_segments {e : Extent} {gap : Nat}
    (h : ∀ string, e.length string = gap + 4 + ((string.drop (gap + 3)).headD 0).toNat) (n : Nat)
    (string : Octets) : (e.times n).length string = segmentsLength gap n string := by
  induction n generalizing string with
  | zero => rfl
  | succ n ih => rw [times, length_append, ih, h, segmentsLength]

theorem Extent.sound_times_of_forall {e : Extent} (h : ∀ string, e.sound string) (n : Nat)
    (string : Octets) : (e.times n).sound string := by
  induction n generalizing string with
  | zero => trivial
  | succ n ih => exact ⟨h string, ih _⟩

theorem length_segmentExtent (string : Octets) :
    (setExtent AsduType.segment.layout).length string =
      4 + ((string.drop 3).headD 0).toNat := by
  show 2 + (1 + ((1 + (((string.drop 2).drop 1).headD 0).toNat) + 0)) = _
  rw [List.drop_drop, Nat.add_zero, ← Nat.add_assoc, ← Nat.add_assoc]

theorem sound_segmentExtent (string : Octets) :
    (setExtent AsduType.segment.layout).sound string := ⟨nofun, nofun, nofun, trivial⟩

namespace AsduFormat

variable {f : AsduFormat} {q : StructureQualifier}

/-- The length of a unit with segments, as its header and the length of each segment announce
it. -/
def announcedSegments (f : AsduFormat) (q : StructureQualifier) (octets : Octets) : Nat :=
  if q.count = 0 then f.headerLength
  else if q.sequence then
    f.headerLength + f.objectAddressWidth +
      segmentsLength 0 q.count.toNat (octets.drop (f.headerLength + f.objectAddressWidth))
  else f.headerLength +
    segmentsLength f.objectAddressWidth q.count.toNat (octets.drop f.headerLength)

theorem length_segmentsExtent (string : Octets) :
    f.headerLength + (f.objectsExtent q (setExtent AsduType.segment.layout)).length
      (string.drop f.headerLength) = f.announcedSegments q string := by
  have haddress := Extent.fixed_octets f.objectAddressWidth
  have hobject : ∀ string, (Extent.octets f.objectAddressWidth ++
      setExtent AsduType.segment.layout).length string = f.objectAddressWidth + 4 +
        ((string.drop (f.objectAddressWidth + 3)).headD 0).toNat := by
    intro string
    rw [Extent.length_append, haddress, length_segmentExtent, List.drop_drop, Nat.add_assoc]
  have hset : ∀ string, (setExtent AsduType.segment.layout).length string =
      0 + 4 + ((string.drop (0 + 3)).headD 0).toNat := length_segmentExtent
  unfold objectsExtent announcedSegments
  by_cases hcount : q.count = 0
  · rw [if_pos hcount]
    split
    · rfl
    · rw [hcount]
      rfl
  · rw [if_neg hcount]
    split
    · rw [Extent.length_append, haddress, Extent.length_times_segments hset, List.drop_drop,
        Nat.add_assoc]
    · rw [Extent.length_times_segments hobject]

theorem sound_segmentsExtent (string : Octets) :
    (f.objectsExtent q (setExtent AsduType.segment.layout)).sound string := by
  unfold objectsExtent
  split
  · split
    · trivial
    · exact ⟨trivial, Extent.sound_times_of_forall sound_segmentExtent _ _⟩
  · have hobject : ∀ string, (Extent.octets f.objectAddressWidth ++
        setExtent AsduType.segment.layout).sound string := fun string =>
      ⟨trivial, sound_segmentExtent _⟩
    exact Extent.sound_times_of_forall hobject _ _

/-- The test patterns of a unit are where its header and its layout say. -/
def PatternsHold (f : AsduFormat) (q : StructureQualifier) (kinds : List ElementKind)
    (octets : Octets) : Prop :=
  ∀ i < q.count.toNat, ∀ j, kinds[j]? = some .fbp →
    Octets.toNat ((octets.drop
      (f.setStart q (layoutWidth kinds) i + layoutWidth (kinds.take j))).take 2) = testPattern

/-- Without an extension that knows it, a reserved type is unknown. -/
theorem decodeBody_reserved {code : UInt8}
    (h : ∀ x, f.extension = some x → x.handles code = false) (octets : Octets) :
    f.decodeBody (.reserved code) q octets = .error (.unknownType code) := by
  unfold decodeBody
  simp only
  split
  · next x hx =>
    rw [h x hx]
    rfl
  · rfl

/-- Without an extension that knows it, a private type is kept as it is. -/
theorem decodeBody_private {code : UInt8}
    (h : ∀ x, f.extension = some x → x.handles code = false) (octets : Octets) :
    f.decodeBody (.privateUse code) q octets = .ok (.verbatim q.count octets, []) := by
  unfold decodeBody
  simp only
  split
  · next x hx =>
    rw [h x hx]
    rfl
  · rfl

/-- A string whose type is of the standard is read exactly if it is as long as its header and
the lengths of its segments announce, and every test pattern is the fixed one; it is refused as
invalid otherwise. Types outside the standard that no extension knows are refused as unknown if
they are reserved, and read with any body if they are private. Nothing is read past the end. -/
theorem decode_isOk_iff (settings : Settings) (hvalid : settings.Valid)
    (extension : Option Extension) (octets : Octets) :
    let f := settings.format extension
    let q := StructureQualifier.ofOctet (octets.tail.headD 0)
    (∀ type : AsduType, octets.head? = some type.code →
      (.segment ∉ type.layout →
        ((∃ a, f.decode octets = .ok a) ↔ f.headerLength ≤ octets.length ∧
          octets.length = f.announcedLength q (layoutWidth type.layout) ∧
            f.PatternsHold q type.layout octets)) ∧
      (type = .segment →
        ((∃ a, f.decode octets = .ok a) ↔ f.headerLength ≤ octets.length ∧
          octets.length = f.announcedSegments q octets)) ∧
      ((¬∃ a, f.decode octets = .ok a) →
        ∃ fault, f.decode octets = .error (.invalidAsdu fault))) ∧
    (∀ code, octets.head? = some code → f.headerLength ≤ octets.length →
      (∀ x, extension = some x → x.handles code = false) →
        (TypeIdentification.ofOctet code = .reserved code →
          f.decode octets = .error (.unknownType code)) ∧
        (TypeIdentification.ofOctet code = .privateUse code →
          ∃ a, f.decode octets = .ok a ∧
            a.body = .verbatim q.count (octets.drop f.headerLength))) ∧
    (f.strict octets).map Prod.fst = (f.decode octets).mapError .fault ∧
      f.strict octets ≠ .error .overrun := by
  intro f q
  have hwidth : f.causeWidth = 1 ∨ f.causeWidth = 2 := hvalid.causeWidth
  have hstrict := f.map_fst_strict hwidth octets
  refine ⟨fun type htype => ?_, fun code hcode hroom hunknown => ?_, hstrict, fun hoverrun => ?_⟩
  · obtain ⟨hiff, herror⟩ := decode_standard hwidth htype
    refine ⟨fun hfixed => ?_, ?_, herror⟩
    · have hset := fixed_setExtent hfixed
      rw [hiff, length_objectsExtent hset, sound_objectsExtent hset]
      simp only [sound_setExtent hfixed, List.drop_drop]
      exact Iff.rfl
    · rintro rfl
      rw [hiff, length_segmentsExtent]
      simp only [sound_segmentsExtent, and_true]
      exact Iff.rfl
  · obtain ⟨unit, hunit, hdecode⟩ := decode_eq_decodeBody hwidth hroom
    rw [List.headD_eq_head?_getD, hcode, Option.getD_some] at hdecode
    constructor
    · intro htype
      rw [hdecode, htype, decodeBody_reserved hunknown]
      rfl
    · intro htype
      rw [htype, decodeBody_private hunknown] at hdecode
      exact ⟨_, hdecode, hunit _⟩
  · rw [hoverrun] at hstrict
    cases hdecode : f.decode octets with
    | error cause =>
      rw [hdecode] at hstrict
      cases hstrict
    | ok a =>
      rw [hdecode] at hstrict
      cases hstrict

/-- Two test commands are read if both patterns are right, and refused if the second is not. -/
theorem decode_test_commands :
    ({} : Settings).Valid ∧
      (∃ a, (({} : Settings).format none).decode
        [104, 2, 6, 0, 1, 0, 0, 0, 0, 0xAA, 0x55, 1, 0, 0, 0xAA, 0x55] = .ok a) ∧
      ∃ fault, (({} : Settings).format none).decode
        [104, 2, 6, 0, 1, 0, 0, 0, 0, 0xAA, 0x55, 1, 0, 0, 0xAA, 0x54] =
          .error (.invalidAsdu fault) := by
  have hvalid : ({} : Settings).Valid := (Settings.validate_eq_ok_iff _).mp rfl
  obtain ⟨hright, -⟩ := decode_isOk_iff {} hvalid none
    [104, 2, 6, 0, 1, 0, 0, 0, 0, 0xAA, 0x55, 1, 0, 0, 0xAA, 0x55]
  obtain ⟨hwrong, -⟩ := decode_isOk_iff {} hvalid none
    [104, 2, 6, 0, 1, 0, 0, 0, 0, 0xAA, 0x55, 1, 0, 0, 0xAA, 0x54]
  obtain ⟨haccepted, -⟩ := hright .testCommand rfl
  obtain ⟨hrefused, -, herror⟩ := hwrong .testCommand rfl
  refine ⟨hvalid, (haccepted (by decide)).mpr ⟨by decide, by decide, ?_⟩, herror fun hread => ?_⟩
  · intro i hi j hj
    have hi : i < 2 := hi
    have hj : j = 0 := by
      cases j with
      | zero => rfl
      | succ j => cases hj
    subst hj
    match i, hi with
    | 0, _ | 1, _ => rfl
  · have hpatterns := ((hrefused (by decide)).mp hread).2.2 1 (by decide) 0 rfl
    exact absurd hpatterns (by decide)

end AsduFormat

end Telecontrol
