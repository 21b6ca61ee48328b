import Telecontrol.Apdu
import Telecontrol.Proofs.Asdu.RoundTrip

/-!
# Which octets are a frame

A frame that is `WellFormed` can be written (`Apdu.encode_eq`) and is read again
(`Apdu.parse_of_isWritten`), and nothing else is read (`Apdu.wellFormed_of_parse`). Reading accepts
exactly the octets that are written (`Control.parse_eq_ok_iff`), up to one bit: the lowest bit of
the third control octet belongs to no field of a numbered frame, and is not looked at.
`Control.IsWritten` and `Apdu.IsFrame` say this without the reader.
-/

namespace Telecontrol

namespace Control

/-! ### Frame numbers -/

theorem toNat_numberOf (low high : UInt8) :
    (numberOf low high).toNat = Octets.toNat [low, high] / 2 := by
  have hlt : Octets.toNat [low, high] < 65536 := Octets.toNat_lt [low, high]
  rw [numberOf, UInt16.toNat_ofNat', Nat.mod_eq_of_lt (by omega)]

theorem numberOf_lt (low high : UInt8) : numberOf low high < sequenceModulus := by
  have hlt : Octets.toNat [low, high] < 65536 := Octets.toNat_lt [low, high]
  have hmodulus : sequenceModulus.toNat = 32768 := rfl
  rw [UInt16.lt_iff_toNat_lt, toNat_numberOf, hmodulus]
  omega

/-- The octets of a number that was read, if the lowest bit is left out. -/
theorem numberOctets_numberOf (low high : UInt8) :
    numberOctets (numberOf low high) =
      Octets.ofNat 2 (2 * (Octets.toNat [low, high] / 2)) := by
  have hlt := UInt16.lt_iff_toNat_lt.mp (numberOf_lt low high)
  rw [numberOctets, UInt16.toNat_mod, Nat.mod_eq_of_lt hlt, toNat_numberOf]

theorem numberOctets_of_even {low : UInt8} (h : low.toNat % 2 = 0) (high : UInt8) :
    numberOctets (numberOf low high) = [low, high] := by
  have heven : 2 * (Octets.toNat [low, high] / 2) = Octets.toNat [low, high] := by
    simp only [Octets.toNat_cons, Octets.toNat_nil]
    omega
  rw [numberOctets_numberOf, heven]
  exact Octets.ofNat_toNat [low, high]

theorem numberOctets_of_odd {low : UInt8} (h : low.toNat % 2 ≠ 0) (high : UInt8) :
    numberOctets (numberOf low high) = [low - 1, high] := by
  have hone : (1 : UInt8) ≤ low := UInt8.le_iff_toNat_le.mpr (show 1 ≤ low.toNat by omega)
  have hodd : 2 * (Octets.toNat [low, high] / 2) = Octets.toNat [low - 1, high] := by
    simp only [Octets.toNat_cons, Octets.toNat_nil, UInt8.toNat_sub_of_le _ _ hone,
      UInt8.toNat_one]
    omega
  rw [numberOctets_numberOf, hodd]
  exact Octets.ofNat_toNat [low - 1, high]

/-- A number is read from the octets in which it was written, whatever their lowest bit. -/
theorem exists_numberOctets {n : UInt16} (h : n < sequenceModulus) :
    ∃ low high, numberOctets n = [low, high] ∧ low.toNat % 2 = 0 ∧ numberOf low high = n ∧
      numberOf (low + 1) high = n := by
  have hlt : n.toNat < 32768 := UInt16.lt_iff_toNat_lt.mp h
  have hmod : (n % sequenceModulus).toNat = n.toNat := by
    rw [UInt16.toNat_mod]
    exact Nat.mod_eq_of_lt hlt
  have hlow : (UInt8.ofNat (2 * n.toNat)).toNat = 2 * n.toNat % 256 := UInt8.toNat_ofNat'
  have hhigh : (UInt8.ofNat (2 * n.toNat / 256)).toNat = 2 * n.toNat / 256 % 256 :=
    UInt8.toNat_ofNat'
  refine ⟨UInt8.ofNat (2 * n.toNat), UInt8.ofNat (2 * n.toNat / 256), ?_, ?_, ?_, ?_⟩
  · rw [numberOctets, hmod]
    rfl
  · rw [hlow]
    omega
  · apply UInt16.toNat_inj.mp
    rw [toNat_numberOf]
    simp only [Octets.toNat_cons, Octets.toNat_nil, hlow, hhigh]
    omega
  · apply UInt16.toNat_inj.mp
    rw [toNat_numberOf]
    simp only [Octets.toNat_cons, Octets.toNat_nil, UInt8.toNat_add, UInt8.toNat_one, hlow, hhigh]
    omega

/-! ### Control fields -/

/-- The frame has a number, or acknowledges those with numbers. -/
def isNumbered : Control → Bool
  | unnumbered _ => false
  | _ => true

/-- The frame numbers have 15 bits. -/
def InRange : Control → Prop
  | information send receive => send < sequenceModulus ∧ receive < sequenceModulus
  | supervisory receive => receive < sequenceModulus
  | unnumbered _ => True

instance : DecidablePred InRange
  | information _ _ => inferInstanceAs (Decidable (_ ∧ _))
  | supervisory _ => inferInstanceAs (Decidable (_ < _))
  | unnumbered _ => .isTrue trivial

/-- Octets are a control field as it is written, or with the bit set that belongs to no field of a
numbered frame. -/
def IsWritten (c : Control) (octets : Octets) : Prop :=
  octets = c.octets ∨ c.isNumbered = true ∧ octets = c.octets.modify 2 (· + 1)

theorem IsWritten.length_eq {c : Control} {octets : Octets} (h : c.IsWritten octets) :
    octets.length = controlLength := by
  rcases h with rfl | ⟨-, rfl⟩ <;> simp [controlLength]

theorem IsWritten.exists_eq {c : Control} {octets : Octets} (h : c.IsWritten octets) :
    ∃ first second third fourth, octets = [first, second, third, fourth] := by
  match octets, h.length_eq with
  | [first, second, third, fourth], _ => exact ⟨first, second, third, fourth, rfl⟩

variable {first second third fourth : UInt8} {c : Control}

theorem isWritten_supervisory (third fourth : UInt8) :
    (supervisory (numberOf third fourth)).IsWritten [0x01, 0x00, third, fourth] := by
  by_cases heven : third.toNat % 2 = 0
  · exact .inl (by rw [octets, numberOctets_of_even heven]; rfl)
  · refine .inr ⟨rfl, ?_⟩
    rw [octets, numberOctets_of_odd heven]
    simp

theorem isWritten_information (hfirst : first.toNat % 2 = 0) (second third fourth : UInt8) :
    (information (numberOf first second) (numberOf third fourth)).IsWritten
      [first, second, third, fourth] := by
  by_cases heven : third.toNat % 2 = 0
  · exact .inl (by rw [octets, numberOctets_of_even hfirst, numberOctets_of_even heven]; rfl)
  · refine .inr ⟨rfl, ?_⟩
    rw [octets, numberOctets_of_even hfirst, numberOctets_of_odd heven]
    simp

theorem isWritten_of_parse (h : parse first second third fourth = .ok c) :
    c.InRange ∧ c.IsWritten [first, second, third, fourth] := by
  unfold parse at h
  split at h
  · next heven =>
    cases h
    exact ⟨⟨numberOf_lt .., numberOf_lt ..⟩, isWritten_information heven ..⟩
  · split at h
    · split at h
      · next hfield =>
        obtain ⟨rfl, rfl⟩ := hfield
        cases h
        exact ⟨numberOf_lt .., isWritten_supervisory ..⟩
      · cases h
    · split at h
      · cases h
      · next hzero =>
        simp only [ne_eq, not_or, Decidable.not_not] at hzero
        obtain ⟨rfl, rfl, rfl⟩ := hzero
        cases hfunction : LinkFunction.ofOctet? first with
        | none =>
          simp only [LinkFunction.parse, hfunction] at h
          cases h
        | some function =>
          simp only [LinkFunction.parse, hfunction] at h
          cases h
          obtain rfl := LinkFunction.octet_of_ofOctet? hfunction
          exact ⟨trivial, .inl rfl⟩

theorem parse_of_isWritten (hrange : c.InRange)
    (h : c.IsWritten [first, second, third, fourth]) :
    parse first second third fourth = .ok c := by
  cases c with
  | information send receive =>
    obtain ⟨low, high, hsend, heven, hread, -⟩ := exists_numberOctets hrange.1
    obtain ⟨low', high', hreceive, -, hread', hread''⟩ := exists_numberOctets hrange.2
    simp only [IsWritten, octets, hsend, hreceive] at h
    rcases h with h | ⟨-, h⟩
    · cases h
      simp only [parse, heven, if_true, hread, hread']
    · cases h
      simp only [parse, heven, if_true, hread, hread'']
  | supervisory receive =>
    obtain ⟨low, high, hreceive, -, hread, hread'⟩ := exists_numberOctets hrange
    simp only [IsWritten, octets, hreceive] at h
    rcases h with h | ⟨-, h⟩
    · cases h
      simp [parse, hread]
    · cases h
      simp [parse, hread']
  | unnumbered function =>
    rcases h with h | ⟨hnumbered, -⟩
    · cases h
      cases function <;> rfl
    · cases hnumbered

/-- A control field is read exactly from the octets in which it may be written. -/
theorem parse_eq_ok_iff :
    parse first second third fourth = .ok c ↔
      c.InRange ∧ c.IsWritten [first, second, third, fourth] :=
  ⟨isWritten_of_parse, fun h => parse_of_isWritten h.1 h.2⟩

end Control

/-! ### Frames -/

namespace Apdu

/-- What can be sent: the numbers have 15 bits, and exactly information frames have a unit, which
is not empty and not too long. -/
structure WellFormed (apdu : Apdu) : Prop where
  inRange : apdu.control.InRange
  isSome_asdu? : apdu.asdu?.isSome = apdu.control.isInformation
  length_asdu : ∀ asdu ∈ apdu.asdu?, 0 < asdu.length ∧ asdu.length ≤ maxAsduLength

instance : DecidablePred WellFormed := fun apdu =>
  decidable_of_iff
    (apdu.control.InRange ∧ apdu.asdu?.isSome = apdu.control.isInformation ∧
      ∀ asdu ∈ apdu.asdu?, 0 < asdu.length ∧ asdu.length ≤ maxAsduLength)
    ⟨fun ⟨hrange, hsome, hlength⟩ => ⟨hrange, hsome, hlength⟩,
      fun h => ⟨h.inRange, h.isSome_asdu?, h.length_asdu⟩⟩

/-- Octets are a whole frame: start octet, length, control field and unit. -/
def IsFrame (apdu : Apdu) (octets : Octets) : Prop :=
  ∃ field, apdu.control.IsWritten field ∧
    octets = startOctet :: UInt8.ofNat (controlLength + apdu.asdu.length) :: (field ++ apdu.asdu)

/-- The octets of a frame as it is written. -/
def written (apdu : Apdu) : Octets :=
  startOctet :: UInt8.ofNat (controlLength + apdu.asdu.length) ::
    (apdu.control.octets ++ apdu.asdu)

theorem isFrame_written (apdu : Apdu) : apdu.IsFrame apdu.written :=
  ⟨apdu.control.octets, .inl rfl, rfl⟩

variable {apdu : Apdu} {octets : Octets}

theorem WellFormed.length_asdu_le (h : apdu.WellFormed) :
    apdu.asdu.length ≤ maxAsduLength := by
  cases hasdu : apdu.asdu? with
  | none => simp [asdu, hasdu]
  | some unit =>
    rw [asdu, hasdu]
    exact (h.length_asdu unit hasdu).2

/-- A frame that can be sent is written. -/
theorem encode_eq (h : apdu.WellFormed) : apdu.encode = .ok apdu.written := by
  have hlong : ¬maxAsduLength < apdu.asdu.length := Nat.not_lt.mpr h.length_asdu_le
  have hrefused : ¬(0 < apdu.asdu.length ∧ !apdu.control.isInformation) := by
    rintro ⟨hpos, hcontrol⟩
    have hsome := h.isSome_asdu?
    cases hasdu : apdu.asdu? with
    | none => simp [asdu, hasdu] at hpos
    | some unit => simp_all
  rw [encode, Control.header, if_neg hlong, if_neg hrefused]
  rfl

/-- A frame that can be sent is read from the octets in which it may be written. -/
theorem parse_of_isWritten (h : apdu.WellFormed) {field : Octets}
    (hfield : apdu.control.IsWritten field) : parse (field ++ apdu.asdu) = .ok apdu := by
  obtain ⟨control, asdu?⟩ := apdu
  obtain ⟨first, second, third, fourth, rfl⟩ := hfield.exists_eq
  have hcontrol := Control.parse_of_isWritten h.inRange hfield
  have hsome : asdu?.isSome = control.isInformation := h.isSome_asdu?
  cases asdu? with
  | none =>
    have hinformation : control.isInformation = false := hsome.symm
    simp [parse, asdu, hcontrol, hinformation, bind, Except.bind]
  | some unit =>
    have hinformation : control.isInformation = true := hsome.symm
    have hpos := (h.length_asdu unit rfl).1
    have hunit : unit.isEmpty = false := by
      rw [List.isEmpty_eq_false_iff]
      exact List.ne_nil_of_length_pos hpos
    simp [parse, asdu, hcontrol, hinformation, hunit, bind, Except.bind]

/-- What is read from octets that fit a frame can be sent, and they are octets in which it may be
written. -/
theorem wellFormed_of_parse (h : parse octets = .ok apdu) (hlength : octets.length ≤ maxLength) :
    apdu.WellFormed ∧ ∃ field, apdu.control.IsWritten field ∧ octets = field ++ apdu.asdu := by
  unfold parse at h
  split at h
  · next first second third fourth unit =>
    obtain ⟨control, hcontrol, h⟩ := bind_eq_ok h
    obtain ⟨hrange, hfield⟩ := Control.isWritten_of_parse hcontrol
    split at h
    · next hinformation =>
      split at h
      · cases h
      · next hunit =>
        cases h
        refine ⟨⟨hrange, hinformation.symm, ?_⟩, _, hfield, rfl⟩
        rintro unit ⟨⟩
        rw [List.isEmpty_iff] at hunit
        refine ⟨List.length_pos_iff.mpr hunit, ?_⟩
        simp only [List.length_cons, maxLength] at hlength
        simp only [maxAsduLength, maxLength, controlLength]
        omega
    · next hinformation =>
      split at h
      · next hunit =>
        cases h
        rw [List.isEmpty_iff] at hunit
        subst hunit
        have hinformation : control.isInformation = false := by simpa using hinformation
        exact ⟨⟨hrange, hinformation.symm, nofun⟩, _, hfield, rfl⟩
      · cases h
  · cases h

end Apdu

end Telecontrol
