import Telecontrol.Proofs.Element.RoundTrip

/-!
# Elements are written as they were read

The octets of an element may have bits that no field uses: `Element.definedBits` is the mask of
those that a field does use. Reading drops the other bits and writing leaves them clear, so an
element that was read is written as its octets under the mask (`ElementKind.decode_eq_ok`), and
its fields are within their bits.

An element of one octet is compared with all octets; in the longer ones every field is found in
its own octet (`bits_cons`, `bits_head`).
-/

namespace Telecontrol

/-! ### Masks -/

namespace Octets

/-- The octets of a string, each under the octet of a mask. -/
def masked (octets mask : Octets) : Octets := List.zipWith (· &&& ·) octets mask

/-- The mask that leaves `n` octets as they are. -/
def full (n : Nat) : Octets := List.replicate n 0xFF

@[simp] theorem masked_nil : masked [] [] = [] := rfl

@[simp] theorem masked_cons (b m : UInt8) (octets mask : Octets) :
    masked (b :: octets) (m :: mask) = (b &&& m) :: masked octets mask := rfl

@[simp] theorem length_full (n : Nat) : (full n).length = n := List.length_replicate

@[simp] theorem full_succ (n : Nat) : full (n + 1) = 0xFF :: full n := rfl

theorem full_add (m n : Nat) : full (m + n) = full m ++ full n :=
  List.replicate_append_replicate.symm

theorem length_masked {octets mask : Octets} (h : octets.length = mask.length) :
    (masked octets mask).length = octets.length := by
  rw [masked, List.length_zipWith, ← h, Nat.min_self]

theorem masked_append {octets mask : Octets} (h : octets.length = mask.length)
    (octets' mask' : Octets) :
    masked (octets ++ octets') (mask ++ mask') = masked octets mask ++ masked octets' mask' :=
  List.zipWith_append h

end Octets

/-- What holds of every octet that is tried holds of all octets. -/
theorem forall_octet {P : UInt8 → Prop} (h : ∀ i : Fin 256, P (UInt8.ofNat i)) (b : UInt8) :
    P b := by
  have hb := h ⟨b.toNat, b.toNat_lt⟩
  rwa [UInt8.ofNat_toNat] at hb

theorem and_full (b : UInt8) : b &&& 0xFF = b := by
  revert b
  exact forall_octet (by decide +kernel)

theorem Octets.length_take_of_le {octets : Octets} {width : Nat} (h : ¬octets.length < width) :
    (octets.take width).length = width := by
  rw [List.length_take, Nat.min_eq_left (Nat.not_lt.mp h)]

theorem Octets.masked_full (octets : Octets) : masked octets (full octets.length) = octets := by
  induction octets with
  | nil => rfl
  | cons b octets ih => rw [List.length_cons, full_succ, masked_cons, and_full, ih]

/-- The bits that the fields of an element use; the others are reserved. -/
def Element.definedBits : Element → Octets
  | singlePoint .. => [0xF1]
  | doublePoint .. => [0xF3]
  | quality .. => [0xF1]
  | protectionEvent .. => [0xFB]
  | protectionStart .. => [0x3F]
  | outputCircuit .. => [0x0F]
  | protectionQuality .. => [0xF8]
  | singleCommand .. => [0xFD]
  | time24 .. => [0xFF, 0xFF, 0xBF]
  | time56 .. => [0xFF, 0xFF, 0xBF, 0x9F, 0xFF, 0x0F, 0x7F]
  | e => Octets.full e.encodedLength

theorem Element.length_definedBits (e : Element) : e.definedBits.length = e.encodedLength := by
  cases e <;> simp only [definedBits, Octets.length_full] <;> rfl

/-! ### Fields in their octets -/

theorem toNat_testBit (n low : Nat) : (n.testBit low).toNat = bits n low 1 := by
  rw [Nat.toNat_testBit, bits, Nat.shiftRight_eq_div_pow]
  rfl

/-- Fields above the first octet are fields of the others. -/
theorem bits_cons (b : UInt8) (rest : Octets) (low width : Nat) :
    bits (Octets.toNat (b :: rest)) (low + 8) width = bits (Octets.toNat rest) low width := by
  have hb := b.toNat_lt
  have hrest : Octets.toNat (b :: rest) >>> 8 = Octets.toNat rest := by
    rw [Octets.toNat_cons]
    omega
  rw [bits, Nat.add_comm, Nat.shiftRight_add, hrest, bits]

/-- Fields within the first octet do not depend on the others. -/
theorem bits_head {low width : Nat} (h : low + width ≤ 8) (b : UInt8) (rest : Octets) :
    bits (Octets.toNat (b :: rest)) low width = bits b.toNat low width := by
  obtain ⟨above, habove⟩ := Nat.exists_eq_add_of_le h
  have hpow : 256 = 2 ^ low * (2 ^ width * 2 ^ above) := by
    rw [← Nat.pow_add, ← Nat.pow_add, ← Nat.add_assoc, ← habove]
  rw [Octets.toNat_cons, bits, bits, Nat.shiftRight_eq_div_pow, Nat.shiftRight_eq_div_pow,
    Nat.one_shiftLeft, hpow, Nat.mul_assoc, Nat.add_mul_div_left _ _ (Nat.two_pow_pos low),
    Nat.mul_assoc, Nat.add_mul_mod_self_left]

/-- A number in the first two octets. -/
theorem toNat_bits_two (b₀ b₁ : UInt8) (rest : Octets) :
    (UInt16.ofNat (bits (Octets.toNat (b₀ :: b₁ :: rest)) 0 16)).toNat =
      b₀.toNat + 256 * b₁.toNat := by
  have h₀ := b₀.toNat_lt
  have h₁ := b₁.toNat_lt
  rw [UInt16.toNat_ofNat_of_lt' (bits_lt ..)]
  simp only [bits, Octets.toNat_cons, Nat.reduceShiftLeft, Nat.shiftRight_zero]
  omega

theorem toNat_ofNat_bits {n low width : Nat} (h : width ≤ 8) :
    (UInt8.ofNat (bits n low width)).toNat = bits n low width := by
  have hle : 1 <<< width ≤ 1 <<< 8 := by
    rw [Nat.one_shiftLeft, Nat.one_shiftLeft]
    exact Nat.pow_le_pow_right (by decide) h
  exact UInt8.toNat_ofNat_of_lt' (Nat.lt_of_lt_of_le (bits_lt n low width) hle)

theorem toNat_bits_mod {m n low width : Nat} (hwidth : width ≤ 8) (h : 1 <<< width = m) :
    (UInt8.ofNat (bits n low width)).toNat % m = bits n low width := by
  rw [toNat_ofNat_bits hwidth, ← h, Nat.mod_eq_of_lt (bits_lt n low width)]

/-- A field that was taken out of a number is within its bits. -/
theorem field_bits {m n low width : Nat} (hwidth : width ≤ 8) (h : 1 <<< width = m) :
    field m (UInt8.ofNat (bits n low width)) = UInt8.ofNat (bits n low width) := by
  rw [field, toNat_bits_mod hwidth h]

/-! #### Octets of time tags -/

theorem toNat_and_minute (b : UInt8) :
    (b &&& 0xBF).toNat = bits b.toNat 0 6 + 128 * bits b.toNat 7 1 := by
  revert b
  exact forall_octet (by decide +kernel)

theorem toNat_and_hour (b : UInt8) :
    (b &&& 0x9F).toNat = bits b.toNat 0 5 + 128 * bits b.toNat 7 1 := by
  revert b
  exact forall_octet (by decide +kernel)

theorem toNat_day (b : UInt8) : b.toNat = bits b.toNat 0 5 + 32 * bits b.toNat 5 3 := by
  revert b
  exact forall_octet (by decide +kernel)

theorem toNat_and_month (b : UInt8) : (b &&& 0x0F).toNat = bits b.toNat 0 4 := by
  revert b
  exact forall_octet (by decide +kernel)

theorem toNat_and_year (b : UInt8) : (b &&& 0x7F).toNat = bits b.toNat 0 7 := by
  revert b
  exact forall_octet (by decide +kernel)

theorem Time24.number_ofNumber_octets (b₀ b₁ b₂ : UInt8) :
    (ofNumber (Octets.toNat [b₀, b₁, b₂])).number = Octets.toNat [b₀, b₁, b₂ &&& 0xBF] := by
  simp (disch := decide) only [ofNumber, number, toNat_bits_two, toNat_testBit, toNat_bits_mod,
    bits_cons, bits_head]
  simp only [Octets.toNat_cons, Octets.toNat_nil, toNat_and_minute]
  omega

theorem Time56.number_ofNumber_octets (b₀ b₁ b₂ b₃ b₄ b₅ b₆ : UInt8) :
    (ofNumber (Octets.toNat [b₀, b₁, b₂, b₃, b₄, b₅, b₆])).number =
      Octets.toNat [b₀, b₁, b₂ &&& 0xBF, b₃ &&& 0x9F, b₄, b₅ &&& 0x0F, b₆ &&& 0x7F] := by
  have hday := toNat_day b₄
  -- Every field but the milliseconds lies within one octet.
  simp (disch := decide) only [ofNumber, number, toNat_bits_two, toNat_testBit, toNat_bits_mod,
    bits_cons, bits_head]
  simp only [Octets.toNat_cons, Octets.toNat_nil, toNat_and_minute, toNat_and_hour,
    toNat_and_month, toNat_and_year]
  omega

theorem Time24.clipped_ofNumber (n : Nat) : (ofNumber n).clipped = ofNumber n := by
  simp (disch := decide) only [ofNumber, clipped, field_bits]

theorem Time56.clipped_ofNumber (n : Nat) : (ofNumber n).clipped = ofNumber n := by
  simp (disch := decide) only [ofNumber, clipped, field_bits]

/-! ### Elements that were read -/

namespace ElementKind

variable {kind : ElementKind} {n width : Nat} {e : Element}

theorem ofNumber_fbp (h : fbp.ofNumber n = .ok e) : n = testPattern ∧ e = .fixedTestPattern := by
  rw [ofNumber] at h
  split at h
  · next hpattern =>
    cases h
    exact ⟨hpattern, rfl⟩
  · cases h

theorem kind?_of_ofNumber (h : kind.ofNumber n = .ok e) : e.kind? = some kind := by
  cases kind
  case fbp =>
    obtain ⟨-, rfl⟩ := ofNumber_fbp h
    rfl
  case segment => cases h
  all_goals
    cases h
    rfl

/-- Flags that were read have no other bits. -/
theorem flagsDefined_of_ofNumber (h : kind.ofNumber n = .ok e) : e.FlagsDefined := by
  cases kind
  case bcr | sep | sof =>
    cases h
    exact Flags.defined_ofBits _
  case fbp =>
    obtain ⟨-, rfl⟩ := ofNumber_fbp h
    trivial
  case segment => cases h
  all_goals
    cases h
    trivial

theorem reduced_of_ofNumber (h : kind.ofNumber n = .ok e) : e.reduced = e := by
  cases kind
  case siq | diq =>
    cases h
    simp only [Element.reduced, ofBits_pointMask, and_pointMask_and]
  case time24 =>
    cases h
    simp only [Element.reduced, Time24.clipped_ofNumber]
  case time56 =>
    cases h
    simp only [Element.reduced, Time56.clipped_ofNumber]
  case fbp =>
    obtain ⟨-, rfl⟩ := ofNumber_fbp h
    rfl
  case qds | sep | spe | oci | qdp =>
    cases h
    simp only [Element.reduced, Flags.ofBits_idem]
  case sco | dco | rco | bcr | sof | qos | coi | frq | srq | qcc | qpm | afq =>
    cases h
    simp (disch := decide) only [Element.reduced, field_bits, Flags.ofBits_idem]
  case segment => cases h
  all_goals
    cases h
    rfl

/-- The fields of an element that was read are within their bits. -/
theorem clipped_of_ofNumber (h : kind.ofNumber n = .ok e) : e.clipped = e :=
  (flagsDefined_of_ofNumber h).clipped_eq.trans (reduced_of_ofNumber h)

/-- A step position that was read is in the range of seven bits. -/
theorem stepPosition_range (n : Nat) :
    -64 ≤ Int8.ofInt (Int.bmod n 128) ∧ Int8.ofInt (Int.bmod n 128) ≤ 63 := by
  have hlow : -64 ≤ Int.bmod n 128 := Int.le_bmod (by decide)
  have hhigh : Int.bmod n 128 < 64 := Int.bmod_lt (by decide)
  have hvalue : (Int8.ofInt (Int.bmod n 128)).toInt = Int.bmod n 128 :=
    Int8.toInt_ofInt_of_le (by omega) (by omega)
  rw [Int8.le_iff_toInt_le, Int8.le_iff_toInt_le, hvalue]
  exact ⟨hlow, Int.le_of_lt_add_one hhigh⟩

theorem writable_of_ofNumber (hwidth : kind.width? = some width) (hlt : n < Octets.bound width)
    (h : kind.ofNumber n = .ok e) : e.Writable := by
  cases kind
  case vti =>
    cases h
    exact stepPosition_range n
  case lof =>
    cases h
    cases hwidth
    have hle : n ≤ 0xFFFFFF := Nat.le_of_lt_succ hlt
    show UInt32.ofNat n ≤ 0xFFFFFF
    rw [UInt32.le_iff_toNat_le, UInt32.toNat_ofNat_of_lt' (Nat.lt_of_le_of_lt hle (by decide))]
    exact hle
  case fbp =>
    obtain ⟨-, rfl⟩ := ofNumber_fbp h
    trivial
  case segment => cases h
  all_goals
    cases h
    trivial

/-- An octet is read as an element whose number is the octet without its reserved bits. -/
def keepsOctet (kind : ElementKind) (b : UInt8) : Bool :=
  match kind.ofNumber b.toNat with
  | .error _ => false
  | .ok e => e.number == Octets.toNat (Octets.masked [b] e.definedBits)

theorem keepsOctet_of_width (h : kind.width? = some 1) (b : UInt8) :
    kind.keepsOctet b = true := by
  revert b
  apply forall_octet
  cases kind
  case time56 | bcr | bsi | float | scd | time24 | lof | nva | sva | fbp | tsc | time16 | nof
    | segment => cases h
  all_goals decide +kernel

/-- All bits of the longer kinds are in use, but for the time tags. -/
theorem number_of_wide {octets : Octets} (hwidth : kind.width? = some octets.length)
    (hlong : octets.length ≠ 1) (htag : kind ≠ .time24 ∧ kind ≠ .time56)
    (h : kind.ofNumber (Octets.toNat octets) = .ok e) :
    e.number = Octets.toNat octets ∧ e.definedBits = Octets.full octets.length := by
  have hlt := Octets.toNat_lt octets
  generalize Octets.toNat octets = n at h hlt
  generalize octets.length = width at hwidth hlong hlt
  cases kind
  case time24 => exact absurd rfl htag.1
  case time56 => exact absurd rfl htag.2
  case segment => cases hwidth
  case bsi | float =>
    cases h
    cases hwidth
    exact ⟨UInt32.toNat_ofNat_of_lt' hlt, rfl⟩
  case nva | sva =>
    cases h
    cases hwidth
    refine ⟨?_, rfl⟩
    show (Int16.ofNat n).toUInt16.toNat = n
    rw [← UInt16.toInt16_ofNat', UInt16.toUInt16_toInt16]
    exact UInt16.toNat_ofNat_of_lt' hlt
  case tsc | nof | time16 =>
    cases h
    cases hwidth
    exact ⟨UInt16.toNat_ofNat_of_lt' hlt, rfl⟩
  case lof =>
    cases h
    cases hwidth
    exact ⟨UInt32.toNat_ofNat_of_lt' (Nat.lt_trans hlt (by decide)), rfl⟩
  case fbp =>
    obtain ⟨hpattern, rfl⟩ := ofNumber_fbp h
    cases hwidth
    exact ⟨hpattern.symm, rfl⟩
  case scd =>
    cases h
    cases hwidth
    refine ⟨?_, rfl⟩
    have hlt' : n < 4294967296 := hlt
    show (UInt16.ofNat (bits n 0 16)).toNat + 0x10000 * (UInt16.ofNat (bits n 16 16)).toNat = n
    rw [UInt16.toNat_ofNat_of_lt' (bits_lt n 0 16), UInt16.toNat_ofNat_of_lt' (bits_lt n 16 16)]
    simp only [bits, Nat.reduceShiftLeft, Nat.shiftRight_zero]
    omega
  case bcr =>
    cases h
    cases hwidth
    refine ⟨?_, rfl⟩
    have hlt' : n < 1099511627776 := hlt
    have hor := covers_counter.or_eq_add (by decide : 1 <<< 5 = 32) (bits_lt n 32 5) (octetAt n 32)
    show (Int32.ofNat n).toUInt32.toNat + 0x100000000 *
      ((UInt8.ofNat (bits n 32 5)).toNat % 32 |||
        (octetAt n 32 &&& FlagSet.mask .counter).toNat) = n
    rw [toNat_bits_mod (by decide) (by decide : 1 <<< 5 = 32), hor, covers_counter, octetAt,
      toNat_ofNat_bits (by decide),
      ← UInt32.toInt32_ofNat', UInt32.toUInt32_toInt32, UInt32.toNat_ofNat']
    simp only [bits, Nat.reduceShiftLeft]
    omega
  all_goals
    cases hwidth
    exact absurd rfl hlong

theorem number_of_octet {b : UInt8} (hwidth : kind.width? = some 1)
    (h : kind.ofNumber (Octets.toNat [b]) = .ok e) :
    e.number = Octets.toNat (Octets.masked [b] e.definedBits) := by
  have hkeeps := keepsOctet_of_width hwidth b
  have hnumber : Octets.toNat [b] = b.toNat := Nat.add_zero _
  rw [hnumber] at h
  simp only [keepsOctet, h] at hkeeps
  exact eq_of_beq hkeeps

/-- The number of an element that was read is that of its octets without their reserved
bits. -/
theorem number_of_ofNumber {octets : Octets} (hwidth : kind.width? = some octets.length)
    (h : kind.ofNumber (Octets.toNat octets) = .ok e) :
    e.number = Octets.toNat (octets.masked e.definedBits) := by
  by_cases hone : octets.length = 1
  · obtain ⟨b, rfl⟩ := List.length_eq_one_iff.mp hone
    exact number_of_octet hwidth h
  · by_cases htag : kind ≠ .time24 ∧ kind ≠ .time56
    · obtain ⟨hnumber, hbits⟩ := number_of_wide hwidth hone htag h
      rw [hnumber, hbits, Octets.masked_full]
    · rcases Decidable.or_iff_not_not_and_not.mpr htag with rfl | rfl
      · match octets, Option.some.inj hwidth with
        | [b₀, b₁, b₂], _ =>
          cases h
          simp only [Element.definedBits, Octets.masked_cons, Octets.masked_nil, and_full]
          exact Time24.number_ofNumber_octets b₀ b₁ b₂
      · match octets, Option.some.inj hwidth with
        | [b₀, b₁, b₂, b₃, b₄, b₅, b₆], _ =>
          cases h
          simp only [Element.definedBits, Octets.masked_cons, Octets.masked_nil, and_full]
          exact Time56.number_ofNumber_octets b₀ b₁ b₂ b₃ b₄ b₅ b₆

end ElementKind

theorem Element.encode_of_writable {e : Element} (h : e.Writable) : e.encode = .ok e.octets := by
  cases e with
  | stepPosition value transient =>
    have hrange : ¬(value < -64 ∨ 63 < value) :=
      not_or.mpr ⟨Int8.not_lt.mpr h.1, Int8.not_lt.mpr h.2⟩
    rw [encode, if_neg hrange]
    rfl
  | fileLength value =>
    rw [encode, if_neg (UInt32.not_lt.mpr h)]
    rfl
  | segment data =>
    rw [encode, if_neg (Nat.not_lt.mpr h)]
    rfl
  | _ => rfl

theorem Element.encodedLength_of_width {e : Element} {kind : ElementKind} {width : Nat}
    (hkind : e.kind? = some kind) (hwidth : kind.width? = some width) :
    e.encodedLength = width := by
  cases e <;> cases hkind <;> cases hwidth <;> rfl

/-- An element of the given kind was read from octets: its fields are within their bits, and
it is written as the octets without their reserved bits. -/
structure ElementKind.IsRead (kind : ElementKind) (octets : Octets) (e : Element) : Prop where
  kind? : e.kind? = some kind
  clipped : e.clipped = e
  length : octets.length = e.definedBits.length
  encode : e.encode = .ok (octets.masked e.definedBits)

namespace ElementKind

variable {kind : ElementKind} {e : Element} {octets rest : Octets}

theorem isRead_of_ofNumber (hwidth : kind.width? = some octets.length)
    (h : kind.ofNumber (Octets.toNat octets) = .ok e) : kind.IsRead octets e := by
  have hkind := kind?_of_ofNumber h
  have hlength : octets.length = e.definedBits.length := by
    rw [e.length_definedBits, Element.encodedLength_of_width hkind hwidth]
  have hwritable := writable_of_ofNumber hwidth (Octets.toNat_lt octets) h
  refine ⟨hkind, clipped_of_ofNumber h, hlength, ?_⟩
  rw [Element.encode_of_writable hwritable, Element.octets_of_width hkind hwidth,
    number_of_ofNumber hwidth h, ← Octets.length_masked hlength, Octets.ofNat_toNat]

theorem isRead_segment (data : Octets) (length : UInt8) (h : data.length = length.toNat) :
    ElementKind.segment.IsRead (length :: data) (.segment data) := by
  have hlength : (length :: data).length = (Element.segment data).encodedLength := Nat.add_comm ..
  refine ⟨rfl, rfl, hlength.trans (Element.length_definedBits _).symm, ?_⟩
  have hroom : ¬255 < data.length := by
    have hlt := length.toNat_lt
    omega
  have hbits : (Element.segment data).definedBits = Octets.full (length :: data).length :=
    (congrArg Octets.full hlength).symm
  rw [hbits, Octets.masked_full, Element.encode, if_neg hroom, h, UInt8.ofNat_toNat]

/-- An element is read from the octets at the head of a string. -/
theorem decode_eq_ok (h : kind.decode octets = .ok (e, rest)) :
    ∃ own, octets = own ++ rest ∧ kind.IsRead own e := by
  unfold decode at h
  split at h
  · next hwidth =>
    -- Only a segment has no fixed width.
    obtain rfl : kind = .segment := by cases kind <;> first | rfl | cases hwidth
    unfold decodeSegment at h
    split at h
    · cases h
    · next length tail =>
      split at h
      · cases h
      · next hroom =>
        cases h
        refine ⟨length :: tail.take length.toNat, ?_, isRead_segment _ _ ?_⟩
        · rw [List.cons_append, List.take_append_drop]
        · exact Octets.length_take_of_le hroom
  · next width hwidth =>
    split at h
    · cases h
    · next hroom =>
      have htake := Octets.length_take_of_le hroom
      cases hnumber : kind.ofNumber (Octets.toNat (octets.take width)) with
      | error cause =>
        rw [hnumber] at h
        cases h
      | ok element =>
        rw [hnumber] at h
        cases h
        exact ⟨octets.take width, (List.take_append_drop width octets).symm,
          isRead_of_ofNumber (by rw [htake, hwidth]) hnumber⟩

end ElementKind

end Telecontrol
