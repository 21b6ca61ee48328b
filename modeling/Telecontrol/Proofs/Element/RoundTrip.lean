import Telecontrol.Element.Codec

/-!
# Elements are read as they were written

The fields of an element of fixed width lie in its number side by side, so that each can be
taken out of it (`Element.isFound`). Writing reduces every field to its bits
(`Element.reduced`), but does not drop bits of flags that are no flags: they end up in the field
that shares the octet (`Element.spilled`). What is left of an element is `Element.clipped`, and
that is what a reader finds (`ElementKind.decode_encode`). An element that `Fits` is left as it is.
-/

namespace Telecontrol

/-! ### Fields of bits -/

theorem testBit_eq_of_shift {n low : Nat} {b : Bool} (h : n >>> low % 2 = b.toNat) :
    n.testBit low = b := by
  rw [Nat.testBit_eq_decide_div_mod_eq, ← Nat.shiftRight_eq_div_pow, h]
  cases b <;> rfl

/-- What a field keeps of an octet that has `m` values. -/
def field (m : Nat) (octet : UInt8) : UInt8 := UInt8.ofNat (octet.toNat % m)

theorem field_of_lt {m : Nat} {octet : UInt8} (h : octet.toNat < m) : field m octet = octet := by
  rw [field, Nat.mod_eq_of_lt h, UInt8.ofNat_toNat]

theorem octetAt_zero (octet : UInt8) : octetAt octet.toNat 0 = octet := by
  have hlt : octet.toNat < 1 <<< 8 := octet.toNat_lt
  rw [octetAt, bits, Nat.shiftRight_zero, Nat.mod_eq_of_lt hlt, UInt8.ofNat_toNat]

/-- A mask keeps the part of an octet that is a multiple of `m`. -/
def Covers (mask : UInt8) (m : Nat) : Prop :=
  ∀ octet : UInt8, (octet &&& mask).toNat = octet.toNat / m * m

/-- A mask is tried on all octets. -/
theorem covers_of_fin {mask : UInt8} {m : Nat}
    (h : ∀ i : Fin 256, (UInt8.ofNat i &&& mask).toNat = i / m * m) : Covers mask m := by
  intro octet
  have hoctet := h ⟨octet.toNat, octet.toNat_lt⟩
  rwa [UInt8.ofNat_toNat] at hoctet

theorem covers_pointMask : Covers pointMask 16 := covers_of_fin (by decide +kernel)

theorem covers_protectionQuality : Covers (FlagSet.mask .protectionQuality) 8 :=
  covers_of_fin (by decide +kernel)

theorem covers_counter : Covers (FlagSet.mask .counter) 32 := covers_of_fin (by decide +kernel)

theorem covers_fileStatus : Covers (FlagSet.mask .fileStatus) 32 :=
  covers_of_fin (by decide +kernel)

section Covers

variable {mask flags : UInt8} {m k value : Nat}

/-- Flags are found in an octet whatever its low bits are. -/
theorem Covers.or_flags (hcovers : Covers mask m) (hm : 1 <<< k = m) (hk : k ≤ 8)
    (hvalue : value < m) (flags : UInt8) :
    value ||| flags.toNat < 256 ∧
      octetAt (value ||| flags.toNat) 0 &&& mask = flags &&& mask := by
  subst hm
  rw [Nat.one_shiftLeft] at hcovers hvalue
  have hlt : value ||| flags.toNat < 256 := Nat.or_lt_two_pow (n := 8)
    (Nat.lt_of_lt_of_le hvalue (Nat.pow_le_pow_right (by decide) hk)) flags.toNat_lt
  refine ⟨hlt, ?_⟩
  have hoctet : octetAt (value ||| flags.toNat) 0 = UInt8.ofNat (value ||| flags.toNat) := by
    rw [octetAt, bits, Nat.shiftRight_zero]
    exact congrArg UInt8.ofNat (Nat.mod_eq_of_lt hlt)
  apply UInt8.toNat_inj.mp
  rw [hcovers, hcovers, hoctet, UInt8.toNat_ofNat_of_lt' hlt, Nat.or_div_two_pow,
    Nat.div_eq_of_lt hvalue, Nat.zero_or]

theorem Covers.mod_eq_zero (hcovers : Covers mask m) (hflags : flags &&& mask = flags) :
    flags.toNat % m = 0 := by
  have hmultiple := hcovers flags
  rw [hflags] at hmultiple
  rw [hmultiple, Nat.mul_mod_left]

/-- Flags leave the low bits of their octet to another field. -/
theorem Covers.or_mod (hcovers : Covers mask m) (hm : 1 <<< k = m)
    (hflags : flags &&& mask = flags) (value : Nat) :
    (value ||| flags.toNat) % m = value % m := by
  have hzero := hcovers.mod_eq_zero hflags
  subst hm
  rw [Nat.one_shiftLeft] at hzero ⊢
  rw [Nat.or_mod_two_pow, hzero, Nat.or_zero]

theorem Covers.field_or_flags (hcovers : Covers mask m) (hm : 1 <<< k = m)
    (hflags : flags &&& mask = flags) (octet : UInt8) :
    field m (octet ||| flags) = field m octet := by
  rw [field, UInt8.toNat_or, hcovers.or_mod hm hflags, field]

/-- Flags are written beside a field, bit by bit or as a sum. -/
theorem Covers.or_eq_add (hcovers : Covers mask m) (hm : 1 <<< k = m) (hvalue : value < m)
    (octet : UInt8) : value ||| (octet &&& mask).toNat = value + (octet &&& mask).toNat := by
  subst hm
  rw [Nat.one_shiftLeft] at hcovers hvalue
  rw [hcovers, Nat.mul_comm, Nat.or_comm, Nat.add_comm]
  exact (Nat.two_pow_add_eq_or_of_lt hvalue _).symm

/-- What is left of a field that shares its octet with flags. -/
theorem field_or (hm : 1 <<< k = m) (octet flags : UInt8) :
    UInt8.ofNat ((octet.toNat % m ||| flags.toNat) % m) = field m (octet ||| flags) := by
  subst hm
  rw [field, UInt8.toNat_or, Nat.one_shiftLeft, Nat.or_mod_two_pow, Nat.mod_mod,
    ← Nat.or_mod_two_pow]

end Covers

theorem and_pointMask_and (octet : UInt8) :
    octet &&& pointMask &&& pointMask = octet &&& pointMask := by
  rw [UInt8.and_assoc, UInt8.and_self]

/-- What a point leaves of an octet are flags of a quality descriptor. -/
theorem ofBits_pointMask (octet : UInt8) :
    (Flags.ofBits (octet &&& pointMask) : Flags .quality).bits = octet &&& pointMask := by
  rw [Flags.ofBits, UInt8.and_assoc]
  rfl

namespace DoublePointState

theorem number_lt (s : DoublePointState) : s.number < 4 := by
  cases s <;> decide

theorem ofNumber_of_mod {s : DoublePointState} {n : Nat} (h : n % 4 = s.number) :
    ofNumber n = s := by
  rw [ofNumber, h]
  cases s <;> rfl

end DoublePointState

namespace StepCommandState

theorem number_lt (s : StepCommandState) : s.number < 4 := by
  cases s <;> decide

theorem ofNumber_of_mod {s : StepCommandState} {n : Nat} (h : n % 4 = s.number) :
    ofNumber n = s := by
  rw [ofNumber, h]
  cases s <;> rfl

end StepCommandState

/-! ### Time tags -/

namespace Time24

/-- What is left of a time tag that has been written. -/
def clipped (t : Time24) : Time24 := { t with minute := field 64 t.minute }

/-- Every field is within its bits. -/
structure Fits (t : Time24) : Prop where
  minute : t.minute.toNat < 64

theorem Fits.clipped_eq {t : Time24} (h : t.Fits) : t.clipped = t := by
  rw [clipped, field_of_lt h.minute]

theorem number_lt (t : Time24) : t.number < Octets.bound width := by
  have hmilliseconds := t.milliseconds.toNat_lt
  have hinvalid := t.invalid.toNat_lt
  simp only [number, width, Octets.bound]
  omega

theorem ofNumber_number (t : Time24) : ofNumber t.number = t.clipped := by
  have hmilliseconds := t.milliseconds.toNat_lt
  have hinvalid := t.invalid.toNat_lt
  have hlow : bits t.number 0 16 = t.milliseconds.toNat := by
    simp only [bits, number, Nat.reduceShiftLeft]
    omega
  have hminute : bits t.number 16 6 = t.minute.toNat % 64 := by
    simp only [bits, number, Nat.reduceShiftLeft]
    omega
  have hflag : t.number >>> 23 % 2 = t.invalid.toNat := by
    unfold number
    omega
  simp only [ofNumber, clipped, field, hlow, hminute, testBit_eq_of_shift hflag,
    UInt16.ofNat_toNat]

end Time24

namespace Time56

/-- What is left of a time tag that has been written. -/
def clipped (t : Time56) : Time56 :=
  { t with
    minute := field 64 t.minute
    hour := field 32 t.hour
    day := field 32 t.day
    dayOfWeek := field 8 t.dayOfWeek
    month := field 16 t.month
    year := field 128 t.year }

/-- Every field is within its bits. -/
structure Fits (t : Time56) : Prop where
  minute : t.minute.toNat < 64
  hour : t.hour.toNat < 32
  day : t.day.toNat < 32
  dayOfWeek : t.dayOfWeek.toNat < 8
  month : t.month.toNat < 16
  year : t.year.toNat < 128

theorem Fits.clipped_eq {t : Time56} (h : t.Fits) : t.clipped = t := by
  rw [clipped, field_of_lt h.minute, field_of_lt h.hour, field_of_lt h.day,
    field_of_lt h.dayOfWeek, field_of_lt h.month, field_of_lt h.year]

theorem number_lt (t : Time56) : t.number < Octets.bound width := by
  have hmilliseconds := t.milliseconds.toNat_lt
  have hinvalid := t.invalid.toNat_lt
  have hsummerTime := t.summerTime.toNat_lt
  simp only [number, width, Octets.bound]
  omega

theorem ofNumber_number (t : Time56) : ofNumber t.number = t.clipped := by
  have hmilliseconds := t.milliseconds.toNat_lt
  have hinvalid := t.invalid.toNat_lt
  have hsummerTime := t.summerTime.toNat_lt
  -- Where the fields lie, from the low bits up.
  have hlow : bits t.number 0 16 = t.milliseconds.toNat := by
    simp only [bits, number, Nat.reduceShiftLeft]
    omega
  have hminute : bits t.number 16 6 = t.minute.toNat % 64 := by
    simp only [bits, number, Nat.reduceShiftLeft]
    omega
  have hflag : t.number >>> 23 % 2 = t.invalid.toNat := by
    unfold number
    omega
  have hhour : bits t.number 24 5 = t.hour.toNat % 32 := by
    simp only [bits, number, Nat.reduceShiftLeft]
    omega
  have hsummer : t.number >>> 31 % 2 = t.summerTime.toNat := by
    unfold number
    omega
  have hday : bits t.number 32 5 = t.day.toNat % 32 := by
    simp only [bits, number, Nat.reduceShiftLeft]
    omega
  have hweek : bits t.number 37 3 = t.dayOfWeek.toNat % 8 := by
    simp only [bits, number, Nat.reduceShiftLeft]
    omega
  have hmonth : bits t.number 40 4 = t.month.toNat % 16 := by
    simp only [bits, number, Nat.reduceShiftLeft]
    omega
  have hyear : bits t.number 48 7 = t.year.toNat % 128 := by
    simp only [bits, number, Nat.reduceShiftLeft]
    omega
  simp only [ofNumber, clipped, field, hlow, hminute, testBit_eq_of_shift hflag, hhour,
    testBit_eq_of_shift hsummer, hday, hweek, hmonth, hyear, UInt16.ofNat_toNat]

end Time56

/-! ### Elements -/

namespace Element

/-- The encoder takes the element. -/
def Writable : Element → Prop
  | stepPosition value _ => -64 ≤ value ∧ value ≤ 63
  | fileLength value => value ≤ 0xFFFFFF
  | segment data => data.length ≤ 255
  | _ => True

/-- The octets of an element that the encoder takes. -/
def octets : Element → Octets
  | segment data => UInt8.ofNat data.length :: data
  | raw data => data
  | e => Octets.ofNat e.encodedLength e.number

/-- Every field is within its bits, no bit is set that is not a flag, and a point does not collide
with its flags. -/
def Fits : Element → Prop
  | singlePoint _ flags | doublePoint _ flags => flags.bits &&& pointMask = flags.bits
  | quality flags => flags.Defined
  | counter _ sequence flags => sequence.toNat < 32 ∧ flags.Defined
  | protectionEvent _ flags => flags.Defined
  | protectionStart events => events.Defined
  | outputCircuit circuits => circuits.Defined
  | protectionQuality flags => flags.Defined
  | singleCommand _ qualifier _ | doubleCommand _ qualifier _ | regulatingStep _ qualifier _ =>
    qualifier.toNat < 32
  | setpointQualifier qualifier _ => qualifier.toNat < 128
  | counterQualifier request freeze => request.toNat < 64 ∧ freeze.toNat < 4
  | measuredParameterQualifier kind _ _ => kind.toNat < 64
  | initializationCause cause _ => cause.toNat < 128
  | time24 time => time.Fits
  | time56 time => time.Fits
  | fileReady qualifier _ | sectionReady qualifier _ => qualifier.toNat < 128
  | acknowledgeFile action notice => action.toNat < 16 ∧ notice.toNat < 16
  | fileStatus status flags => status.toNat < 32 ∧ flags.Defined
  | _ => True

/-- Each field, reduced to its bits. -/
def reduced : Element → Element
  | singlePoint on flags => singlePoint on (.ofBits (flags.bits &&& pointMask))
  | doublePoint state flags => doublePoint state (.ofBits (flags.bits &&& pointMask))
  | quality flags => quality (.ofBits flags.bits)
  | counter value sequence flags => counter value (field 32 sequence) (.ofBits flags.bits)
  | protectionEvent state flags => protectionEvent state (.ofBits flags.bits)
  | protectionStart events => protectionStart (.ofBits events.bits)
  | outputCircuit circuits => outputCircuit (.ofBits circuits.bits)
  | protectionQuality flags => protectionQuality (.ofBits flags.bits)
  | singleCommand on qualifier select => singleCommand on (field 32 qualifier) select
  | doubleCommand state qualifier select => doubleCommand state (field 32 qualifier) select
  | regulatingStep state qualifier select => regulatingStep state (field 32 qualifier) select
  | setpointQualifier qualifier select => setpointQualifier (field 128 qualifier) select
  | counterQualifier request freeze => counterQualifier (field 64 request) (field 4 freeze)
  | measuredParameterQualifier kind change notInOperation =>
    measuredParameterQualifier (field 64 kind) change notInOperation
  | initializationCause cause afterParameterChange =>
    initializationCause (field 128 cause) afterParameterChange
  | time24 time => time24 time.clipped
  | time56 time => time56 time.clipped
  | fileReady qualifier negative => fileReady (field 128 qualifier) negative
  | sectionReady qualifier notReady => sectionReady (field 128 qualifier) notReady
  | acknowledgeFile action notice => acknowledgeFile (field 16 action) (field 16 notice)
  | fileStatus status flags => fileStatus (field 32 status) (.ofBits flags.bits)
  | e => e

/-- The bits of flags are written to the field that shares their octet, too. -/
def spilled : Element → Element
  | counter value sequence flags => counter value (sequence ||| flags.bits) flags
  | protectionEvent state flags =>
    protectionEvent (.ofNumber (state.number ||| flags.bits.toNat)) flags
  | fileStatus status flags => fileStatus (status ||| flags.bits) flags
  | e => e

/-- What is left of an element that has been written. -/
def clipped (e : Element) : Element := e.spilled.reduced

/-- Flags that share an octet with another field have no bit set that is not a flag. -/
def FlagsDefined : Element → Prop
  | counter _ _ flags => flags.Defined
  | protectionEvent _ flags => flags.Defined
  | fileStatus _ flags => flags.Defined
  | _ => True

theorem FlagsDefined.clipped_eq {e : Element} (h : e.FlagsDefined) : e.clipped = e.reduced := by
  cases e with
  | counter value sequence flags =>
    have hsequence := covers_counter.field_or_flags (by decide : 1 <<< 5 = 32) h sequence
    rw [clipped, spilled, reduced, reduced, hsequence]
  | protectionEvent state flags =>
    have hmod := covers_protectionQuality.or_mod (by decide : 1 <<< 3 = 8) h state.number
    have hstate : DoublePointState.ofNumber (state.number ||| flags.bits.toNat) = state := by
      have hlt := state.number_lt
      exact DoublePointState.ofNumber_of_mod (by omega)
    rw [clipped, spilled, reduced, reduced, hstate]
  | fileStatus status flags =>
    have hstatus := covers_fileStatus.field_or_flags (by decide : 1 <<< 5 = 32) h status
    rw [clipped, spilled, reduced, reduced, hstatus]
  | _ => rfl

theorem Fits.flagsDefined {e : Element} (h : e.Fits) : e.FlagsDefined := by
  cases e with
  | counter | fileStatus => exact h.2
  | protectionEvent => exact h
  | _ => trivial

theorem Fits.reduced_eq {e : Element} (h : e.Fits) : e.reduced = e := by
  cases e
  case singlePoint value flags | doublePoint value flags =>
    have hdefined : flags.Defined := by
      have hbits := ofBits_pointMask flags.bits
      rwa [h] at hbits
    rw [reduced, h, hdefined.ofBits_bits]
  case quality | protectionEvent | protectionStart | outputCircuit | protectionQuality =>
    rw [reduced, h.ofBits_bits]
  case counter | fileStatus => rw [reduced, field_of_lt h.1, h.2.ofBits_bits]
  case counterQualifier | acknowledgeFile => rw [reduced, field_of_lt h.1, field_of_lt h.2]
  case time24 time => exact congrArg time24 (Time24.Fits.clipped_eq h)
  case time56 time => exact congrArg time56 (Time56.Fits.clipped_eq h)
  case singleCommand | doubleCommand | regulatingStep | setpointQualifier
    | measuredParameterQualifier | initializationCause | fileReady | sectionReady =>
    rw [reduced, field_of_lt h]
  all_goals rfl

theorem Fits.clipped_eq {e : Element} (h : e.Fits) : e.clipped = e :=
  h.flagsDefined.clipped_eq.trans h.reduced_eq

theorem encode_eq_ok {e : Element} {octets : Octets} (h : e.encode = .ok octets) :
    e.Writable ∧ octets = e.octets := by
  cases e with
  | stepPosition value transient =>
    simp only [encode] at h
    split at h
    · cases h
    · next hrange =>
      cases h
      obtain ⟨hlow, hhigh⟩ := not_or.mp hrange
      exact ⟨⟨Int8.not_lt.mp hlow, Int8.not_lt.mp hhigh⟩, rfl⟩
  | fileLength value =>
    simp only [encode] at h
    split at h
    · cases h
    · next hrange =>
      cases h
      exact ⟨UInt32.not_lt.mp hrange, rfl⟩
  | segment data =>
    simp only [encode] at h
    split at h
    · cases h
    · next hrange =>
      cases h
      exact ⟨Nat.not_lt.mp hrange, rfl⟩
  | _ =>
    cases h
    exact ⟨trivial, rfl⟩

theorem octets_of_width {e : Element} {kind : ElementKind} {width : Nat}
    (hkind : e.kind? = some kind) (hwidth : kind.width? = some width) :
    e.octets = Octets.ofNat width e.number := by
  cases e <;> cases hkind <;> cases hwidth <;> rfl

theorem flagged_fields (qualifier : UInt8) (flag : Bool) :
    UInt8.ofNat (bits (flagged qualifier flag) 0 7) = field 128 qualifier ∧
      (flagged qualifier flag).testBit 7 = flag ∧ flagged qualifier flag < 256 := by
  have hflag := flag.toNat_lt
  have hqualifier : bits (flagged qualifier flag) 0 7 = qualifier.toNat % 128 := by
    simp only [flagged, bits, Nat.reduceShiftLeft]
    omega
  refine ⟨congrArg UInt8.ofNat hqualifier, testBit_eq_of_shift ?_, ?_⟩ <;> unfold flagged <;> omega

theorem commandNumber_fields {state : Nat} (hstate : state < 4) (qualifier : UInt8)
    (select : Bool) :
    commandNumber state qualifier select % 4 = state ∧
      UInt8.ofNat (bits (commandNumber state qualifier select) 2 5) = field 32 qualifier ∧
      (commandNumber state qualifier select).testBit 7 = select ∧
      commandNumber state qualifier select < 256 := by
  have hselect := select.toNat_lt
  have hqualifier :
      bits (commandNumber state qualifier select) 2 5 = qualifier.toNat % 32 := by
    simp only [commandNumber, bits, Nat.reduceShiftLeft]
    omega
  refine ⟨?_, congrArg UInt8.ofNat hqualifier, testBit_eq_of_shift ?_, ?_⟩ <;>
    unfold commandNumber <;> omega

/-- A reader finds an element in a number that fits a number of octets. -/
structure IsFound (kind : ElementKind) (width n : Nat) (e : Element) : Prop where
  lt : n < Octets.bound width
  ofNumber : kind.ofNumber n = .ok e

theorem isFound_stepPosition {value : Int8} (hvalue : -64 ≤ value ∧ value ≤ 63)
    (transient : Bool) :
    IsFound .vti 1 ((value.toInt % 128).toNat + 128 * transient.toNat)
      (stepPosition value transient) := by
  have hlow : -64 ≤ value.toInt := Int8.le_iff_toInt_le.mp hvalue.1
  have hhigh : value.toInt ≤ 63 := Int8.le_iff_toInt_le.mp hvalue.2
  have htransient := transient.toNat_lt
  generalize hn : (value.toInt % 128).toNat + 128 * transient.toNat = n
  have hflag : n.testBit 7 = transient := testBit_eq_of_shift (by omega)
  -- The reader takes the seven bits as a signed number.
  have hbmod : Int.bmod n 128 = value.toInt := by
    rw [Int.bmod_def]
    split <;> omega
  refine ⟨by simp only [Octets.bound]; omega, ?_⟩
  simp only [ElementKind.ofNumber, hflag, hbmod, Int8.ofInt_toInt]

theorem isFound_counter (value : Int32) (sequence : UInt8) (flags : Flags .counter) :
    IsFound .bcr 5
      (value.toUInt32.toNat + 0x100000000 * (sequence.toNat % 32 ||| flags.bits.toNat))
      (counter value (field 32 (sequence ||| flags.bits)) (.ofBits flags.bits)) := by
  obtain ⟨hlt, hflags⟩ := covers_counter.or_flags (by decide : 1 <<< 5 = 32) (by decide)
    (Nat.mod_lt sequence.toNat (by decide)) flags.bits
  have hsequence := field_or (by decide : 1 <<< 5 = 32) sequence flags.bits
  have hvalue := value.toUInt32.toNat_lt
  -- The last octet has the sequence and the flags, the four before it the value.
  generalize sequence.toNat % 32 ||| flags.bits.toNat = m at hlt hflags hsequence ⊢
  have hlow : Int32.ofNat (value.toUInt32.toNat + 0x100000000 * m) = value := by
    have hcast : UInt32.ofNat (value.toUInt32.toNat + 0x100000000 * m) = value.toUInt32 := by
      apply UInt32.toNat_inj.mp
      rw [UInt32.toNat_ofNat']
      omega
    rw [← UInt32.toInt32_ofNat', hcast, Int32.toInt32_toUInt32]
  have hhigh : bits (value.toUInt32.toNat + 0x100000000 * m) 32 5 = m % 32 := by
    simp only [bits, Nat.reduceShiftLeft]
    omega
  have hoctet : octetAt (value.toUInt32.toNat + 0x100000000 * m) 32 = octetAt m 0 := by
    have hshift : (value.toUInt32.toNat + 0x100000000 * m) >>> 32 = m >>> 0 := by omega
    rw [octetAt, octetAt, bits, bits, hshift]
  refine ⟨by simp only [Octets.bound]; omega, ?_⟩
  simp only [ElementKind.ofNumber, hlow, hhigh, hoctet, hsequence, Flags.ofBits, hflags]

/-- The flags of a point leave the low bits of its octet to the point. -/
theorem point_fields {value : Nat} (hvalue : value < 16) (flags : UInt8) :
    (value ||| (flags &&& pointMask).toNat) % 16 = value ∧
      value ||| (flags &&& pointMask).toNat < 256 ∧
      octetAt (value ||| (flags &&& pointMask).toNat) 0 &&& pointMask = flags &&& pointMask := by
  have hidem := and_pointMask_and flags
  have hmod := covers_pointMask.or_mod (by decide : 1 <<< 4 = 16) hidem value
  obtain ⟨hlt, hflags⟩ :=
    covers_pointMask.or_flags (by decide : 1 <<< 4 = 16) (by decide) hvalue (flags &&& pointMask)
  exact ⟨hmod.trans (Nat.mod_eq_of_lt hvalue), hlt, hflags.trans hidem⟩

theorem isFound_singlePoint (on : Bool) (flags : Flags .quality) :
    IsFound .siq 1 (on.toNat ||| (flags.bits &&& pointMask).toNat)
      (singlePoint on (.ofBits (flags.bits &&& pointMask))) := by
  have hon := on.toNat_lt
  obtain ⟨hmod, hlt, hflags⟩ := point_fields (by omega : on.toNat < 16) flags.bits
  generalize on.toNat ||| (flags.bits &&& pointMask).toNat = n at hmod hlt hflags
  have hbit : n.testBit 0 = on := testBit_eq_of_shift (by omega)
  refine ⟨hlt, ?_⟩
  simp only [ElementKind.ofNumber, hbit, hflags]

theorem isFound_doublePoint (state : DoublePointState) (flags : Flags .quality) :
    IsFound .diq 1 (state.number ||| (flags.bits &&& pointMask).toNat)
      (doublePoint state (.ofBits (flags.bits &&& pointMask))) := by
  have hstate := state.number_lt
  obtain ⟨hmod, hlt, hflags⟩ := point_fields (by omega : state.number < 16) flags.bits
  generalize state.number ||| (flags.bits &&& pointMask).toNat = n at hmod hlt hflags
  have hread : DoublePointState.ofNumber n = state :=
    DoublePointState.ofNumber_of_mod (by omega)
  refine ⟨hlt, ?_⟩
  simp only [ElementKind.ofNumber, hread, hflags]

theorem isFound_protectionEvent (state : DoublePointState) (flags : Flags .protectionQuality) :
    IsFound .sep 1 (state.number ||| flags.bits.toNat)
      (protectionEvent (.ofNumber (state.number ||| flags.bits.toNat)) (.ofBits flags.bits)) := by
  have hstate := state.number_lt
  obtain ⟨hlt, hflags⟩ := covers_protectionQuality.or_flags (by decide : 1 <<< 3 = 8) (by decide)
    (by omega : state.number < 8) flags.bits
  refine ⟨hlt, ?_⟩
  simp only [ElementKind.ofNumber, Flags.ofBits, hflags]

theorem isFound_fileStatus (status : UInt8) (flags : Flags .fileStatus) :
    IsFound .sof 1 (status.toNat % 32 ||| flags.bits.toNat)
      (fileStatus (field 32 (status ||| flags.bits)) (.ofBits flags.bits)) := by
  obtain ⟨hlt, hflags⟩ := covers_fileStatus.or_flags (by decide : 1 <<< 5 = 32) (by decide)
    (Nat.mod_lt status.toNat (by decide)) flags.bits
  have hstatus : UInt8.ofNat (bits (status.toNat % 32 ||| flags.bits.toNat) 0 5) =
      field 32 (status ||| flags.bits) := field_or (by decide : 1 <<< 5 = 32) status flags.bits
  refine ⟨hlt, ?_⟩
  simp only [ElementKind.ofNumber, hstatus, Flags.ofBits, hflags]

theorem isFound_statusChanges (status changes : UInt16) :
    IsFound .scd 4 (status.toNat + 0x10000 * changes.toNat) (statusChanges status changes) := by
  have hstatus := status.toNat_lt
  have hchanges := changes.toNat_lt
  have hlow : bits (status.toNat + 0x10000 * changes.toNat) 0 16 = status.toNat := by
    simp only [bits, Nat.reduceShiftLeft]
    omega
  have hhigh : bits (status.toNat + 0x10000 * changes.toNat) 16 16 = changes.toNat := by
    simp only [bits, Nat.reduceShiftLeft]
    omega
  refine ⟨by simp only [Octets.bound]; omega, ?_⟩
  simp only [ElementKind.ofNumber, hlow, hhigh, UInt16.ofNat_toNat]

theorem isFound_counterQualifier (request freeze : UInt8) :
    IsFound .qcc 1 (request.toNat % 64 + 64 * (freeze.toNat % 4))
      (counterQualifier (field 64 request) (field 4 freeze)) := by
  generalize hn : request.toNat % 64 + 64 * (freeze.toNat % 4) = n
  have hlow : bits n 0 6 = request.toNat % 64 := by
    simp only [bits, Nat.reduceShiftLeft]
    omega
  have hhigh : bits n 6 2 = freeze.toNat % 4 := by
    simp only [bits, Nat.reduceShiftLeft]
    omega
  refine ⟨by simp only [Octets.bound]; omega, ?_⟩
  simp only [ElementKind.ofNumber, hlow, hhigh, field]

theorem isFound_acknowledgeFile (action notice : UInt8) :
    IsFound .afq 1 (action.toNat % 16 + 16 * (notice.toNat % 16))
      (acknowledgeFile (field 16 action) (field 16 notice)) := by
  generalize hn : action.toNat % 16 + 16 * (notice.toNat % 16) = n
  have hlow : bits n 0 4 = action.toNat % 16 := by
    simp only [bits, Nat.reduceShiftLeft]
    omega
  have hhigh : bits n 4 4 = notice.toNat % 16 := by
    simp only [bits, Nat.reduceShiftLeft]
    omega
  refine ⟨by simp only [Octets.bound]; omega, ?_⟩
  simp only [ElementKind.ofNumber, hlow, hhigh, field]

theorem isFound_measuredParameterQualifier (kind : UInt8) (change notInOperation : Bool) :
    IsFound .qpm 1 (kind.toNat % 64 + 64 * change.toNat + 128 * notInOperation.toNat)
      (measuredParameterQualifier (field 64 kind) change notInOperation) := by
  have hchange := change.toNat_lt
  have hnotInOperation := notInOperation.toNat_lt
  generalize hn :
    kind.toNat % 64 + 64 * change.toNat + 128 * notInOperation.toNat = n
  have hlow : bits n 0 6 = kind.toNat % 64 := by
    simp only [bits, Nat.reduceShiftLeft]
    omega
  have hmiddle : n.testBit 6 = change := testBit_eq_of_shift (by omega)
  have hhigh : n.testBit 7 = notInOperation := testBit_eq_of_shift (by omega)
  refine ⟨by simp only [Octets.bound]; omega, ?_⟩
  simp only [ElementKind.ofNumber, hlow, hmiddle, hhigh, field]

/-- The fields of an element are found in its number. -/
theorem isFound {e : Element} {kind : ElementKind} {width : Nat} (h : e.Writable)
    (hkind : e.kind? = some kind) (hwidth : kind.width? = some width) :
    IsFound kind width e.number e.clipped := by
  cases e <;> cases hkind <;> cases hwidth
  case singlePoint => exact isFound_singlePoint ..
  case doublePoint => exact isFound_doublePoint ..
  case stepPosition => exact isFound_stepPosition h _
  case counter => exact isFound_counter ..
  case protectionEvent => exact isFound_protectionEvent ..
  case fileStatus => exact isFound_fileStatus ..
  case statusChanges => exact isFound_statusChanges ..
  case counterQualifier => exact isFound_counterQualifier ..
  case acknowledgeFile => exact isFound_acknowledgeFile ..
  case measuredParameterQualifier => exact isFound_measuredParameterQualifier ..
  case singleCommand on qualifier select =>
    have hon : on.toNat < 4 := Nat.lt_of_lt_of_le on.toNat_lt (by decide)
    obtain ⟨hstate, hqualifier, hselect, hlt⟩ := commandNumber_fields hon qualifier select
    have hbit : (commandNumber on.toNat qualifier select).testBit 0 = on := by
      have htwo := on.toNat_lt
      exact testBit_eq_of_shift (by omega)
    refine ⟨hlt, ?_⟩
    simp only [ElementKind.ofNumber, number, clipped, spilled, reduced, hqualifier, hselect, hbit]
  case doubleCommand state qualifier select =>
    obtain ⟨hstate, hqualifier, hselect, hlt⟩ :=
      commandNumber_fields state.number_lt qualifier select
    refine ⟨hlt, ?_⟩
    simp only [ElementKind.ofNumber, number, clipped, spilled, reduced, hqualifier, hselect,
      DoublePointState.ofNumber_of_mod hstate]
  case regulatingStep state qualifier select =>
    obtain ⟨hstate, hqualifier, hselect, hlt⟩ :=
      commandNumber_fields state.number_lt qualifier select
    refine ⟨hlt, ?_⟩
    simp only [ElementKind.ofNumber, number, clipped, spilled, reduced, hqualifier, hselect,
      StepCommandState.ofNumber_of_mod hstate]
  case setpointQualifier qualifier flag | initializationCause qualifier flag
    | fileReady qualifier flag | sectionReady qualifier flag =>
    obtain ⟨hqualifier, hflag, hlt⟩ := flagged_fields qualifier flag
    refine ⟨hlt, ?_⟩
    simp only [ElementKind.ofNumber, number, clipped, spilled, reduced, hqualifier, hflag]
  case fixedTestPattern => exact ⟨by decide, rfl⟩
  case time16 time =>
    refine ⟨time.milliseconds.toNat_lt, ?_⟩
    simp only [ElementKind.ofNumber, number, clipped, spilled, reduced, Time16.ofNumber,
      Time16.number, UInt16.ofNat_toNat]
  case time24 time => exact ⟨time.number_lt, congrArg (Except.ok ∘ time24) time.ofNumber_number⟩
  case time56 time => exact ⟨time.number_lt, congrArg (Except.ok ∘ time56) time.ofNumber_number⟩
  case fileLength value =>
    refine ⟨Nat.lt_succ_of_le (UInt32.le_iff_toNat_le.mp h), ?_⟩
    simp only [ElementKind.ofNumber, number, clipped, spilled, reduced, UInt32.ofNat_toNat]
  case bitstring | shortFloat =>
    refine ⟨UInt32.toNat_lt _, ?_⟩
    simp only [ElementKind.ofNumber, number, clipped, spilled, reduced, UInt32.ofNat_toNat]
  case normalized | scaled =>
    refine ⟨UInt16.toNat_lt _, ?_⟩
    simp only [ElementKind.ofNumber, number, clipped, spilled, reduced, ← UInt16.toInt16_ofNat',
      UInt16.ofNat_toNat, Int16.toInt16_toUInt16]
  case testSequenceCounter | fileName =>
    refine ⟨UInt16.toNat_lt _, ?_⟩
    simp only [ElementKind.ofNumber, number, clipped, spilled, reduced, UInt16.ofNat_toNat]
  case quality | protectionStart | outputCircuit | protectionQuality =>
    refine ⟨UInt8.toNat_lt _, ?_⟩
    simp only [ElementKind.ofNumber, number, clipped, spilled, reduced, octetAt_zero]
  case interrogationQualifier | parameterActivationQualifier | resetQualifier | sectionName
    | selectCall | lastSection | checksum =>
    refine ⟨UInt8.toNat_lt _, ?_⟩
    simp only [ElementKind.ofNumber, number, clipped, spilled, reduced, octetAt_zero]

end Element

/-! ### Reading what was written -/

theorem ElementKind.decodeSegment_append {data : Octets} (h : data.length ≤ 255)
    (rest : Octets) :
    decodeSegment (UInt8.ofNat data.length :: data ++ rest) = .ok (.segment data, rest) := by
  have hlength : (UInt8.ofNat data.length).toNat = data.length :=
    UInt8.toNat_ofNat_of_lt' (Nat.lt_succ_of_le h)
  have hroom : ¬(data ++ rest).length < data.length := by
    rw [List.length_append]
    omega
  rw [List.cons_append, decodeSegment, hlength, if_neg hroom, List.take_left, List.drop_left]

/-- What was written of an element is read, and nothing else. -/
theorem ElementKind.decode_encode {e : Element} {kind : ElementKind} {octets : Octets}
    (hkind : e.kind? = some kind) (h : e.encode = .ok octets) (rest : Octets) :
    kind.decode (octets ++ rest) = .ok (e.clipped, rest) := by
  obtain ⟨hwritable, rfl⟩ := Element.encode_eq_ok h
  cases hwidth : kind.width? with
  | none =>
    -- Only a segment has no fixed width.
    cases e <;> cases hkind <;> cases hwidth
    exact decodeSegment_append hwritable rest
  | some width =>
    have hfound := Element.isFound hwritable hkind hwidth
    have hlength : (Octets.ofNat width e.number).length = width := Octets.length_ofNat _ _
    have hroom : ¬(Octets.ofNat width e.number ++ rest).length < width := by
      rw [List.length_append, hlength]
      omega
    rw [Element.octets_of_width hkind hwidth, decode, hwidth]
    simp only [if_neg hroom, List.take_left' hlength, List.drop_left' hlength,
      Octets.toNat_ofNat, Nat.mod_eq_of_lt hfound.lt, hfound.ofNumber]
    rfl

end Telecontrol
