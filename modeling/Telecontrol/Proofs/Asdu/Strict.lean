import Telecontrol.Asdu.Codec

/-!
# Nothing is read past the end

A string of octets can be cut anywhere, so a reader that looks for octets where there are none
would go unnoticed. The readers of this module take every field on its own off the head of a
string, and halt with `Halt.overrun` if it is not there. They come to the same results as those
that cut strings (`AsduFormat.map_fst_strict`), so every field that is looked for is there: what is
missing is found out beforehand, and reported as a fault.
-/

namespace Telecontrol

/-- Why a reader halts: it looks for octets that are not there, or has found a fault. -/
inductive Halt
  | overrun
  | fault (cause : Fault)
  deriving DecidableEq

/-- Readers that take fields off the head of a string. -/
abbrev StrictReader := StateT Octets (Except Halt)

namespace StrictReader

/-- The number of octets that are left. -/
def remaining : StrictReader Nat := fun left => .ok (left.length, left)

/-- The next octet. -/
def octet : StrictReader UInt8
  | [] => .error .overrun
  | b :: left => .ok (b, left)

/-- The next octets. -/
def take (n : Nat) : StrictReader Octets := fun left =>
  if left.length < n then .error .overrun else .ok (left.take n, left.drop n)

/-- The next octets as a number. -/
def number (n : Nat) : StrictReader Nat := return Octets.toNat (← take n)

/-- The next octets, field by field. -/
def takeEach : List Nat → StrictReader Octets
  | [] => pure []
  | width :: widths => do return (← take width) ++ (← takeEach widths)

/-- Report a fault. -/
def refuse {α : Type} (cause : Fault) : StrictReader α := fun _ => .error (.fault cause)

/-- What was found in octets that have been taken. -/
def found {α : Type} (result : Except Fault α) : StrictReader α := fun left =>
  (result.map fun a => (a, left)).mapError .fault

/-- A number of items one after the other. -/
def times {α : Type} (read : StrictReader α) : Nat → StrictReader (List α)
  | 0 => pure []
  | n + 1 => do return (← read) :: (← times read n)

end StrictReader

open StrictReader

/-- The fields of a kind of fixed width, each of which is taken on its own. -/
def ElementKind.fields : ElementKind → List Nat
  | bcr => [4, 1]
  | scd => [2, 2]
  | time24 => [2, 1]
  | time56 => [2, 1, 1, 1, 1, 1]
  | kind => kind.width?.toList

/-- The element of a kind. -/
def ElementKind.strict (kind : ElementKind) : StrictReader Element := do
  let left ← remaining
  match kind.width? with
  | none =>
    if left = 0 then refuse (.invalidAsdu .segmentLengthMissing)
    else do
      let length ← octet
      let left ← remaining
      if left < length.toNat then
        refuse (.invalidAsdu (.segmentTruncated length.toNat left))
      else return .segment (← take length.toNat)
  | some width =>
    if left < width then refuse (.invalidAsdu (.elementTruncated kind left))
    else do
      let octets ← takeEach kind.fields
      found (kind.ofNumber (Octets.toNat octets))

/-- Elements of the given kinds. -/
def strictSet : List ElementKind → StrictReader ElementSet
  | [] => pure []
  | kind :: kinds => do return (← kind.strict) :: (← strictSet kinds)

/-- An element set of a type that is known to an extension, which reads by itself. -/
def Extension.strict (extension : Extension) (code : UInt8) : StrictReader ElementSet := fun left =>
  (extension.decodeSet code left).mapError .fault

namespace AsduFormat

/-- An object address. -/
def strictAddress (f : AsduFormat) : StrictReader UInt32 := do
  let left ← remaining
  if left < f.objectAddressWidth then refuse (.invalidAsdu .addressTruncated)
  else return UInt32.ofNat (← number f.objectAddressWidth)

/-- An object with its own address and one element set. -/
def strictObject (f : AsduFormat) (readSet : StrictReader ElementSet) :
    StrictReader InformationObject := do
  let address ← f.strictAddress
  let set ← readSet
  return ⟨address, [set]⟩

/-- The objects that a structure qualifier announces. -/
def strictObjects (f : AsduFormat) (q : StructureQualifier) (readSet : StrictReader ElementSet) :
    StrictReader (List InformationObject) :=
  if q.sequence then
    if q.count = 0 then pure []
    else do
      let address ← f.strictAddress
      let sets ← times readSet q.count.toNat
      return [⟨address, sets⟩]
  else times (f.strictObject readSet) q.count.toNat

/-- What follows the header of a unit. -/
def strictBody (f : AsduFormat) (type : TypeIdentification) (q : StructureQualifier) :
    StrictReader AsduBody :=
  let extended (code : UInt8) (otherwise : StrictReader AsduBody) :=
    match f.extension with
    | some extension =>
      if extension.handles code then do
        return .objects (← f.strictObjects q (extension.strict code))
      else otherwise
    | none => otherwise
  match type with
  | .standard type => do return .objects (← f.strictObjects q (strictSet type.layout))
  | .reserved code => extended code (refuse (.unknownType code))
  | .privateUse code => extended code do return .verbatim q.count (← take (← remaining))

/-- The originator address, if there is one, and the common address. -/
def strictStation (f : AsduFormat) : StrictReader (UInt8 × UInt16) := do
  let originator ← if f.causeWidth = 2 then octet else pure 0
  return (originator, UInt16.ofNat (← number f.commonAddressWidth))

/-- A whole unit. -/
def strict (f : AsduFormat) : StrictReader Asdu := do
  let available ← remaining
  if available < f.headerLength then
    refuse (.invalidAsdu (.headerTruncated available f.headerLength))
  else do
    let typeOctet ← octet
    let q := StructureQualifier.ofOctet (← octet)
    let cause ← octet
    let (originator, commonAddress) ← f.strictStation
    let body ← f.strictBody (.ofOctet typeOctet) q
    let left ← remaining
    if left = 0 then
      return { type := .ofOctet typeOctet
               sequence := q.sequence
               cause := .ofOctet cause
               test := cause &&& Cause.testFlag != 0
               negative := cause &&& Cause.negativeFlag != 0
               originator := originator
               commonAddress := commonAddress
               body := body }
    else refuse (.invalidAsdu (.trailingOctets left q.count.toNat))

end AsduFormat

/-! ### Both readers agree -/

/-- A strict reader comes to the same results as a reader that cuts strings. -/
def StrictReader.Agrees {α : Type} (strict : StrictReader α)
    (read : Octets → Except Fault (α × Octets)) : Prop :=
  ∀ octets, strict octets = (read octets).mapError .fault

namespace StrictReader.Agrees

variable {α β : Type}

theorem pure (a : α) : Agrees (pure a) fun octets => .ok (a, octets) := fun _ => rfl

theorem bind {strict : StrictReader α} {read : Octets → Except Fault (α × Octets)}
    {next : α → StrictReader β} {next' : α → Octets → Except Fault (β × Octets)}
    (h : strict.Agrees read) (hnext : ∀ a, (next a).Agrees (next' a)) :
    Agrees (strict >>= next) fun octets => read octets >>= fun (a, rest) => next' a rest := by
  intro octets
  show (strict octets >>= fun (a, rest) => next a rest) =
    (read octets >>= fun (a, rest) => next' a rest).mapError .fault
  rw [h octets]
  cases read octets with
  | error cause => rfl
  | ok item => exact hnext item.1 item.2

end StrictReader.Agrees

namespace StrictReader

theorem take_of_le {n : Nat} {octets : Octets} (h : ¬octets.length < n) :
    take n octets = .ok (octets.take n, octets.drop n) := if_neg h

/-- Fields that are there are taken together. -/
theorem takeEach_of_le {widths : List Nat} {octets : Octets}
    (h : ¬octets.length < widths.foldr (· + ·) 0) :
    takeEach widths octets =
      .ok (octets.take (widths.foldr (· + ·) 0), octets.drop (widths.foldr (· + ·) 0)) := by
  induction widths generalizing octets with
  | nil => rfl
  | cons width widths ih =>
    rw [List.foldr_cons] at h ⊢
    have hrest : ¬(octets.drop width).length < widths.foldr (· + ·) 0 := by
      rw [List.length_drop]
      omega
    show (take width octets >>= fun (field, rest) => _) = _
    rw [take_of_le (by omega)]
    show (takeEach widths (octets.drop width) >>= fun (others, rest) => _) = _
    rw [ih hrest, List.take_add, ← List.drop_drop]
    rfl

end StrictReader

theorem ElementKind.sum_fields {kind : ElementKind} {width : Nat} (h : kind.width? = some width) :
    kind.fields.foldr (· + ·) 0 = width := by
  cases kind <;> cases h <;> rfl

theorem ElementKind.strict_agrees (kind : ElementKind) : kind.strict.Agrees kind.decode := by
  intro octets
  unfold strict decode
  cases hwidth : kind.width? with
  | none =>
    cases octets with
    | nil => rfl
    | cons length rest =>
      show (if rest.length < length.toNat then _ else _ : StrictReader Element) rest = _
      simp only [decodeSegment]
      split
      · rfl
      · next hroom =>
        show (take length.toNat rest >>= fun item => _) = _
        rw [take_of_le hroom]
        rfl
  | some width =>
    show (if octets.length < width then _ else _ : StrictReader Element) octets = _
    simp only
    split
    · rfl
    · next hroom =>
      rw [← sum_fields hwidth] at hroom ⊢
      show (takeEach kind.fields octets >>= fun item => _) = _
      rw [takeEach_of_le hroom]
      show found (kind.ofNumber _) _ = _
      cases kind.ofNumber (Octets.toNat (octets.take (kind.fields.foldr (· + ·) 0))) <;> rfl

theorem strictSet_agrees (kinds : List ElementKind) :
    (strictSet kinds).Agrees (decodeSet kinds) := by
  induction kinds with
  | nil => exact .pure []
  | cons kind kinds ih =>
    exact kind.strict_agrees.bind fun e => ih.bind fun set => .pure (e :: set)

theorem Extension.strict_agrees (extension : Extension) (code : UInt8) :
    (extension.strict code).Agrees (extension.decodeSet code) := fun _ => rfl

theorem StrictReader.times_agrees {α : Type} {strict : StrictReader α}
    {read : Octets → Except Fault (α × Octets)} (h : strict.Agrees read) (n : Nat) :
    (times strict n).Agrees (readMany read n) := by
  induction n with
  | zero => exact .pure []
  | succ n ih => exact h.bind fun item => ih.bind fun items => .pure (item :: items)

namespace AsduFormat

variable {readSet : Octets → Except Fault (ElementSet × Octets)}
  {strictRead : StrictReader ElementSet}

theorem strictAddress_agrees (f : AsduFormat) : f.strictAddress.Agrees f.decodeAddress := by
  intro octets
  show (if octets.length < f.objectAddressWidth then _ else _ : StrictReader UInt32) octets = _
  unfold decodeAddress
  split
  · rfl
  · next hroom =>
    show ((take f.objectAddressWidth octets >>= fun item => _) >>= fun item => _) = _
    rw [take_of_le hroom]
    rfl

theorem strictObject_agrees (f : AsduFormat) (h : strictRead.Agrees readSet) :
    (f.strictObject strictRead).Agrees (f.decodeObject readSet) := by
  unfold strictObject decodeObject
  exact f.strictAddress_agrees.bind fun address => h.bind fun set =>
    .pure (InformationObject.mk address [set])

theorem strictObjects_agrees (f : AsduFormat) (h : strictRead.Agrees readSet)
    (q : StructureQualifier) :
    (f.strictObjects q strictRead).Agrees (f.decodeObjects q readSet) := by
  intro octets
  unfold strictObjects decodeObjects
  split
  · split
    · rfl
    · exact (f.strictAddress_agrees.bind fun address => (times_agrees h q.count.toNat).bind
        fun sets => .pure [InformationObject.mk address sets]) octets
  · exact times_agrees (f.strictObject_agrees h) _ octets

theorem strictBody_agrees (f : AsduFormat) (type : TypeIdentification) (q : StructureQualifier) :
    (f.strictBody type q).Agrees (f.decodeBody type q) := by
  intro octets
  have hobjects : ∀ {strictRead readSet}, strictRead.Agrees readSet →
      (do return AsduBody.objects (← f.strictObjects q strictRead) : StrictReader AsduBody) octets =
        (f.decodeObjects q readSet octets >>= fun read =>
          pure (AsduBody.objects read.1, read.2)).mapError .fault := fun h =>
    ((f.strictObjects_agrees h q).bind fun objects => .pure (AsduBody.objects objects)) octets
  have hverbatim : (do return AsduBody.verbatim q.count (← take (← remaining)) :
      StrictReader AsduBody) octets = .ok (.verbatim q.count octets, []) := by
    show (take octets.length octets >>= fun item => _) = _
    rw [take_of_le (Nat.lt_irrefl _), List.take_length, List.drop_length]
    rfl
  unfold strictBody decodeBody
  cases type with
  | standard type => exact hobjects (strictSet_agrees type.layout)
  | reserved code =>
    cases hx : f.extension with
    | none => rfl
    | some x =>
      show (if x.handles code then _ else _ : StrictReader AsduBody) octets =
        (if x.handles code then _ else _ : Except Fault (AsduBody × Octets)).mapError .fault
      split
      · exact hobjects (x.strict_agrees code)
      · rfl
  | privateUse code =>
    cases hx : f.extension with
    | none => exact hverbatim
    | some x =>
      show (if x.handles code then _ else _ : StrictReader AsduBody) octets =
        (if x.handles code then _ else _ : Except Fault (AsduBody × Octets)).mapError .fault
      split
      · exact hobjects (x.strict_agrees code)
      · exact hverbatim

theorem strictStation_of_le {f : AsduFormat} (hwidth : f.causeWidth = 1 ∨ f.causeWidth = 2)
    {octets : Octets} (h : ¬octets.length + 3 < f.headerLength) :
    let station := if f.causeWidth = 2 then octets.tail else octets
    f.strictStation octets = .ok ((if f.causeWidth = 2 then octets.headD 0 else 0,
      UInt16.ofNat (Octets.toNat (station.take f.commonAddressWidth))),
        station.drop f.commonAddressWidth) := by
  unfold headerLength at h
  have hnumber : ∀ {station : Octets}, ¬station.length < f.commonAddressWidth →
      number f.commonAddressWidth station =
        .ok (Octets.toNat (station.take f.commonAddressWidth),
          station.drop f.commonAddressWidth) := by
    intro station hroom
    show (take f.commonAddressWidth station >>= fun item => _) = _
    rw [take_of_le hroom]
    rfl
  unfold strictStation
  rcases hwidth with hone | htwo
  · have hnot : f.causeWidth ≠ 2 := by omega
    simp only [if_neg hnot]
    show (number f.commonAddressWidth octets >>= fun item => _) = _
    rw [hnumber (by omega)]
    rfl
  · simp only [if_pos htwo]
    cases octets with
    | nil =>
      rw [List.length_nil] at h
      omega
    | cons originator rest =>
      rw [List.length_cons] at h
      show (number f.commonAddressWidth rest >>= fun item => _) = _
      rw [hnumber (by omega)]
      rfl

/-- Reading strictly comes to the same result; in particular no field is looked for that is not
there. -/
theorem map_fst_strict (f : AsduFormat) (hwidth : f.causeWidth = 1 ∨ f.causeWidth = 2)
    (octets : Octets) : (f.strict octets).map Prod.fst = (f.decode octets).mapError .fault := by
  unfold strict decode
  show ((if octets.length < f.headerLength then _ else _ : StrictReader Asdu) octets).map _ = _
  simp only
  split
  · rfl
  · next hroom =>
    match octets, hroom with
    | [], hroom | [_], hroom | [_, _], hroom =>
      simp only [headerLength, List.length_cons, List.length_nil] at hroom
      omega
    | typeOctet :: qualifier :: causeOctet :: rest, hroom =>
      show (f.strictStation rest >>= fun item => _).map _ = _
      rw [strictStation_of_le hwidth hroom]
      show (f.strictBody _ _ _ >>= fun item => _).map _ =
        (f.decodeBody _ _ _ >>= fun item => _ : Except Fault Asdu).mapError .fault
      rw [f.strictBody_agrees]
      cases f.decodeBody (.ofOctet typeOctet) (.ofOctet qualifier) _ with
      | error cause => rfl
      | ok item =>
        obtain ⟨body, left⟩ := item
        cases left <;> rfl

end AsduFormat

end Telecontrol
