import Telecontrol.Asdu.Codec

/-!
# Why a unit cannot be read or written

Reading an application service data unit fails with a fault of its own: the unit is invalid,
or its type is unknown (`AsduFormat.decode_unreadable`). Writing one fails if it is invalid, or its
cause unknown (`AsduFormat.encode_unwritable`). In particular neither fails with a fault of the
link.
-/

namespace Telecontrol

/-- The faults with which a unit cannot be read. -/
inductive Fault.Unreadable : Fault → Prop
  | invalid (cause : AsduFault) : Unreadable (.invalidAsdu cause)
  | unknown (code : UInt8) : Unreadable (.unknownType code)

/-- A reader fails only because what it reads cannot be read. -/
def FailsUnreadable {α : Type} (read : Octets → Except Fault α) : Prop :=
  ∀ octets cause, read octets = .error cause → cause.Unreadable

/-- An extension refuses element sets as invalid. -/
def Extension.RefusesInvalid (extension : Extension) : Prop :=
  ∀ code octets cause, extension.decodeSet code octets = .error cause →
    ∃ fault, cause = .invalidAsdu fault

theorem bind_eq_error {ε α β : Type} {first : Except ε α} {next : α → Except ε β} {e : ε}
    (h : (first >>= next) = .error e) :
    first = .error e ∨ ∃ a, first = .ok a ∧ next a = .error e := by
  cases first with
  | error e' =>
    cases h
    exact .inl rfl
  | ok a => exact .inr ⟨a, rfl, h⟩

theorem Extension.RefusesInvalid.decodeSet {extension : Extension}
    (h : extension.RefusesInvalid) (code : UInt8) :
    FailsUnreadable (extension.decodeSet code) := by
  intro octets cause hcause
  obtain ⟨fault, rfl⟩ := h code octets cause hcause
  exact .invalid fault

theorem Extension.refusesInvalid_ofWidth (codes : List UInt8) (width : Nat) :
    (ofWidth codes width).RefusesInvalid := by
  intro code octets cause h
  simp only [ofWidth] at h
  split at h
  · cases h
    exact ⟨_, rfl⟩
  · cases h

namespace ElementKind

theorem ofNumber_unreadable {kind : ElementKind} {n : Nat} {cause : Fault}
    (h : kind.ofNumber n = .error cause) : cause.Unreadable := by
  cases kind <;> simp only [ofNumber, reduceCtorEq, Except.error.injEq] at h
  case fbp =>
    split at h
    · cases h
    · cases h
      exact .invalid _
  case segment =>
    subst h
    exact .invalid _

theorem decode_unreadable (kind : ElementKind) : FailsUnreadable kind.decode := by
  intro octets cause h
  unfold decode at h
  split at h
  · unfold decodeSegment at h
    split at h
    · cases h
      exact .invalid _
    · split at h
      · cases h
        exact .invalid _
      · cases h
  · split at h
    · cases h
      exact .invalid _
    · rcases bind_eq_error h with h | ⟨element, -, h⟩
      · exact ofNumber_unreadable h
      · cases h

end ElementKind

theorem decodeSet_unreadable (kinds : List ElementKind) :
    FailsUnreadable (decodeSet kinds) := by
  induction kinds with
  | nil =>
    intro octets cause h
    cases h
  | cons kind kinds ih =>
    intro octets cause h
    rcases bind_eq_error h with h | ⟨⟨element, octets⟩, -, h⟩
    · exact kind.decode_unreadable _ _ h
    · rcases bind_eq_error h with h | ⟨⟨elements, octets⟩, -, h⟩
      · exact ih _ _ h
      · cases h

theorem readMany_unreadable {α : Type} {read : Octets → Except Fault (α × Octets)}
    (hread : FailsUnreadable read) (n : Nat) : FailsUnreadable (readMany read n) := by
  induction n with
  | zero =>
    intro octets cause h
    cases h
  | succ n ih =>
    intro octets cause h
    rcases bind_eq_error h with h | ⟨⟨item, octets⟩, -, h⟩
    · exact hread _ _ h
    · rcases bind_eq_error h with h | ⟨⟨items, octets⟩, -, h⟩
      · exact ih _ _ h
      · cases h

namespace AsduFormat

variable (f : AsduFormat) {readSet : Octets → Except Fault (ElementSet × Octets)}

theorem decodeAddress_unreadable : FailsUnreadable f.decodeAddress := by
  intro octets cause h
  unfold decodeAddress at h
  split at h
  · cases h
    exact .invalid _
  · cases h

theorem decodeObject_unreadable (hread : FailsUnreadable readSet) :
    FailsUnreadable (f.decodeObject readSet) := by
  intro octets cause h
  rcases bind_eq_error h with h | ⟨⟨address, octets⟩, -, h⟩
  · exact f.decodeAddress_unreadable _ _ h
  · rcases bind_eq_error h with h | ⟨⟨set, octets⟩, -, h⟩
    · exact hread _ _ h
    · cases h

theorem decodeObjects_unreadable (q : StructureQualifier) (hread : FailsUnreadable readSet) :
    FailsUnreadable (f.decodeObjects q readSet) := by
  intro octets cause h
  unfold decodeObjects at h
  split at h
  · split at h
    · cases h
    · rcases bind_eq_error h with h | ⟨⟨address, octets⟩, -, h⟩
      · exact f.decodeAddress_unreadable _ _ h
      · rcases bind_eq_error h with h | ⟨⟨sets, octets⟩, -, h⟩
        · exact readMany_unreadable hread _ _ _ h
        · cases h
  · exact readMany_unreadable (f.decodeObject_unreadable hread) _ _ _ h

/-- What is done with objects that have been read does not fail. -/
theorem decodeObjects_bind_unreadable {q : StructureQualifier}
    {next : List InformationObject × Octets → Except Fault (AsduBody × Octets)}
    {octets : Octets} {cause : Fault} (hread : FailsUnreadable readSet)
    (hnext : ∀ objects rest, ∃ body, next (objects, rest) = .ok body)
    (h : (f.decodeObjects q readSet octets >>= next) = .error cause) : cause.Unreadable := by
  rcases bind_eq_error h with h | ⟨⟨objects, rest⟩, -, h⟩
  · exact f.decodeObjects_unreadable q hread _ _ h
  · obtain ⟨body, hbody⟩ := hnext objects rest
    cases hbody.symm.trans h

theorem decodeBody_unreadable (hextension : ∀ x, f.extension = some x → x.RefusesInvalid)
    (type : TypeIdentification) (q : StructureQualifier) :
    FailsUnreadable (f.decodeBody type q) := by
  intro octets cause h
  unfold decodeBody at h
  cases type with
  | standard type =>
    exact f.decodeObjects_bind_unreadable (decodeSet_unreadable _) (fun _ _ => ⟨_, rfl⟩) h
  | reserved code =>
    simp only at h
    split at h
    · next x hx =>
      split at h
      · exact f.decodeObjects_bind_unreadable ((hextension x hx).decodeSet code)
          (fun _ _ => ⟨_, rfl⟩) h
      · cases h
        exact .unknown code
    · cases h
      exact .unknown code
  | privateUse code =>
    simp only at h
    split at h
    · next x hx =>
      split at h
      · exact f.decodeObjects_bind_unreadable ((hextension x hx).decodeSet code)
          (fun _ _ => ⟨_, rfl⟩) h
      · cases h
    · cases h

/-- A unit that cannot be read is invalid, or its type is unknown. -/
theorem decode_unreadable (hextension : ∀ x, f.extension = some x → x.RefusesInvalid) :
    FailsUnreadable f.decode := by
  intro octets cause h
  unfold decode at h
  simp only at h
  split at h
  · cases h
    exact .invalid _
  · split at h
    · rcases bind_eq_error h with h | ⟨⟨body, left⟩, -, h⟩
      · exact f.decodeBody_unreadable hextension _ _ _ _ h
      · simp only at h
        split at h
        · cases h
        · cases h
          exact .invalid _
    · cases h
      exact .invalid _

end AsduFormat

/-! ### Writing -/

/-- The faults with which a unit cannot be written. -/
inductive Fault.Unwritable : Fault → Prop
  | invalid (cause : AsduFault) : Unwritable (.invalidAsdu cause)
  | unknown (code : UInt8) : Unwritable (.unknownCause code)

theorem Element.encode_unwritable {e : Element} {cause : Fault} (h : e.encode = .error cause) :
    cause.Unwritable := by
  unfold encode at h
  split at h
  · split at h
    · cases h
      exact .invalid _
    · cases h
  · cases h
  · split at h
    · cases h
      exact .invalid _
    · cases h
  · split at h
    · cases h
      exact .invalid _
    · cases h
  · cases h

theorem writeAll_unwritable {α : Type} {write : α → Except Fault Octets}
    (hwrite : ∀ item cause, write item = .error cause → cause.Unwritable) {items : List α}
    {cause : Fault} (h : writeAll write items = .error cause) : cause.Unwritable := by
  induction items with
  | nil => cases h
  | cons item items ih =>
    rcases bind_eq_error h with h | ⟨first, -, h⟩
    · exact hwrite item cause h
    · rcases bind_eq_error h with h | ⟨rest, -, h⟩
      · exact ih h
      · cases h

namespace AsduFormat

variable (f : AsduFormat)

theorem encodeObject_unwritable {o : InformationObject} {cause : Fault}
    (h : f.encodeObject o = .error cause) : cause.Unwritable := by
  rcases bind_eq_error h with h | ⟨elements, -, h⟩
  · exact writeAll_unwritable (fun _ _ => Element.encode_unwritable) h
  · cases h

theorem causeOctet_unwritable {a : Asdu} {cause : Fault} (h : causeOctet a = .error cause) :
    cause.Unwritable := by
  rcases bind_eq_error h with h | ⟨code, -, h⟩
  · unfold Cause.encode at h
    split at h
    · cases h
      exact .unknown _
    · cases h
  · cases h

/-- A unit that cannot be written is invalid, or its cause is unknown. -/
theorem encode_unwritable {a : Asdu} {cause : Fault} (h : f.encode a = .error cause) :
    cause.Unwritable := by
  unfold encode at h
  split at h
  · cases h
    exact .invalid _
  · rcases bind_eq_error h with h | ⟨code, -, h⟩
    · exact causeOctet_unwritable h
    · rcases bind_eq_error h with h | ⟨body, -, h⟩
      · cases hbody : a.body with
        | objects objects =>
          rw [hbody] at h
          exact writeAll_unwritable (fun _ _ => f.encodeObject_unwritable) h
        | verbatim count data =>
          rw [hbody] at h
          cases h
      · cases h

end AsduFormat

end Telecontrol
