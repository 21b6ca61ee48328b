import Telecontrol.Fault

/-!
# Settings of a connection

`Settings` fixes the widths of the variable fields, the sizes of the windows and the times
of a connection, which are in nanoseconds. `Settings.validate` says what is wrong with
settings that cannot be used, the first fault found in the order of `Settings.checks`;
`Settings.Valid` is the same as a condition, and `validate_eq_ok_iff` connects the two.
-/

namespace Telecontrol

/-- The parameters of a connection. -/
structure Settings where
  /-- Octets of the cause of transmission field, 1 or 2. -/
  causeWidth : Nat := 2
  /-- Octets of the common address field, 1 or 2. -/
  commonAddressWidth : Nat := 2
  /-- Octets of an information object address, 1 to 3. -/
  objectAddressWidth : Nat := 3
  /-- Time limit for the acknowledgment of a frame and the confirmation of an activation. -/
  t1 : Nat := Duration.ofSeconds 15
  /-- Longest delay of the acknowledgment of a received information frame. -/
  t2 : Nat := Duration.ofSeconds 10
  /-- Idle time after which the link is tested. -/
  t3 : Nat := Duration.ofSeconds 20
  /-- Largest number of unacknowledged information frames sent. -/
  k : UInt16 := 12
  /-- Number of unacknowledged information frames received after which they are
  acknowledged. -/
  w : UInt16 := 8
  /-- Usual time limit for the start of data transfer. -/
  handshakeTimeout : Nat := Duration.ofSeconds 15
  /-- Time limit for the confirmation of a command. -/
  responseTimeout : Nat := Duration.ofSeconds 20
  /-- Originator address of commands; 0 when none is used. -/
  originator : UInt8 := 0
  deriving DecidableEq, Repr, Inhabited

namespace Settings

/-- The largest window. -/
def maxWindow : UInt16 := 32767

/-- The conditions under which settings cannot be used, in the order in which they are
checked, each with its fault. -/
def checks (s : Settings) : List (Bool × SettingsFault) :=
  [(s.causeWidth < 1 || 2 < s.causeWidth, .causeWidth s.causeWidth),
    (s.commonAddressWidth < 1 || 2 < s.commonAddressWidth,
      .commonAddressWidth s.commonAddressWidth),
    (s.objectAddressWidth < 1 || 3 < s.objectAddressWidth,
      .objectAddressWidth s.objectAddressWidth),
    (s.k < 1 || maxWindow < s.k || s.w < 1 || maxWindow < s.w, .windowRange s.k s.w),
    (s.k < s.w, .windowOrder s.k s.w),
    (s.t1 == 0, .zeroTime .t1),
    (s.t2 == 0, .zeroTime .t2),
    (s.t3 == 0, .zeroTime .t3),
    (s.handshakeTimeout == 0, .zeroTime .handshake),
    (s.responseTimeout == 0, .zeroTime .response),
    (s.originator != 0 && s.causeWidth != 2, .originatorField s.originator),
    (s.t1 ≤ s.t2, .acknowledgmentDelay s.t2 s.t1)]

/-- The first reason why the settings cannot be used, if there is one. -/
def fault? (s : Settings) : Option SettingsFault :=
  (s.checks.find? fun check => check.1).map (·.2)

/-- Accepts settings that can be used. -/
def validate (s : Settings) : Except Fault Unit :=
  match s.fault? with
  | some cause => .error (.config cause)
  | none => .ok ()

/-- What settings must satisfy. -/
structure Valid (s : Settings) : Prop where
  causeWidth : s.causeWidth = 1 ∨ s.causeWidth = 2
  commonAddressWidth : s.commonAddressWidth = 1 ∨ s.commonAddressWidth = 2
  objectAddressWidth : s.objectAddressWidth = 1 ∨ s.objectAddressWidth = 2 ∨
    s.objectAddressWidth = 3
  k_pos : 0 < s.k.toNat
  k_le : s.k.toNat ≤ 32767
  w_pos : 0 < s.w.toNat
  w_le : s.w.toNat ≤ s.k.toNat
  t2_pos : 0 < s.t2
  t3_pos : 0 < s.t3
  handshake_pos : 0 < s.handshakeTimeout
  response_pos : 0 < s.responseTimeout
  originator : s.originator = 0 ∨ s.causeWidth = 2
  t2_lt : s.t2 < s.t1

theorem fault?_eq_none_iff (s : Settings) : s.fault? = none ↔ s.Valid := by
  have hmax : maxWindow.toNat = 32767 := rfl
  have hone : (1 : UInt16).toNat = 1 := rfl
  simp only [fault?, Option.map_eq_none_iff, List.find?_eq_none, checks, List.mem_cons,
    List.not_mem_nil, or_false, forall_eq_or_imp, forall_eq, Bool.or_eq_true,
    Bool.and_eq_true, decide_eq_true_eq, beq_iff_eq, bne_iff_ne, ne_eq,
    UInt16.lt_iff_toNat_lt, hmax, hone]
  constructor
  · rintro ⟨h1, h2, h3, h4, h5, h6, h7, h8, h9, h10, h11, h12⟩
    exact ⟨by omega, by omega, by omega, by omega, by omega, by omega, by omega, by omega,
      by omega, by omega, by omega, Decidable.or_iff_not_not_and_not.mpr h11, by omega⟩
  · rintro ⟨h1, h2, h3, h4, h5, h6, h7, h8, h9, h10, h11, h12, h13⟩
    exact ⟨by omega, by omega, by omega, by omega, by omega, by omega, by omega, by omega,
      by omega, by omega, fun h => h12.elim h.1 h.2, by omega⟩

/-- Exactly the settings that satisfy the conditions are accepted. -/
theorem validate_eq_ok_iff (s : Settings) : s.validate = .ok () ↔ s.Valid := by
  rw [← fault?_eq_none_iff]
  unfold validate
  cases s.fault? <;> simp

end Settings

end Telecontrol
