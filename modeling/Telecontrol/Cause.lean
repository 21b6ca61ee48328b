import Telecontrol.Fault

/-!
# Cause of transmission

The cause says why an application service data unit was sent. It takes the low six bits of
an octet whose upper two bits are the negative-confirmation and the test flag.

* `Cause` has the causes with a standard meaning and `other` for any other code;
* `Cause.ofCode` finds the cause of a code and `Cause.code` the code of a cause;
  `code_ofCode` says that no code is lost.
-/

namespace Telecontrol

/-- Why an application service data unit was sent. -/
inductive Cause
  | periodic
  | background
  | spontaneous
  | initialized
  | request
  | activation
  | activationConfirm
  | deactivation
  | deactivationConfirm
  | activationTermination
  /-- Return information caused by a remote command (11). -/
  | returnRemote
  /-- Return information caused by a local command (12). -/
  | returnLocal
  | fileTransfer
  /-- Interrogated by the station interrogation (20, group 0) or that of a group (21 to 36). -/
  | interrogated (group : Fin 17)
  /-- Requested by the general counter request (37, group 0) or that of a group (38 to 41). -/
  | counterRequested (group : Fin 5)
  | unknownType
  | unknownCause
  | unknownCommonAddress
  | unknownObjectAddress
  /-- A code without a standard meaning. -/
  | other (code : UInt8)
  deriving DecidableEq, Repr

namespace Cause

/-- The bits of the octet that hold the cause. -/
def codeMask : UInt8 := 0x3F

/-- The bit of the octet that marks a negative confirmation. -/
def negativeFlag : UInt8 := 0x40

/-- The bit of the octet that marks a test. -/
def testFlag : UInt8 := 0x80

/-- The cause with a given code. -/
def ofCode (code : UInt8) : Cause :=
  if h : 20 ≤ code.toNat ∧ code.toNat ≤ 36 then interrogated ⟨code.toNat - 20, by omega⟩
  else if h : 37 ≤ code.toNat ∧ code.toNat ≤ 41 then
    counterRequested ⟨code.toNat - 37, by omega⟩
  else match code.toNat with
    | 1 => periodic
    | 2 => background
    | 3 => spontaneous
    | 4 => initialized
    | 5 => request
    | 6 => activation
    | 7 => activationConfirm
    | 8 => deactivation
    | 9 => deactivationConfirm
    | 10 => activationTermination
    | 11 => returnRemote
    | 12 => returnLocal
    | 13 => fileTransfer
    | 44 => unknownType
    | 45 => unknownCause
    | 46 => unknownCommonAddress
    | 47 => unknownObjectAddress
    | _ => other code

/-- The cause in an octet whose flags are left aside. -/
def ofOctet (octet : UInt8) : Cause := ofCode (octet &&& codeMask)

/-- The code of a cause. -/
def code : Cause → UInt8
  | periodic => 1
  | background => 2
  | spontaneous => 3
  | initialized => 4
  | request => 5
  | activation => 6
  | activationConfirm => 7
  | deactivation => 8
  | deactivationConfirm => 9
  | activationTermination => 10
  | returnRemote => 11
  | returnLocal => 12
  | fileTransfer => 13
  | interrogated group => UInt8.ofNat (20 + group.val)
  | counterRequested group => UInt8.ofNat (37 + group.val)
  | unknownType => 44
  | unknownCause => 45
  | unknownCommonAddress => 46
  | unknownObjectAddress => 47
  | other code => code

/-- The cause of a code has that code. -/
theorem code_ofCode (c : UInt8) : (ofCode c).code = c := by
  have every : ∀ i : Fin 256, (ofCode (UInt8.ofNat i.val)).code = UInt8.ofNat i.val := by
    decide +kernel
  have h := every ⟨c.toNat, c.toNat_lt⟩
  simpa using h

/-- The code of a cause, which must fit the six bits of its field. -/
def encode (cause : Cause) : Except Fault UInt8 :=
  if codeMask < cause.code then .error (.unknownCause cause.code) else .ok cause.code

/-- The code lies in the range set aside for special use. -/
def isSpecialUse (cause : Cause) : Bool := 48 ≤ cause.code && cause.code ≤ 63

/-- The cause confirms or terminates an activation. -/
def isConfirmation : Cause → Bool
  | activationConfirm | deactivationConfirm | activationTermination => true
  | _ => false

/-- The cause reports that the other station does not know a part of what was sent to it. -/
def isUnknownReply (cause : Cause) : Bool := 44 ≤ cause.code && cause.code ≤ 47

/-- The cause answers an interrogation. -/
def isInterrogationResponse (cause : Cause) : Bool := 20 ≤ cause.code && cause.code ≤ 36

/-- The cause answers a counter request. -/
def isCounterResponse (cause : Cause) : Bool := 37 ≤ cause.code && cause.code ≤ 41

/-- The cause that answers an interrogation with a given qualifier. -/
def ofInterrogation? (qualifier : UInt8) : Option Cause :=
  if 20 ≤ qualifier ∧ qualifier ≤ 36 then some (ofCode qualifier) else none

/-- The cause that confirms a request: other causes than those of requests are kept. -/
def confirmation : Cause → Cause
  | activation => activationConfirm
  | deactivation => deactivationConfirm
  | cause => cause

/-- The name of a cause; a code without a meaning that lies among the answers to
interrogations or counter requests is named like them. -/
def text : Cause → String
  | periodic => "Periodic"
  | background => "Background"
  | spontaneous => "Spontaneous"
  | initialized => "Initialized"
  | request => "Request"
  | activation => "Activation"
  | activationConfirm => "ActivationConfirm"
  | deactivation => "Deactivation"
  | deactivationConfirm => "DeactivationConfirm"
  | activationTermination => "ActivationTermination"
  | returnRemote => "ReturnRemoteCommand"
  | returnLocal => "ReturnLocalCommand"
  | fileTransfer => "FileTransfer"
  | interrogated ⟨0, _⟩ => "InterrogatedByStation"
  | interrogated group => s!"InterrogatedByGroup{group.val}"
  | counterRequested ⟨0, _⟩ => "RequestedByGeneralCounter"
  | counterRequested group => s!"RequestedByGroup{group.val}Counter"
  | unknownType => "UnknownTypeId"
  | unknownCause => "UnknownCot"
  | unknownCommonAddress => "UnknownCommonAddress"
  | unknownObjectAddress => "UnknownIoa"
  | other code =>
    if 20 ≤ code ∧ code ≤ 36 then s!"InterrogatedByGroup{code.toNat - 20}"
    else if 37 ≤ code ∧ code ≤ 41 then s!"RequestedByGroup{code.toNat - 37}Counter"
    else s!"Cot({code})"

end Cause

end Telecontrol
