import Telecontrol.Asdu.Type
import Telecontrol.Control
import Telecontrol.Duration

/-!
# Faults

Everything that can go wrong on a connection, by cause. A fault either ends the connection
on which it arises or leaves it usable (`Fault.isFatal`); `Fault.message` is its wording.

The kinds of faults with many causes have a type of their own: `FramingFault`,
`ProtocolFault`, `AsduFault` and `SettingsFault`. Each has a constructor `text` for a
cause that is known by its description only.
-/

namespace Telecontrol

/-! ### Frames -/

/-- Why octets are not a frame, or a frame cannot be sent. -/
inductive FramingFault
  /-- The first control octet of an unnumbered frame names no function. -/
  | unknownFunction (octet : UInt8)
  /-- The first two control octets of a supervisory frame are not the fixed ones. -/
  | supervisoryOctets (first second : UInt8)
  /-- An unnumbered frame whose last three control octets are not zero. -/
  | trailingControl
  /-- The length octet is out of range. -/
  | lengthRange (length : Nat)
  | asduTooLong (length : Nat)
  /-- An application service data unit for a frame that cannot carry one. -/
  | asduRefused
  | asduMissing
  | unexpectedOctets (control : Control) (count : Nat)
  | endWithinFrame
  | text (description : String)
  deriving DecidableEq, Repr

/-- The wording of a framing fault. -/
def FramingFault.message : FramingFault → String
  | unknownFunction octet => s!"invalid U-frame control octet 0x{hexadecimal 2 octet.toNat}"
  | supervisoryOctets first second =>
    s!"invalid S-frame control octets 0x{hexadecimal 2 first.toNat} " ++
      s!"0x{hexadecimal 2 second.toNat}"
  | trailingControl => "U-frame with non-zero trailing control octets"
  | lengthRange length => s!"APDU length {length} outside [4, 253]"
  | asduTooLong length => s!"ASDU of {length} bytes exceeds 249"
  | asduRefused => "only I-frames carry an ASDU"
  | asduMissing => "I-frame without ASDU"
  | unexpectedOctets control count => s!"{control.text} carries {count} unexpected bytes"
  | endWithinFrame => "stream ended mid-frame"
  | text description => description

/-! ### The state of the link -/

/-- What is out of place in the present state of the link. -/
inductive ProtocolFault
  /-- An activation was sent before and is not yet confirmed. -/
  | unconfirmed (function : LinkFunction)
  /-- A call is waiting for the start of data transfer already. -/
  | alreadyWaiting
  | informationWhileStopped
  | supervisoryWhileStopped
  /-- A confirmation that answers no activation. -/
  | unsolicited (function : LinkFunction)
  | text (description : String)
  deriving DecidableEq, Repr

/-- The wording of a protocol fault. -/
def ProtocolFault.message : ProtocolFault → String
  | unconfirmed function => s!"{function.text} still awaiting confirmation"
  | alreadyWaiting => "already waiting for STARTDT act"
  | informationWhileStopped => "I-frame received while data transfer is stopped"
  | supervisoryWhileStopped => "S-frame received while data transfer is stopped"
  | unsolicited function => s!"unsolicited {function.text}"
  | text description => description

/-- The time limits whose passing ends a connection. -/
inductive TimeLimit
  /-- A frame was not acknowledged, or an activation not confirmed, within t1. -/
  | acknowledgment
  /-- Data transfer was not started within the time that a caller allowed. -/
  | start
  deriving DecidableEq, Repr

/-- The name of a time limit. -/
def TimeLimit.text : TimeLimit → String
  | acknowledgment => "t1"
  | start => "STARTDT"

/-- How the octet stream under a connection failed. -/
inductive StreamFailure
  /-- The other station ended the stream between two frames. -/
  | endOfStream
  /-- The operating system reported a failure of a named kind. -/
  | system (kind : String)
  deriving DecidableEq, Repr

/-- The class of a stream failure. -/
def StreamFailure.text : StreamFailure → String
  | endOfStream => "EndOfStream"
  | system kind => s!"Io({kind})"

/-! ### Application service data units -/

/-- The time tags whose octets can be cut short. -/
inductive TimeTag
  | time56
  | time24
  | time16
  deriving DecidableEq, Repr

/-- The name of a time tag in the standard. -/
def TimeTag.text : TimeTag → String
  | time56 => "CP56Time2a"
  | time24 => "CP24Time2a"
  | time16 => "CP16Time2a"

/-- Why octets are not an application service data unit, or one cannot be sent. -/
inductive AsduFault
  /-- Fewer octets are left than an element of the kind has. -/
  | elementTruncated (kind : ElementKind) (left : Nat)
  | testPattern (number : Nat)
  | segmentLengthMissing
  /-- Fewer octets are left than the segment has. -/
  | segmentTruncated (length left : Nat)
  | stepPosition (value : Int8)
  | fileLength (length : UInt32)
  /-- A segment whose length exceeds one octet. -/
  | segmentTooLong
  | timeTruncated (tag : TimeTag)
  /-- An instant outside the calendar. -/
  | instantRange
  /-- An offset from universal time of a day or more. -/
  | offsetRange
  /-- A time tag that is no date of the calendar. -/
  | noDate
  /-- A time tag that is an instant outside the calendar. -/
  | dateRange
  | headerTruncated (length header : Nat)
  | addressTruncated
  /-- Octets are left after the announced number of objects. -/
  | trailingOctets (left count : Nat)
  | commonAddressRange (address : UInt16) (width : Nat)
  | countRange
  /-- A sequence of elements that is not held by exactly one object. -/
  | sequenceObjects (count : Nat)
  /-- An object that does not hold exactly one element set. -/
  | objectSets (address : UInt32) (count : Nat)
  | setCount (count : Nat)
  | objectAddressRange (address width : Nat)
  | layoutMismatch (type : AsduType)
  /-- Fewer octets are left than an element set of the type has. -/
  | extensionTruncated (code : UInt8)
  | text (description : String)
  deriving DecidableEq, Repr

/-- The wording of a fault in an application service data unit. -/
def AsduFault.message : AsduFault → String
  | elementTruncated kind left =>
    s!"{kind.name} element needs {kind.width?.getD 1} bytes, {left} left"
  | testPattern number => s!"fixed test bit pattern 0x{hexadecimal 4 number} is not 0x55AA"
  | segmentLengthMissing => "segment length missing"
  | segmentTruncated length left => s!"segment of {length} bytes truncated to {left}"
  | stepPosition value => s!"step position {value} outside -64..=63"
  | fileLength length => s!"file length {length} exceeds 24 bits"
  | segmentTooLong => "segment exceeds 255 bytes"
  | timeTruncated tag => s!"{tag.text} too short"
  | instantRange => "timestamp out of range"
  | offsetRange => "UTC offset out of range"
  | noDate => "CP56Time2a does not denote a calendar date"
  | dateRange => "CP56Time2a out of range"
  | headerTruncated length header =>
    s!"ASDU of {length} bytes shorter than its {header}-byte header"
  | addressTruncated => "information object address truncated"
  | trailingOctets left count =>
    s!"{left} trailing bytes after {count} information objects"
  | commonAddressRange address width =>
    s!"common address {address} does not fit {width} byte(s)"
  | countRange => "VSQ count exceeds 127"
  | sequenceObjects count => s!"SQ=1 ASDU must hold exactly one object, got {count}"
  | objectSets address count =>
    s!"SQ=0 object {address} must hold exactly one element set, got {count}"
  | setCount count => s!"{count} element sets exceed the VSQ limit of 127"
  | objectAddressRange address width =>
    s!"information object address {address} does not fit {width} byte(s)"
  | layoutMismatch type => s!"element set does not match the layout of {type.mnemonic}"
  | extensionTruncated code => s!"short custom element of type {code}"
  | text description => description

/-! ### Settings -/

/-- The times among the settings of a connection. -/
inductive TimeSetting
  | t1
  | t2
  | t3
  | handshake
  | response
  deriving DecidableEq, Repr

/-- The name of a time among the settings. -/
def TimeSetting.text : TimeSetting → String
  | t1 => "t1"
  | t2 => "t2"
  | t3 => "t3"
  | handshake => "handshake timeout"
  | response => "response timeout"

/-- Why settings cannot be used. -/
inductive SettingsFault
  | causeWidth (width : Nat)
  | commonAddressWidth (width : Nat)
  | objectAddressWidth (width : Nat)
  /-- One of the window sizes is out of range. -/
  | windowRange (k w : UInt16)
  /-- Acknowledgments are sent after more frames than may be outstanding. -/
  | windowOrder (k w : UInt16)
  /-- A time is zero. -/
  | zeroTime (setting : TimeSetting)
  /-- An originator address without a field for it. -/
  | originatorField (address : UInt8)
  /-- The delay of acknowledgments is not shorter than the time limit for them. -/
  | acknowledgmentDelay (t2 t1 : Nat)
  | text (description : String)
  deriving DecidableEq, Repr

/-- The wording of a settings fault. -/
def SettingsFault.message : SettingsFault → String
  | causeWidth width => s!"COT field length must be 1 or 2, got {width}"
  | commonAddressWidth width => s!"common address field length must be 1 or 2, got {width}"
  | objectAddressWidth width => s!"IOA field length must be 1 to 3, got {width}"
  | windowRange k w => s!"k and w must be within 1..=32767, got k={k} w={w}"
  | windowOrder k w => s!"w ({w}) must not exceed k ({k})"
  | zeroTime setting => s!"{setting.text} must be non-zero"
  | originatorField address =>
    s!"originator address {address} needs a two-octet COT field"
  | acknowledgmentDelay t2 t1 =>
    s!"t2 ({Duration.text t2}) must be shorter than t1 ({Duration.text t1})"
  | text description => description

/-! ### All faults -/

/-- What can go wrong on a connection. -/
inductive Fault
  /-- A malformed or oversized frame. -/
  | framing (cause : FramingFault)
  /-- A frame out of order, or the acknowledgment of a frame that was not sent. -/
  | sequence (expected actual : UInt16)
  /-- A frame or a call that the state of the link does not allow. -/
  | protocolState (cause : ProtocolFault)
  | timeout (limit : TimeLimit)
  /-- The octet stream ended or failed. -/
  | transport (failure : StreamFailure) (description : String)
  | invalidAsdu (cause : AsduFault)
  /-- A type identification without a known layout. -/
  | unknownType (code : UInt8)
  /-- A cause of transmission that exceeds its six bits. -/
  | unknownCause (code : UInt8)
  | notStarted
  | responseTimeout
  /-- The connection was closed by this station. -/
  | connectionClosed
  | config (cause : SettingsFault)
  deriving DecidableEq, Repr

namespace Fault

/-- The other station ended the stream between two frames. -/
def endOfStream : Fault := transport .endOfStream "stream closed by peer"

/-- A failure that the operating system reports; an unexpected end counts as the end of the
stream. -/
def ofSystem (kind description : String) : Fault :=
  transport (if kind = "UnexpectedEof" then .endOfStream else .system kind) description

/-- The connection stays usable after the fault. -/
def isRecoverable : Fault → Bool
  | notStarted | responseTimeout | config _ => true
  | _ => false

/-- The fault ends the connection on which it arises. -/
def isFatal (fault : Fault) : Bool := !fault.isRecoverable

/-- The wording of a fault. -/
def message : Fault → String
  | framing cause => s!"Framing error: {cause.message}"
  | sequence expected actual => s!"Sequence error: expected {expected}, got {actual}"
  | protocolState cause => s!"Protocol state error: {cause.message}"
  | timeout limit => s!"{limit.text} timeout"
  | transport failure description => s!"Transport error ({failure.text}): {description}"
  | invalidAsdu cause => s!"Invalid ASDU: {cause.message}"
  | unknownType code => s!"Unknown type ID: {code}"
  | unknownCause code => s!"Unknown COT: {code}"
  | notStarted => "Data transfer not started"
  | responseTimeout => "Response timeout"
  | connectionClosed => "Connection closed"
  | config cause => s!"Configuration error: {cause.message}"

end Fault

end Telecontrol
