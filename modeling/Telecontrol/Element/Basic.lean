import Telecontrol.Element.Kind
import Telecontrol.Flags
import Telecontrol.Time.Tag

/-!
# Information elements

`Element` has one constructor for each kind of information element, and `raw` for octets of
types outside the standard. `Element.kind?` is the kind of an element and
`Element.encodedLength` the number of octets it takes.
-/

namespace Telecontrol

/-- The state of a double point, a double command or an event of protection equipment. -/
inductive DoublePointState
  /-- Intermediate (0), not permitted in commands. -/
  | indeterminate
  | off
  | on
  /-- Indeterminate or faulty (3), not permitted in commands. -/
  | faulty
  deriving DecidableEq, Repr

/-- The state of a regulating step command. -/
inductive StepCommandState
  | notPermitted
  /-- Next step lower (1). -/
  | lower
  /-- Next step higher (2). -/
  | higher
  | invalid
  deriving DecidableEq, Repr

namespace DoublePointState

/-- The two bits of a state. -/
def number : DoublePointState → Nat
  | indeterminate => 0
  | off => 1
  | on => 2
  | faulty => 3

/-- The state in the two low bits of a number. -/
def ofNumber (n : Nat) : DoublePointState :=
  match n % 4 with
  | 0 => indeterminate
  | 1 => off
  | 2 => on
  | _ => faulty

end DoublePointState

namespace StepCommandState

/-- The two bits of a state. -/
def number : StepCommandState → Nat
  | notPermitted => 0
  | lower => 1
  | higher => 2
  | invalid => 3

/-- The state in the two low bits of a number. -/
def ofNumber (n : Nat) : StepCommandState :=
  match n % 4 with
  | 0 => notPermitted
  | 1 => lower
  | 2 => higher
  | _ => invalid

end StepCommandState

/-- An information element. -/
inductive Element
  | singlePoint (on : Bool) (quality : Flags .quality)
  | doublePoint (state : DoublePointState) (quality : Flags .quality)
  /-- Step position from -64 to 63, with an indication that the equipment is moving. -/
  | stepPosition (value : Int8) (transient : Bool)
  | bitstring (value : UInt32)
  /-- Normalized value: a fraction in units of 2 ^ -15. -/
  | normalized (value : Int16)
  | scaled (value : Int16)
  /-- Short floating point number, as its 32 bits. -/
  | shortFloat (encoding : UInt32)
  | quality (quality : Flags .quality)
  /-- Binary counter reading with a five-bit sequence number. -/
  | counter (value : Int32) (sequence : UInt8) (flags : Flags .counter)
  | protectionEvent (state : DoublePointState) (quality : Flags .protectionQuality)
  | protectionStart (events : Flags .protectionStart)
  | outputCircuit (circuits : Flags .outputCircuit)
  | protectionQuality (quality : Flags .protectionQuality)
  /-- States of sixteen single points, and which of them have changed. -/
  | statusChanges (status changes : UInt16)
  | singleCommand (on : Bool) (qualifier : UInt8) (select : Bool)
  | doubleCommand (state : DoublePointState) (qualifier : UInt8) (select : Bool)
  | regulatingStep (state : StepCommandState) (qualifier : UInt8) (select : Bool)
  | setpointQualifier (qualifier : UInt8) (select : Bool)
  | interrogationQualifier (value : UInt8)
  | counterQualifier (request freeze : UInt8)
  | measuredParameterQualifier (kind : UInt8) (change notInOperation : Bool)
  | parameterActivationQualifier (value : UInt8)
  | resetQualifier (value : UInt8)
  | initializationCause (cause : UInt8) (afterParameterChange : Bool)
  | fixedTestPattern
  | testSequenceCounter (value : UInt16)
  /-- Elapsed time. -/
  | time16 (time : Time16)
  | time24 (time : Time24)
  | time56 (time : Time56)
  | fileName (value : UInt16)
  | sectionName (value : UInt8)
  /-- Length of a file or section, 24 bits. -/
  | fileLength (value : UInt32)
  | fileReady (qualifier : UInt8) (negative : Bool)
  | sectionReady (qualifier : UInt8) (notReady : Bool)
  | selectCall (value : UInt8)
  | lastSection (value : UInt8)
  | checksum (value : UInt8)
  | acknowledgeFile (action notice : UInt8)
  | fileStatus (status : UInt8) (flags : Flags .fileStatus)
  | segment (data : Octets)
  /-- Octets of a type outside the standard. -/
  | raw (data : Octets)
  deriving DecidableEq

namespace Element

/-- The kind of an element; `none` for octets outside the standard. -/
def kind? : Element → Option ElementKind
  | singlePoint .. => some .siq
  | doublePoint .. => some .diq
  | stepPosition .. => some .vti
  | bitstring .. => some .bsi
  | normalized .. => some .nva
  | scaled .. => some .sva
  | shortFloat .. => some .float
  | quality .. => some .qds
  | counter .. => some .bcr
  | protectionEvent .. => some .sep
  | protectionStart .. => some .spe
  | outputCircuit .. => some .oci
  | protectionQuality .. => some .qdp
  | statusChanges .. => some .scd
  | singleCommand .. => some .sco
  | doubleCommand .. => some .dco
  | regulatingStep .. => some .rco
  | setpointQualifier .. => some .qos
  | interrogationQualifier .. => some .qoi
  | counterQualifier .. => some .qcc
  | measuredParameterQualifier .. => some .qpm
  | parameterActivationQualifier .. => some .qpa
  | resetQualifier .. => some .qrp
  | initializationCause .. => some .coi
  | fixedTestPattern => some .fbp
  | testSequenceCounter .. => some .tsc
  | time16 .. => some .time16
  | time24 .. => some .time24
  | time56 .. => some .time56
  | fileName .. => some .nof
  | sectionName .. => some .nos
  | fileLength .. => some .lof
  | fileReady .. => some .frq
  | sectionReady .. => some .srq
  | selectCall .. => some .scq
  | lastSection .. => some .lsq
  | checksum .. => some .chs
  | acknowledgeFile .. => some .afq
  | fileStatus .. => some .sof
  | segment .. => some .segment
  | raw .. => none

/-- The octets that an element takes. -/
def encodedLength (e : Element) : Nat :=
  match e with
  | segment data => 1 + data.length
  | raw data => data.length
  | _ => (e.kind?.bind (·.width?)).getD 0

/-- The bits of a short floating point number that equals `value / 2 ^ 15`: a number below
2 ^ 24 in magnitude needs no rounding, so its leading bit fixes the exponent and the other
bits, moved to the left end, are the significand. -/
def fractionEncoding (value : Int16) : UInt32 :=
  let magnitude := value.toInt.natAbs
  if magnitude = 0 then 0
  else
    let exponent := magnitude.log2
    let sign := if value.toInt < 0 then 1 <<< 31 else 0
    UInt32.ofNat
      (sign + (exponent + 112) <<< 23 + (magnitude - 1 <<< exponent) <<< (23 - exponent))

/-- The value of a normalized element as the bits of a short floating point number. -/
def fraction? : Element → Option UInt32
  | normalized value => some (fractionEncoding value)
  | _ => none

end Element

end Telecontrol
