import Telecontrol.Asdu.Basic

/-!
# Commands and file transfer

`Command` lists what a controlling station asks of a controlled one, and the messages by
which files are transferred. `Command.asdu` is the unit that asks for it, with the
originator address of the asking station; `Command.isConfirmed` says whether the other
station confirms it.

Commands about a whole station have the object address 0. Switching commands may bring a
time tag, which changes their type.

The confirmation of a received unit is not among them. It is not assembled from fields but repeats
the unit, with the originator address of the station that asked (`Asdu.confirmation`); a session
sends it by an action of its own (`Action.confirm`).
-/

namespace Telecontrol

/-- How a switching command is given. -/
structure CommandOptions where
  /-- Select the equipment only, and do not execute the command yet. -/
  select : Bool := false
  /-- Qualifier of the command, 5 bits, or of the set-point, 7 bits. -/
  qualifier : UInt8 := 0
  time : Option Time56 := none
  deriving DecidableEq, Repr

namespace CommandOptions

/-- The type of a command, with or without time tag. -/
def pick (o : CommandOptions) (plain timed : AsduType) : AsduType :=
  if o.time.isSome then timed else plain

/-- The elements of a command, with the time tag if there is one. -/
def withTime (o : CommandOptions) (elements : ElementSet) : ElementSet :=
  elements ++ (o.time.map Element.time56).toList

/-- The qualifier of a set-point command. -/
def setpoint (o : CommandOptions) : Element := .setpointQualifier o.qualifier o.select

end CommandOptions

/-- A file in a directory. -/
structure DirectoryEntry where
  file : UInt16
  /-- Length of the file, 24 bits. -/
  length : UInt32
  /-- Status, 5 bits. -/
  status : UInt8
  flags : Flags .fileStatus
  created : Time56
  deriving DecidableEq

/-- The element set of a file in a directory. -/
def DirectoryEntry.elements (e : DirectoryEntry) : ElementSet :=
  [.fileName e.file, .fileLength e.length, .fileStatus e.status e.flags, .time56 e.created]

/-- The qualifier of a parameter that is set. -/
def parameterQualifier (kind : UInt8) : Element := .measuredParameterQualifier kind false false

/-- What is asked of another station. -/
inductive Command
  /-- Interrogate the station (qualifier 20) or a group of objects (21 to 36). -/
  | interrogation (qualifier : UInt8)
  /-- Interrogate counters, or cancel that by deactivation. -/
  | counterInterrogation (cause : Cause) (request freeze : UInt8)
  | read (address : UInt32)
  | clockSynchronization (time : Time56)
  | test
  | testWithTime (counter : UInt16) (time : Time56)
  | resetProcess (qualifier : UInt8)
  | delayAcquisition (delay : Time16)
  | single (address : UInt32) (on : Bool) (options : CommandOptions)
  | double (address : UInt32) (state : DoublePointState) (options : CommandOptions)
  | regulatingStep (address : UInt32) (state : StepCommandState) (options : CommandOptions)
  | setpointNormalized (address : UInt32) (value : Int16) (options : CommandOptions)
  | setpointScaled (address : UInt32) (value : Int16) (options : CommandOptions)
  /-- Set a short floating point number, given by its bits. -/
  | setpointFloat (address : UInt32) (encoding : UInt32) (options : CommandOptions)
  /-- Set 32 bits; of the options only the time tag applies. -/
  | bitstring (address : UInt32) (value : UInt32) (options : CommandOptions)
  | parameterNormalized (address : UInt32) (value : Int16) (kind : UInt8)
  | parameterScaled (address : UInt32) (value : Int16) (kind : UInt8)
  /-- Set a parameter to a short floating point number, given by its bits. -/
  | parameterFloat (address : UInt32) (encoding : UInt32) (kind : UInt8)
  | parameterActivation (address : UInt32) (qualifier : UInt8)
  | fileReady (address : UInt32) (file : UInt16) (length : UInt32) (qualifier : UInt8)
    (negative : Bool)
  | sectionReady (address : UInt32) (file : UInt16) (sectionName : UInt8) (length : UInt32)
    (qualifier : UInt8) (notReady : Bool)
  /-- Call a directory, or select or call a file or section. -/
  | selectCall (cause : Cause) (address : UInt32) (file : UInt16) (sectionName : UInt8)
    (qualifier : UInt8)
  /-- The last section or segment was sent. -/
  | lastSection (address : UInt32) (file : UInt16) (sectionName : UInt8) (qualifier : UInt8)
    (checksum : UInt8)
  /-- A file or section was received. -/
  | acknowledgeFile (address : UInt32) (file : UInt16) (sectionName : UInt8)
    (action notice : UInt8)
  | segment (address : UInt32) (file : UInt16) (sectionName : UInt8) (data : Octets)
  /-- Files at consecutive addresses. -/
  | directory (address : UInt32) (entries : List DirectoryEntry)
  /-- Request an archive file of a span of time. -/
  | queryLog (address : UInt32) (file : UInt16) (start stop : Time56)
  deriving DecidableEq

namespace Command

/-- The unit of a command, without originator address. -/
def unit (commonAddress : UInt16) : Command → Asdu
  | interrogation qualifier =>
    .single .interrogation .activation commonAddress 0 [.interrogationQualifier qualifier]
  | counterInterrogation cause request freeze =>
    .single .counterInterrogation cause commonAddress 0 [.counterQualifier request freeze]
  | read address => .single .read .request commonAddress address []
  | clockSynchronization time =>
    .single .clockSynchronization .activation commonAddress 0 [.time56 time]
  | test => .single .testCommand .activation commonAddress 0 [.fixedTestPattern]
  | testWithTime counter time =>
    .single .testCommandTime56 .activation commonAddress 0
      [.testSequenceCounter counter, .time56 time]
  | resetProcess qualifier =>
    .single .resetProcess .activation commonAddress 0 [.resetQualifier qualifier]
  | delayAcquisition delay =>
    .single .delayAcquisition .activation commonAddress 0 [.time16 delay]
  | single address on options =>
    .single (options.pick .singleCommand .singleCommandTime56) .activation commonAddress
      address (options.withTime [.singleCommand on options.qualifier options.select])
  | double address state options =>
    .single (options.pick .doubleCommand .doubleCommandTime56) .activation commonAddress
      address (options.withTime [.doubleCommand state options.qualifier options.select])
  | regulatingStep address state options =>
    .single (options.pick .regulatingStep .regulatingStepTime56) .activation commonAddress
      address (options.withTime [.regulatingStep state options.qualifier options.select])
  | setpointNormalized address value options =>
    .single (options.pick .setpointNormalized .setpointNormalizedTime56) .activation
      commonAddress address (options.withTime [.normalized value, options.setpoint])
  | setpointScaled address value options =>
    .single (options.pick .setpointScaled .setpointScaledTime56) .activation commonAddress
      address (options.withTime [.scaled value, options.setpoint])
  | setpointFloat address encoding options =>
    .single (options.pick .setpointFloat .setpointFloatTime56) .activation commonAddress
      address (options.withTime [.shortFloat encoding, options.setpoint])
  | bitstring address value options =>
    .single (options.pick .bitstringCommand .bitstringCommandTime56) .activation
      commonAddress address (options.withTime [.bitstring value])
  | parameterNormalized address value kind =>
    .single .parameterNormalized .activation commonAddress address
      [.normalized value, parameterQualifier kind]
  | parameterScaled address value kind =>
    .single .parameterScaled .activation commonAddress address
      [.scaled value, parameterQualifier kind]
  | parameterFloat address encoding kind =>
    .single .parameterFloat .activation commonAddress address
      [.shortFloat encoding, parameterQualifier kind]
  | parameterActivation address qualifier =>
    .single .parameterActivation .activation commonAddress address
      [.parameterActivationQualifier qualifier]
  | fileReady address file length qualifier negative =>
    .single .fileReady .fileTransfer commonAddress address
      [.fileName file, .fileLength length, .fileReady qualifier negative]
  | sectionReady address file sectionName length qualifier notReady =>
    .single .sectionReady .fileTransfer commonAddress address
      [.fileName file, .sectionName sectionName, .fileLength length,
        .sectionReady qualifier notReady]
  | selectCall cause address file sectionName qualifier =>
    .single .selectCall cause commonAddress address
      [.fileName file, .sectionName sectionName, .selectCall qualifier]
  | lastSection address file sectionName qualifier checksum =>
    .single .lastSection .fileTransfer commonAddress address
      [.fileName file, .sectionName sectionName, .lastSection qualifier, .checksum checksum]
  | acknowledgeFile address file sectionName action notice =>
    .single .acknowledgeFile .fileTransfer commonAddress address
      [.fileName file, .sectionName sectionName, .acknowledgeFile action notice]
  | segment address file sectionName data =>
    .single .segment .fileTransfer commonAddress address
      [.fileName file, .sectionName sectionName, .segment data]
  | directory address entries =>
    .consecutive .directory .fileTransfer commonAddress address
      (entries.map DirectoryEntry.elements)
  | queryLog address file start stop =>
    .single .queryLog .fileTransfer commonAddress address
      [.fileName file, .time56 start, .time56 stop]

/-- The unit of a command to a station. -/
def asdu (c : Command) (originator : UInt8) (commonAddress : UInt16) : Asdu :=
  { c.unit commonAddress with originator := originator }

/-- The other station confirms the command; reading is answered by the object itself, and
the messages of file transfer by each other. -/
def isConfirmed : Command → Bool
  | read _ | fileReady .. | sectionReady .. | selectCall .. | lastSection ..
  | acknowledgeFile .. | segment .. | directory .. | queryLog .. => false
  | _ => true

end Command

end Telecontrol
