/-!
# Flag sets

Quality descriptors and status octets are sets of named flags at fixed bit positions.
`FlagSet` names the sets, `FlagSet.flags` lists the flags of each, and `Flags set` are some
of them, kept as the octet that carries them. Reading drops bits that no flag uses
(`Flags.ofBits`). Flags that are put together may have such bits, unless they are
`Flags.Defined`.
-/

namespace Telecontrol

/-- The kinds of flag sets. -/
inductive FlagSet
  /-- Quality descriptor of measured values and of single and double points. -/
  | quality
  /-- Quality descriptor of events of protection equipment. -/
  | protectionQuality
  /-- State of a binary counter reading. -/
  | counter
  /-- Start events of protection equipment. -/
  | protectionStart
  /-- Output circuits of protection equipment. -/
  | outputCircuit
  /-- State of a file in a directory. -/
  | fileStatus
  deriving DecidableEq, Repr

namespace FlagSet

/-- The flags of a set, each with its bit, lowest bit first. -/
def flags : FlagSet → List (String × UInt8)
  | quality =>
    [("OVERFLOW", 0x01), ("BLOCKED", 0x10), ("SUBSTITUTED", 0x20), ("NOT_TOPICAL", 0x40),
      ("INVALID", 0x80)]
  | protectionQuality =>
    [("ELAPSED_TIME_INVALID", 0x08), ("BLOCKED", 0x10), ("SUBSTITUTED", 0x20),
      ("NOT_TOPICAL", 0x40), ("INVALID", 0x80)]
  | counter => [("CARRY", 0x20), ("ADJUSTED", 0x40), ("INVALID", 0x80)]
  | protectionStart =>
    [("GENERAL", 0x01), ("PHASE_L1", 0x02), ("PHASE_L2", 0x04), ("PHASE_L3", 0x08),
      ("EARTH_CURRENT", 0x10), ("REVERSE_DIRECTION", 0x20)]
  | outputCircuit =>
    [("GENERAL", 0x01), ("PHASE_L1", 0x02), ("PHASE_L2", 0x04), ("PHASE_L3", 0x08)]
  | fileStatus => [("LAST_FILE", 0x20), ("DIRECTORY", 0x40), ("TRANSFER_ACTIVE", 0x80)]

/-- The bits that some flag of the set uses. -/
def mask (set : FlagSet) : UInt8 := set.flags.foldl (fun bits flag => bits ||| flag.2) 0

end FlagSet

/-- The octet of some flags of a set; its other bits need not be clear (see `Flags.Defined`). -/
structure Flags (set : FlagSet) where
  bits : UInt8
  deriving DecidableEq, Repr

namespace Flags

variable {set : FlagSet}

/-- The flags whose bits are set in an octet; its other bits are dropped. -/
def ofBits (octet : UInt8) : Flags set := ⟨octet &&& set.mask⟩

/-- No bit is set that is not a flag. -/
def Defined (flags : Flags set) : Prop := flags.bits &&& set.mask = flags.bits

theorem Defined.ofBits_bits {flags : Flags set} (h : flags.Defined) :
    ofBits flags.bits = flags :=
  congrArg mk h

theorem defined_ofBits (octet : UInt8) : (ofBits octet : Flags set).Defined := by
  rw [Defined, ofBits, UInt8.and_assoc, UInt8.and_self]

@[simp] theorem ofBits_idem (octet : UInt8) :
    (ofBits (ofBits octet : Flags set).bits : Flags set) = ofBits octet :=
  (defined_ofBits octet).ofBits_bits

instance : Inhabited (Flags set) := ⟨ofBits 0⟩

/-- The names of the chosen flags, lowest bit first. -/
def names (flags : Flags set) : List String :=
  (set.flags.filter fun flag => flags.bits &&& flag.2 == flag.2).map (·.1)

/-- Whether no bit is set. -/
def isEmpty (flags : Flags set) : Bool := flags.bits == 0

/-- Whether every flag of the set is chosen. -/
def isAll (flags : Flags set) : Bool := flags.bits &&& set.mask == set.mask

/-- A quality descriptor is good when it reports no defect. -/
def isGood (quality : Flags .quality) : Bool := quality.isEmpty

end Flags

end Telecontrol
