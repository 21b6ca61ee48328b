import Telecontrol.Asdu.Type
import Telecontrol.Cause
import Telecontrol.Element.Basic

/-!
# Application service data units

An `Asdu` tells a type, a cause, a station and either information objects or, for types of
private use, octets that are kept as they are.

Objects are arranged in one of two ways. Without the sequence bit every object has an
address of its own and one element set; with it there is one object whose element sets
belong to consecutive addresses (`InformationObject.addressedSets`).
-/

namespace Telecontrol

/-- The structure qualifier: a number of objects or element sets, and how they are
arranged. -/
structure StructureQualifier where
  /-- Number of objects or element sets, 7 bits. -/
  count : UInt8
  sequence : Bool
  deriving DecidableEq, Repr

namespace StructureQualifier

/-- The qualifier in an octet. -/
def ofOctet (octet : UInt8) : StructureQualifier :=
  ⟨UInt8.ofNat (bits octet.toNat 0 7), octet.toNat.testBit 7⟩

/-- The octet of a qualifier. -/
def octet (q : StructureQualifier) : UInt8 :=
  UInt8.ofNat (q.count.toNat % 128 + 128 * q.sequence.toNat)

end StructureQualifier

/-- The elements that belong to one address. -/
abbrev ElementSet := List Element

/-- An information object. -/
structure InformationObject where
  /-- The address of the first element set. -/
  address : UInt32
  /-- The element sets; more than one only if they have consecutive addresses. -/
  sets : List ElementSet
  deriving DecidableEq

/-- The element sets of an object, each with its address. -/
def InformationObject.addressedSets (o : InformationObject) : List (UInt32 × ElementSet) :=
  o.sets.mapIdx fun i set => (o.address + UInt32.ofNat i, set)

/-- What an application service data unit carries. -/
inductive AsduBody
  | objects (objects : List InformationObject)
  /-- Octets of a type of private use, with the announced count. -/
  | verbatim (count : UInt8) (data : Octets)
  deriving DecidableEq

/-- An application service data unit. -/
structure Asdu where
  type : TypeIdentification
  sequence : Bool := false
  cause : Cause
  test : Bool := false
  negative : Bool := false
  /-- The originator address, sent only with a cause field of two octets. -/
  originator : UInt8 := 0
  commonAddress : UInt16
  body : AsduBody
  deriving DecidableEq

/-- The largest number of objects or element sets that can be announced. -/
def maxCount : Nat := 127

namespace Asdu

/-- A unit of a standard type with one object that has one element set. -/
def single (type : AsduType) (cause : Cause) (commonAddress : UInt16) (address : UInt32)
    (elements : ElementSet) : Asdu where
  type := .standard type
  cause := cause
  commonAddress := commonAddress
  body := .objects [⟨address, [elements]⟩]

/-- A unit of a standard type whose element sets have consecutive addresses. -/
def consecutive (type : AsduType) (cause : Cause) (commonAddress : UInt16) (address : UInt32)
    (sets : List ElementSet) : Asdu where
  type := .standard type
  sequence := true
  cause := cause
  commonAddress := commonAddress
  body := .objects [⟨address, sets⟩]

/-- The standard type, if it is one. -/
def type? (a : Asdu) : Option AsduType := a.type.type?

/-- The information objects; none if the octets were kept as they are. -/
def objects (a : Asdu) : List InformationObject :=
  match a.body with
  | .objects objects => objects
  | .verbatim _ _ => []

/-- The address of the first object. -/
def firstAddress? (a : Asdu) : Option UInt32 := a.objects.head?.map (·.address)

/-- The number that the structure qualifier has to announce. -/
def count (a : Asdu) : Nat :=
  match a.body with
  | .objects objects =>
    if a.sequence then (objects.head?.map fun o => o.sets.length).getD 0 else objects.length
  | .verbatim count _ => count.toNat

/-- The structure qualifier; a number that is too large for it is cut to the largest. -/
def structureQualifier (a : Asdu) : StructureQualifier :=
  ⟨UInt8.ofNat (min a.count maxCount), a.sequence⟩

/-- The confirmation of a request, which repeats the request with the confirming cause. -/
def confirmation (a : Asdu) (negative : Bool) : Asdu :=
  { a with cause := a.cause.confirmation, negative := negative }

/-- The unit in short notation. -/
def text (a : Asdu) : String :=
  s!"[{a.type.text}] COT={a.cause.text} CA={a.commonAddress}" ++
    (if a.test then " test" else "") ++
    (if a.negative then " negative" else "") ++
    match a.body with
    | .objects objects => s!" objects={objects.length}"
    | .verbatim _ data => s!" private={data.length}B"

end Asdu

end Telecontrol
