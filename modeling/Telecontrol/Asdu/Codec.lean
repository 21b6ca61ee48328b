import Telecontrol.Asdu.Basic
import Telecontrol.Element.Codec
import Telecontrol.Settings

/-!
# Application service data units on the wire

A unit is a header followed by its information objects. The header holds the type, the
structure qualifier, the cause with its flags, an originator address if the cause field has
two octets, and the common address.

* `AsduFormat` fixes the widths of the fields, and may bring an `Extension` that knows the
  element sets of types outside the standard;
* `AsduFormat.decode` reads a unit, `AsduFormat.encode` writes one;
* `AsduFormat.fault?` says why a unit cannot be written, the first reason found in the order
  station, arrangement, number, addresses, elements.
-/

namespace Telecontrol

/-- Element sets of reserved and private types. -/
structure Extension where
  /-- Whether the element sets of a type are known. -/
  handles : UInt8 → Bool
  /-- The element set of a type at the head of a string of octets, and the octets after
  it. -/
  decodeSet : UInt8 → Octets → Except Fault (ElementSet × Octets)

/-- The extension that takes an element set of the given types to be a fixed number of
octets. -/
def Extension.ofWidth (codes : List UInt8) (width : Nat) : Extension where
  handles code := codes.contains code
  decodeSet code octets :=
    if octets.length < width then .error (.invalidAsdu (.extensionTruncated code))
    else .ok ([.raw (octets.take width)], octets.drop width)

/-- The widths of the fields of a unit, in octets. -/
structure AsduFormat where
  /-- Cause of transmission, 1 or 2. -/
  causeWidth : Nat := 2
  /-- Common address, 1 or 2. -/
  commonAddressWidth : Nat := 2
  /-- Information object address, 1 to 3. -/
  objectAddressWidth : Nat := 3
  /-- The element sets of types outside the standard. -/
  extension : Option Extension := none

/-- The widths that the settings of a connection fix. -/
def Settings.format (s : Settings) (extension : Option Extension) : AsduFormat :=
  ⟨s.causeWidth, s.commonAddressWidth, s.objectAddressWidth, extension⟩

/-- Read a number of items one after the other. -/
def readMany {α : Type} (read : Octets → Except Fault (α × Octets)) :
    Nat → Octets → Except Fault (List α × Octets)
  | 0, octets => .ok ([], octets)
  | n + 1, octets => do
    let (item, octets) ← read octets
    let (items, octets) ← readMany read n octets
    return (item :: items, octets)

/-- Write items one after the other. -/
def writeAll {α : Type} (write : α → Except Fault Octets) : List α → Except Fault Octets
  | [] => .ok []
  | item :: items => do
    let first ← write item
    let rest ← writeAll write items
    return first ++ rest

/-- Read elements of the given kinds one after the other. -/
def decodeSet : List ElementKind → Octets → Except Fault (ElementSet × Octets)
  | [], octets => .ok ([], octets)
  | kind :: kinds, octets => do
    let (element, octets) ← kind.decode octets
    let (elements, octets) ← decodeSet kinds octets
    return (element :: elements, octets)

namespace AsduFormat

/-- The octets of the header. -/
def headerLength (f : AsduFormat) : Nat := 2 + f.causeWidth + f.commonAddressWidth

/-- The object address at the head of a string of octets, and the octets after it. -/
def decodeAddress (f : AsduFormat) (octets : Octets) : Except Fault (UInt32 × Octets) :=
  if octets.length < f.objectAddressWidth then .error (.invalidAsdu .addressTruncated)
  else .ok (UInt32.ofNat (Octets.toNat (octets.take f.objectAddressWidth)),
    octets.drop f.objectAddressWidth)

/-- An object with its own address and one element set. -/
def decodeObject (f : AsduFormat) (readSet : Octets → Except Fault (ElementSet × Octets))
    (octets : Octets) : Except Fault (InformationObject × Octets) := do
  let (address, octets) ← f.decodeAddress octets
  let (set, octets) ← readSet octets
  return (⟨address, [set]⟩, octets)

/-- The objects that the structure qualifier announces. Element sets with consecutive
addresses make up one object; if there are none, there is no address either. -/
def decodeObjects (f : AsduFormat) (q : StructureQualifier)
    (readSet : Octets → Except Fault (ElementSet × Octets)) (octets : Octets) :
    Except Fault (List InformationObject × Octets) :=
  if q.sequence then
    if q.count = 0 then .ok ([], octets)
    else do
      let (address, octets) ← f.decodeAddress octets
      let (sets, octets) ← readMany readSet q.count.toNat octets
      return ([⟨address, sets⟩], octets)
  else readMany (f.decodeObject readSet) q.count.toNat octets

/-- What follows the header of a unit, and the octets after it. A reserved type needs an
extension; a private one without it is kept as it is. -/
def decodeBody (f : AsduFormat) (type : TypeIdentification) (q : StructureQualifier)
    (octets : Octets) : Except Fault (AsduBody × Octets) :=
  let extended (code : UInt8) (otherwise : Except Fault (AsduBody × Octets)) :=
    match f.extension with
    | some extension =>
      if extension.handles code then do
        let (objects, octets) ← f.decodeObjects q (extension.decodeSet code) octets
        return (.objects objects, octets)
      else otherwise
    | none => otherwise
  match type with
  | .standard type => do
    let (objects, octets) ← f.decodeObjects q (decodeSet type.layout) octets
    return (.objects objects, octets)
  | .reserved code => extended code (.error (.unknownType code))
  | .privateUse code => extended code (.ok (.verbatim q.count octets, []))

/-- Read a whole unit. -/
def decode (f : AsduFormat) (octets : Octets) : Except Fault Asdu :=
  let truncated := Except.error (.invalidAsdu (.headerTruncated octets.length f.headerLength))
  if octets.length < f.headerLength then truncated
  else
    match octets with
    | typeOctet :: qualifierOctet :: causeOctet :: rest => do
      let type := TypeIdentification.ofOctet typeOctet
      let q := StructureQualifier.ofOctet qualifierOctet
      let originator := if f.causeWidth = 2 then rest.headD 0 else 0
      let rest := if f.causeWidth = 2 then rest.tail else rest
      let commonAddress := Octets.toNat (rest.take f.commonAddressWidth)
      let (body, left) ← f.decodeBody type q (rest.drop f.commonAddressWidth)
      if left.isEmpty then
        return { type := type
                 sequence := q.sequence
                 cause := Cause.ofOctet causeOctet
                 test := causeOctet &&& Cause.testFlag != 0
                 negative := causeOctet &&& Cause.negativeFlag != 0
                 originator := originator
                 commonAddress := UInt16.ofNat commonAddress
                 body := body }
      else .error (.invalidAsdu (.trailingOctets left.length q.count.toNat))
    | _ => truncated

/-- What is wrong with the arrangement of objects and element sets. -/
def arrangementFault? (sequence : Bool) (objects : List InformationObject) :
    Option AsduFault :=
  if sequence then
    if objects.length = 1 then none else some (.sequenceObjects objects.length)
  else
    (objects.find? fun o => o.sets.length != 1).map fun o =>
      .objectSets o.address o.sets.length

/-- The first object of which not all addresses fit their field. -/
def addressFault? (f : AsduFormat) (objects : List InformationObject) : Option AsduFault :=
  objects.findSome? fun o =>
    let last := o.address.toNat + (o.sets.length - 1)
    if last < Octets.bound f.objectAddressWidth then none
    else some (.objectAddressRange last f.objectAddressWidth)

/-- The elements of a set are of the kinds that the type lists. -/
def fitsLayout (type : AsduType) (set : ElementSet) : Bool :=
  set.map (·.kind?) == type.layout.map some

/-- An element set of a standard type whose elements are not those of the type. -/
def layoutFault? (type? : Option AsduType) (objects : List InformationObject) :
    Option AsduFault :=
  match type? with
  | none => none
  | some type =>
    if objects.all fun o => o.sets.all (fitsLayout type) then none
    else some (.layoutMismatch type)

/-- The first reason why a unit cannot be written, apart from the values of its elements. -/
def fault? (f : AsduFormat) (a : Asdu) : Option AsduFault :=
  if Octets.bound f.commonAddressWidth ≤ a.commonAddress.toNat then
    some (.commonAddressRange a.commonAddress f.commonAddressWidth)
  else match a.body with
    | .verbatim count _ => if maxCount < count.toNat then some .countRange else none
    | .objects objects =>
      (arrangementFault? a.sequence objects).or <|
        (if maxCount < a.count then some (.setCount a.count) else none).or <|
          (f.addressFault? objects).or (layoutFault? a.type? objects)

/-- The octet with the cause and its flags. -/
def causeOctet (a : Asdu) : Except Fault UInt8 := do
  let code ← a.cause.encode
  return code ||| (if a.test then Cause.testFlag else 0) |||
    (if a.negative then Cause.negativeFlag else 0)

/-- The octets of an object. -/
def encodeObject (f : AsduFormat) (o : InformationObject) : Except Fault Octets := do
  let elements ← writeAll Element.encode o.sets.flatten
  return Octets.ofNat f.objectAddressWidth o.address.toNat ++ elements

/-- The octets after the header of a unit. -/
def encodeBody (f : AsduFormat) : AsduBody → Except Fault Octets
  | .objects objects => writeAll f.encodeObject objects
  | .verbatim _ data => .ok data

/-- The octets of a whole unit. -/
def encode (f : AsduFormat) (a : Asdu) : Except Fault Octets :=
  match f.fault? a with
  | some cause => .error (.invalidAsdu cause)
  | none => do
    let cause ← causeOctet a
    let body ← f.encodeBody a.body
    return [a.type.octet, a.structureQualifier.octet, cause] ++
      (if f.causeWidth = 2 then [a.originator] else []) ++
      Octets.ofNat f.commonAddressWidth a.commonAddress.toNat ++ body

end AsduFormat

end Telecontrol
