import Telecontrol.Apdu

/-!
# Cutting an octet stream into frames

Octets arrive in pieces that need not agree with the frames. A `Framer` keeps those that
were not yet used.

* `Framer.feed` adds octets, `Framer.next` takes the next frame off them: octets in front
  of a start octet are skipped, and a frame that has not arrived completely is left to
  later;
* `Framer.finish` is `next` at the end of the stream, where an incomplete frame is a fault;
* `Framer.drain` takes frames until none is complete or one is faulty. It ends because each
  frame leaves fewer octets (`length_next_lt`).
-/

namespace Telecontrol

/-- A length that the length octet of a frame may announce. -/
abbrev FrameLength := { n : Nat // controlLength ≤ n ∧ n ≤ maxLength }

/-- The part of a stream that has arrived and was not yet used. -/
structure Framer where
  /-- Octets not yet used. -/
  buffer : Octets := []
  /-- The length of the frame whose start and length octets were used already. -/
  announced : Option FrameLength := none
  deriving DecidableEq, Repr, Inhabited

namespace Framer

/-- Add octets that have arrived. -/
def feed (f : Framer) (octets : Octets) : Framer := { f with buffer := f.buffer ++ octets }

/-- The frame whose length was announced, once all of it has arrived. -/
def body (length : FrameLength) (buffer : Octets) : Framer × Except Fault (Option Apdu) :=
  if buffer.length < length.val then (⟨buffer, some length⟩, .ok none)
  else (⟨buffer.drop length.val, none⟩, (Apdu.parse (buffer.take length.val)).map some)

/-- The next frame, if one has arrived completely. A length out of range uses up neither its
own octet nor the start octet; a faulty frame is used up. -/
def next (f : Framer) : Framer × Except Fault (Option Apdu) :=
  match f.announced with
  | some length => body length f.buffer
  | none =>
    match f.buffer.dropWhile (· != startOctet) with
    | start :: length :: rest =>
      if h : controlLength ≤ length.toNat ∧ length.toNat ≤ maxLength then
        body ⟨length.toNat, h⟩ rest
      else (⟨start :: length :: rest, none⟩, .error (.framing (.lengthRange length.toNat)))
    | rest => (⟨rest, none⟩, .ok none)

/-- The next frame after the last octet of the stream. -/
def finish (f : Framer) : Framer × Except Fault (Option Apdu) :=
  match f.next with
  | (g, .ok none) =>
    if g.buffer.isEmpty && g.announced.isNone then (g, .ok none)
    else (g, .error (.framing .endWithinFrame))
  | result => result

theorem length_dropWhile_le (buffer : Octets) :
    (buffer.dropWhile (· != startOctet)).length ≤ buffer.length :=
  (List.dropWhile_sublist _).length_le

theorem length_body_lt {length : FrameLength} {buffer : Octets} {g : Framer} {apdu : Apdu}
    (h : body length buffer = (g, .ok (some apdu))) :
    g.buffer.length < buffer.length := by
  have hpos := length.property.1
  unfold body at h
  split at h
  · simp at h
  · next hlen =>
    obtain ⟨rfl, -⟩ := Prod.mk.inj h
    simp only [controlLength] at hpos
    simp only [List.length_drop]
    omega

/-- A frame leaves fewer octets than there were before it. -/
theorem length_next_lt {f g : Framer} {apdu : Apdu} (h : f.next = (g, .ok (some apdu))) :
    g.buffer.length < f.buffer.length := by
  unfold next at h
  split at h
  · exact length_body_lt h
  · have hle := length_dropWhile_le f.buffer
    split at h
    · next heq =>
      rw [heq] at hle
      split at h
      · have hlt := length_body_lt h
        simp only [List.length_cons] at hle
        omega
      · simp at h
    · simp at h

/-- What the octets at hand amount to. -/
structure Reading where
  frames : List Apdu
  /-- The fault after them, if the next frame is faulty. -/
  fault? : Option Fault
  /-- What is left. -/
  rest : Framer

/-- Take frames until none is complete or one is faulty. -/
def drain (f : Framer) : Reading :=
  match _h : f.next with
  | (g, .ok (some apdu)) =>
    let reading := drain g
    { reading with frames := apdu :: reading.frames }
  | (g, .ok none) => ⟨[], none, g⟩
  | (g, .error fault) => ⟨[], some fault, g⟩
  termination_by f.buffer.length
  decreasing_by exact length_next_lt _h

end Framer

end Telecontrol
