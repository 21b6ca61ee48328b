import Telecontrol.Proofs.Framer.Stream

/-!
# Frames and the octets from which they were read

A stream is made up of the octets that were used up for its frames, and of what is left
(`Framer.drain_splits`). Each frame that was read is written again as the octets from which it was
read, but for one bit: the lowest bit of the third control octet is written as zero, and not
looked at when it is read (`Apdu.encode_eq_ok_iff`). A whole frame that is left is refused, and it
is none that could have been sent (`Framer.read_as_written_iff`).
-/

namespace Telecontrol

/-! ### Faults of frames -/

theorem LinkFunction.framing_of_parse {octet : UInt8} {fault : Fault}
    (h : LinkFunction.parse octet = .error fault) : ∃ cause, fault = .framing cause := by
  unfold LinkFunction.parse at h
  split at h
  · cases h
  · exact ⟨_, (Except.error.inj h).symm⟩

theorem Control.framing_of_parse {first second third fourth : UInt8} {fault : Fault}
    (h : Control.parse first second third fourth = .error fault) :
    ∃ cause, fault = .framing cause := by
  unfold Control.parse at h
  split at h
  · cases h
  · split at h
    · split at h
      · cases h
      · exact ⟨_, (Except.error.inj h).symm⟩
    · split at h
      · exact ⟨_, (Except.error.inj h).symm⟩
      · cases hfunction : LinkFunction.parse first with
        | ok function =>
          rw [hfunction] at h
          cases h
        | error cause =>
          rw [hfunction] at h
          cases h
          exact LinkFunction.framing_of_parse hfunction

theorem Apdu.framing_of_parse {octets : Octets} {fault : Fault}
    (h : Apdu.parse octets = .error fault) : ∃ cause, fault = .framing cause := by
  unfold Apdu.parse at h
  split at h
  · next first second third fourth unit =>
    cases hcontrol : Control.parse first second third fourth with
    | error cause =>
      rw [hcontrol] at h
      cases h
      exact Control.framing_of_parse hcontrol
    | ok control =>
      rw [hcontrol] at h
      simp only [bind, Except.bind] at h
      split at h <;> split at h <;> cases h <;> exact ⟨_, rfl⟩
  · exact ⟨_, (Except.error.inj h).symm⟩

/-! ### The bit that is not looked at -/

namespace Control

/-- The third control octet is written with its lowest bit clear. -/
theorem even_third (c : Control) : (c.octets.getD 2 0).toNat % 2 = 0 := by
  have hnumber : ∀ n, ((numberOctets n).getD 0 0).toNat % 2 = 0 := by
    intro n
    show (UInt8.ofNat (2 * (n % sequenceModulus).toNat)).toNat % 2 = 0
    rw [UInt8.toNat_ofNat']
    omega
  cases c with
  | information send receive => exact hnumber receive
  | supervisory receive => exact hnumber receive
  | unnumbered function => rfl

/-- A control field is as it is written if the bit that is not looked at is clear. -/
theorem IsWritten.eq_octets_iff {c : Control} {field : Octets} (h : c.IsWritten field) :
    field = c.octets ↔ (field.getD 2 0).toNat % 2 = 0 := by
  constructor
  · rintro rfl
    exact c.even_third
  · intro heven
    rcases h with rfl | ⟨-, rfl⟩
    · rfl
    · -- The octet was even before one was added.
      have hthird := c.even_third
      have hlength := c.length_octets
      have hget : (c.octets.modify 2 (· + 1)).getD 2 0 = c.octets.getD 2 0 + 1 := by
        rw [List.getD_eq_getElem?_getD, List.getElem?_modify_eq, List.getD_eq_getElem?_getD,
          List.getElem?_eq_getElem (by omega)]
        rfl
      rw [hget, UInt8.toNat_add, UInt8.toNat_one] at heven
      omega

end Control

namespace Apdu

variable {apdu : Apdu} {octets : Octets}

/-- The third control octet of a frame. -/
def thirdControl (octets : Octets) : UInt8 := octets.getD 4 0

/-- A frame that was read is written as the octets from which it was read if the bit that is not
looked at is clear in them. -/
theorem encode_eq_ok_iff (h : apdu.WellFormed) (hframe : apdu.IsFrame octets) :
    apdu.encode = .ok octets ↔ (thirdControl octets).toNat % 2 = 0 := by
  obtain ⟨field, hfield, rfl⟩ := hframe
  have hthird : thirdControl (startOctet :: UInt8.ofNat (controlLength + apdu.asdu.length) ::
      (field ++ apdu.asdu)) = field.getD 2 0 := by
    obtain ⟨first, second, third, fourth, rfl⟩ := hfield.exists_eq
    rfl
  rw [hthird, ← hfield.eq_octets_iff, encode_eq h, written]
  constructor
  · intro heq
    obtain ⟨-, heq⟩ := List.cons.inj (Except.ok.inj heq)
    exact (List.append_cancel_right (List.cons.inj heq).2).symm
  · rintro rfl
    rfl

/-- A frame that was read is written as the octets from which it was read, or they had the bit set
that is not looked at. -/
theorem IsFrame.eq_or_modify (hframe : apdu.IsFrame octets) :
    octets = apdu.written ∨ octets = apdu.written.modify 4 (· + 1) := by
  obtain ⟨field, rfl | ⟨-, rfl⟩, rfl⟩ := hframe
  · exact .inl rfl
  · obtain ⟨first, second, third, fourth, hfield⟩ :=
      Control.IsWritten.exists_eq (c := apdu.control) (.inl rfl)
    refine .inr ?_
    rw [written, hfield]
    rfl

end Apdu

/-! ### What was used up -/

/-- Octets are a frame by its length: a start octet, a length, and as many octets as it says. -/
def IsDelimited (octets : Octets) : Prop :=
  ∃ (length : UInt8) (body : Octets),
    octets = startOctet :: length :: body ∧ body.length = length.toNat

/-- A frame that was found in a stream. -/
structure Found where
  /-- The octets without meaning before it. -/
  gap : Octets
  /-- The octets from which it was read. -/
  octets : Octets
  /-- What was read. -/
  apdu : Apdu

namespace Framer

/-- What the last reading of the octets at hand gave. -/
def Reading.verdict (r : Reading) : Except Fault (Option Apdu) :=
  match r.fault? with
  | some fault => .error fault
  | none => .ok none

namespace Reading

variable {r : Reading}

/-- All frames were taken off before. -/
theorem verdict_ne_frame (apdu : Apdu) : r.verdict ≠ .ok (some apdu) := by
  intro h
  unfold verdict at h
  split at h <;> cases h

theorem fault?_of_verdict {fault : Fault} (h : r.verdict = .error fault) :
    r.fault? = some fault := by
  unfold verdict at h
  split at h
  · next heq =>
    cases h
    exact heq
  · cases h

end Reading

theorem isDelimited_of_isFrame {apdu : Apdu} {octets : Octets} (h : apdu.WellFormed)
    (hframe : apdu.IsFrame octets) : IsDelimited octets := by
  obtain ⟨field, hfield, rfl⟩ := hframe
  refine ⟨_, _, rfl, ?_⟩
  have hfits := h.length_asdu_le
  simp only [maxAsduLength, maxLength, controlLength] at hfits
  rw [List.length_append, hfield.length_eq, UInt8.toNat_ofNat', controlLength]
  omega

/-- The octets of the stream that no frame has used up: those at hand, after the start octet and
the length of a frame that was announced. -/
def unread (f : Framer) : Octets :=
  match f.announced with
  | none => f.buffer
  | some length => startOctet :: UInt8.ofNat length.val :: f.buffer

theorem unread_feed (f : Framer) (octets : Octets) :
    (f.feed octets).unread = f.unread ++ octets := by
  obtain ⟨buffer, _ | length⟩ := f <;> rfl

/-- An announced frame is found as if nothing of it had been used yet. -/
theorem next_unread (f : Framer) : next ⟨f.unread, none⟩ = f.next := by
  obtain ⟨buffer, _ | ⟨length, hrange⟩⟩ := f
  · rfl
  · have hoctet : (UInt8.ofNat length).toNat = length := by
      have hmax : maxLength < 256 := by decide
      exact UInt8.toNat_ofNat_of_lt' (Nat.lt_of_le_of_lt hrange.2 hmax)
    show next ⟨startOctet :: UInt8.ofNat length :: buffer, none⟩ = body ⟨length, hrange⟩ buffer
    simp only [next_start, hoctet, dif_pos hrange]

theorem drain_unread (f : Framer) : drain ⟨f.unread, none⟩ = f.drain := by
  rw [drain, drain, next_unread]

/-- What is at hand and what arrives later are read as if all had arrived at once. -/
theorem readAll_cons_agrees (f : Framer) (piece : Octets) (pieces : List Octets) :
    (f.readAll (piece :: pieces)).Agrees
      (drain ⟨f.unread ++ (piece :: pieces).flatten, none⟩) := by
  rw [← unread_feed, drain_unread, List.flatten_cons, feed_append]
  exact (Reading.andThen_agrees fun hnone => readAll_agrees (next_rest_drain _ hnone) pieces).trans
    (drain_feed (f.feed piece) pieces.flatten)

/-- The octets at hand are those of the frames that are found, and what is left after the last of
them. -/
theorem drain_splits (buffer : Octets) :
    ∃ (found : List Found) (rest : Octets),
      buffer = (found.flatMap fun x => x.gap ++ x.octets) ++ rest ∧
        found.map (·.apdu) = (drain ⟨buffer, none⟩).frames ∧
        (∀ x ∈ found, startOctet ∉ x.gap ∧ x.apdu.WellFormed ∧ x.apdu.IsFrame x.octets) ∧
        (next ⟨rest, none⟩).2 = (drain ⟨buffer, none⟩).verdict := by
  generalize hf : (⟨buffer, none⟩ : Framer) = f
  induction f using drain.induct generalizing buffer with
  | case1 f g apdu hnext ih =>
    subst hf
    obtain ⟨gap, octets, rest, rfl, hgap, hwellFormed, hframe, rfl⟩ := isFrame_of_next hnext
    obtain ⟨found, left, heq, hframes, hfound, hverdict⟩ := ih rest rfl
    rw [drain_of_frame hnext]
    refine ⟨⟨gap, octets, apdu⟩ :: found, left, ?_, ?_, ?_, hverdict⟩
    · rw [List.flatMap_cons, ← List.append_assoc, List.append_assoc _ _ left, ← heq]
    · rw [List.map_cons, hframes]
    · exact List.forall_mem_cons.mpr ⟨⟨hgap, hwellFormed, hframe⟩, hfound⟩
  | case2 f g hnext =>
    subst hf
    rw [drain_of_none hnext]
    exact ⟨[], buffer, rfl, rfl, List.forall_mem_nil _, by rw [hnext]; rfl⟩
  | case3 f g fault hnext =>
    subst hf
    rw [drain_of_fault hnext]
    exact ⟨[], buffer, rfl, rfl, List.forall_mem_nil _, by rw [hnext]; rfl⟩

/-- A whole frame that is not taken off the buffer is refused. -/
theorem framing_of_isDelimited {gap octets tail : Octets} (hgap : startOctet ∉ gap)
    (hoctets : IsDelimited octets)
    (h : ∀ apdu, (next ⟨gap ++ (octets ++ tail), none⟩).2 ≠ .ok (some apdu)) :
    ∃ cause, (next ⟨gap ++ (octets ++ tail), none⟩).2 = .error (.framing cause) := by
  obtain ⟨length, body, rfl, hlength⟩ := hoctets
  rw [next_gap hgap, List.cons_append, List.cons_append, next_start] at h ⊢
  split
  · next hrange =>
    have hle : length.toNat ≤ (body ++ tail).length := by
      rw [List.length_append, hlength]
      exact Nat.le_add_right _ _
    rw [dif_pos hrange, body_of_le hle] at h
    rw [body_of_le hle]
    cases hparse : Apdu.parse ((body ++ tail).take length.toNat) with
    | ok apdu =>
      refine absurd ?_ (h apdu)
      simp only [hparse]
      rfl
    | error fault =>
      obtain ⟨cause, rfl⟩ := Apdu.framing_of_parse hparse
      exact ⟨cause, rfl⟩
  · exact ⟨_, rfl⟩

/-- Whatever was read before and however the stream goes on, it is made up of octets without
meaning, of the octets of the frames that are read, and of what is left. A frame that is read can
be written, and what is written are the octets from which it was read if and only if the lowest bit
of their third control octet is clear; otherwise they differ in that bit. A whole frame that is
left is refused as such, and it is no frame that can be sent, whatever that bit is. -/
theorem read_as_written_iff (f : Framer) (piece : Octets) (pieces : List Octets) :
    let reading := f.readAll (piece :: pieces)
    ∃ (found : List Found) (rest : Octets),
      f.unread ++ (piece :: pieces).flatten = (found.flatMap fun x => x.gap ++ x.octets) ++ rest ∧
        found.map (·.apdu) = reading.frames ∧
        (∀ x ∈ found, startOctet ∉ x.gap ∧ IsDelimited x.octets ∧
          ∃ written, x.apdu.encode = .ok written ∧
            (written = x.octets ↔ (Apdu.thirdControl x.octets).toNat % 2 = 0) ∧
            (written ≠ x.octets → x.octets = written.modify 4 (· + 1))) ∧
        ∀ gap octets tail, rest = gap ++ (octets ++ tail) → startOctet ∉ gap →
          IsDelimited octets →
            (∃ cause, reading.fault? = some (.framing cause)) ∧
              ∀ apdu : Apdu, apdu.WellFormed → ¬apdu.IsFrame octets := by
  intro reading
  have hagrees : reading.Agrees _ := readAll_cons_agrees f piece pieces
  obtain ⟨found, rest, hstream, hframes, hfound, hverdict⟩ :=
    drain_splits (f.unread ++ (piece :: pieces).flatten)
  refine ⟨found, rest, hstream, hframes.trans hagrees.frames.symm, ?_, ?_⟩
  · intro x hx
    obtain ⟨hgap, hwellFormed, hframe⟩ := hfound x hx
    have hencode := Apdu.encode_eq hwellFormed
    refine ⟨hgap, isDelimited_of_isFrame hwellFormed hframe, x.apdu.written, hencode, ?_, ?_⟩
    · rw [← Apdu.encode_eq_ok_iff hwellFormed hframe, hencode, Except.ok.injEq]
    · intro hne
      exact hframe.eq_or_modify.resolve_left (Ne.symm hne)
  · rintro gap octets tail rfl hgap hoctets
    have hnone : ∀ apdu, (next ⟨gap ++ (octets ++ tail), none⟩).2 ≠ .ok (some apdu) := by
      rw [hverdict]
      exact Reading.verdict_ne_frame
    constructor
    · obtain ⟨cause, hcause⟩ := framing_of_isDelimited hgap hoctets hnone
      rw [hverdict] at hcause
      exact ⟨cause, hagrees.fault?.trans (Reading.fault?_of_verdict hcause)⟩
    · intro apdu hwellFormed hframe
      refine hnone apdu ?_
      rw [next_gap hgap, next_frame hwellFormed hframe]

/-- An acknowledgment whose third control octet is odd is read, and written with an even one. -/
theorem odd_acknowledgment_read :
    let reading := readAll {} [[0x68, 0x04, 0x01, 0x00, 0x03, 0x00]]
    reading.frames = [.supervisory 1] ∧ reading.fault? = none ∧ reading.rest = {} ∧
      (Apdu.supervisory 1).encode = .ok [0x68, 0x04, 0x01, 0x00, 0x02, 0x00] := by
  intro reading
  have hnext : next ⟨[0x68, 0x04, 0x01, 0x00, 0x03, 0x00], none⟩ =
      (⟨[], none⟩, .ok (some (.supervisory 1))) := rfl
  have hnothing : next ⟨[], none⟩ = (⟨[], none⟩, .ok none) := rfl
  have hreading : reading = ⟨[.supervisory 1], none, {}⟩ := by
    show (drain ⟨[0x68, 0x04, 0x01, 0x00, 0x03, 0x00], none⟩).andThen _ = _
    rw [drain_of_frame hnext, drain_of_none hnothing]
    rfl
  rw [hreading]
  exact ⟨rfl, rfl, rfl, rfl⟩

end Framer

end Telecontrol
