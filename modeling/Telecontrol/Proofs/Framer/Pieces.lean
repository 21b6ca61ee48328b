import Telecontrol.Framer

/-!
# Reading a stream that arrives in pieces

A stream may arrive in any pieces. `Framer.readAll` takes the frames off each piece as it arrives,
up to the first fault. It finds what it would find in the whole stream at once
(`Framer.readAll_agrees`): what `next` finds is still found when more octets have arrived
(`next_feed_of_ne`), and where `next` finds nothing it has only dropped octets that mean nothing
(`next_feed_of_none`).
-/

namespace Telecontrol

namespace Framer

@[simp] theorem feed_nil (f : Framer) : f.feed [] = f := by simp [feed]

theorem feed_append (f : Framer) (first rest : Octets) :
    f.feed (first ++ rest) = (f.feed first).feed rest := by simp [feed]

/-! ### What is taken off the buffer -/

/-- Octets before a start octet are skipped. -/
theorem next_gap {gap : Octets} (h : startOctet ∉ gap) (buffer : Octets) :
    next ⟨gap ++ buffer, none⟩ = next ⟨buffer, none⟩ := by
  have hdrop : (gap ++ buffer).dropWhile (· != startOctet) =
      buffer.dropWhile (· != startOctet) := by
    refine List.dropWhile_append_of_pos fun octet hoctet => ?_
    rw [bne_iff_ne]
    rintro rfl
    exact h hoctet
  simp only [next, hdrop]

theorem next_start (length : UInt8) (rest : Octets) :
    next ⟨startOctet :: length :: rest, none⟩ =
      if h : controlLength ≤ length.toNat ∧ length.toNat ≤ maxLength then
        body ⟨length.toNat, h⟩ rest
      else (⟨startOctet :: length :: rest, none⟩,
        .error (.framing (.lengthRange length.toNat))) := rfl

/-- The octets at hand are part of a frame that was announced, or they are octets without meaning
with nothing, a start octet or the beginning of a frame behind them. -/
inductive Holding : Framer → Prop
  | announced (length : FrameLength) (buffer : Octets) : Holding ⟨buffer, some length⟩
  | gap {gap : Octets} : startOctet ∉ gap → Holding ⟨gap, none⟩
  | start {gap : Octets} : startOctet ∉ gap → Holding ⟨gap ++ [startOctet], none⟩
  | frame {gap : Octets} (length : UInt8) (rest : Octets) : startOctet ∉ gap →
      Holding ⟨gap ++ startOctet :: length :: rest, none⟩

theorem holding (f : Framer) : f.Holding := by
  obtain ⟨buffer, announced⟩ := f
  cases announced with
  | some length => exact .announced length buffer
  | none =>
    by_cases hmem : startOctet ∈ buffer
    · obtain ⟨gap, tail, rfl, hgap⟩ := List.eq_append_cons_of_mem hmem
      match tail with
      | [] => exact .start hgap
      | length :: rest => exact .frame length rest hgap
    · exact .gap hmem

section Next

variable {f g : Framer} {length : FrameLength} {buffer : Octets}
  {result : Except Fault (Option Apdu)}

theorem body_of_lt (h : buffer.length < length.val) :
    body length buffer = (⟨buffer, some length⟩, .ok none) := if_pos h

theorem body_of_le (h : length.val ≤ buffer.length) :
    body length buffer = (⟨buffer.drop length.val, none⟩,
      (Apdu.parse (buffer.take length.val)).map some) := if_neg (Nat.not_lt.mpr h)

theorem body_eq_none (h : body length buffer = (g, .ok none)) : g = ⟨buffer, some length⟩ := by
  by_cases hlt : buffer.length < length.val
  · rw [body_of_lt hlt] at h
    exact (Prod.mk.inj h).1.symm
  · rw [body_of_le (Nat.le_of_not_lt hlt)] at h
    obtain ⟨-, hresult⟩ := Prod.mk.inj h
    cases hparse : Apdu.parse (buffer.take length.val) <;> rw [hparse] at hresult <;> cases hresult

theorem body_feed (h : body length buffer = (g, result)) (hresult : result ≠ .ok none)
    (octets : Octets) : body length (buffer ++ octets) = (g.feed octets, result) := by
  by_cases hlt : buffer.length < length.val
  · rw [body_of_lt hlt] at h
    exact absurd (Prod.mk.inj h).2.symm hresult
  · have hle := Nat.le_of_not_lt hlt
    rw [body_of_le hle] at h
    obtain ⟨rfl, rfl⟩ := Prod.mk.inj h
    rw [body_of_le (by rw [List.length_append]; omega), List.drop_append_of_le_length hle,
      List.take_append_of_le_length hle]
    rfl

/-- If no frame is complete, nothing that matters is lost. -/
theorem next_feed_of_none (h : f.next = (g, .ok none)) (octets : Octets) :
    (f.feed octets).next = (g.feed octets).next := by
  cases f.holding with
  | announced length buffer =>
    obtain rfl := body_eq_none h
    rfl
  | @gap gap hgap =>
    have hnil := next_gap hgap []
    rw [List.append_nil, h] at hnil
    obtain ⟨rfl, -⟩ := Prod.mk.inj hnil
    exact next_gap hgap octets
  | start hgap =>
    rw [next_gap hgap] at h
    obtain ⟨rfl, -⟩ := Prod.mk.inj h
    rw [feed, List.append_assoc, next_gap hgap]
    rfl
  | frame length rest hgap =>
    rw [next_gap hgap, next_start] at h
    rw [feed, List.append_assoc, next_gap hgap, List.cons_append, List.cons_append, next_start]
    split at h
    · next hlength =>
      obtain rfl := body_eq_none h
      rw [dif_pos hlength]
      rfl
    · cases h

/-- What is found stays the same when more octets arrive. -/
theorem next_feed_of_ne (h : f.next = (g, result)) (hresult : result ≠ .ok none)
    (octets : Octets) : (f.feed octets).next = (g.feed octets, result) := by
  cases f.holding with
  | announced length buffer => exact body_feed h hresult octets
  | @gap gap hgap =>
    have hnil := next_gap hgap []
    rw [List.append_nil, h] at hnil
    exact absurd (Prod.mk.inj hnil).2 hresult
  | start hgap =>
    rw [next_gap hgap] at h
    exact absurd (Prod.mk.inj h).2.symm hresult
  | frame length rest hgap =>
    rw [next_gap hgap, next_start] at h
    rw [feed, List.append_assoc, next_gap hgap, List.cons_append, List.cons_append, next_start]
    split at h
    · next hlength =>
      rw [dif_pos hlength]
      exact body_feed h hresult octets
    · next hlength =>
      obtain ⟨rfl, rfl⟩ := Prod.mk.inj h
      rw [dif_neg hlength]
      rfl

/-- After everything was taken that is complete, nothing more is found. -/
theorem next_idem (h : f.next = (g, .ok none)) : g.next = (g, .ok none) := by
  have hsame := next_feed_of_none h []
  rw [feed_nil, feed_nil] at hsame
  rw [← hsame, h]

end Next

/-! ### Everything at hand -/

theorem drain_of_frame {f g : Framer} {apdu : Apdu} (h : f.next = (g, .ok (some apdu))) :
    f.drain = { g.drain with frames := apdu :: g.drain.frames } := by
  rw [drain]
  split <;> next heq => cases h.symm.trans heq <;> rfl

theorem drain_of_none {f g : Framer} (h : f.next = (g, .ok none)) : f.drain = ⟨[], none, g⟩ := by
  rw [drain]
  split <;> next heq => cases h.symm.trans heq <;> rfl

theorem drain_of_fault {f g : Framer} {fault : Fault} (h : f.next = (g, .error fault)) :
    f.drain = ⟨[], some fault, g⟩ := by
  rw [drain]
  split <;> next heq => cases h.symm.trans heq <;> rfl

/-- Unless there is a fault, everything that is complete was taken. -/
theorem next_rest_drain (f : Framer) (h : f.drain.fault? = none) :
    f.drain.rest.next = (f.drain.rest, .ok none) := by
  induction f using drain.induct with
  | case1 f g apdu hnext ih =>
    rw [drain_of_frame hnext] at h ⊢
    exact ih h
  | case2 f g hnext =>
    rw [drain_of_none hnext]
    exact next_idem hnext
  | case3 f g fault hnext =>
    rw [drain_of_fault hnext] at h
    cases h

namespace Reading

/-- Go on with what is left, unless there was a fault. -/
def andThen (r : Reading) (more : Framer → Reading) : Reading :=
  match r.fault? with
  | some _ => r
  | none => { more r.rest with frames := r.frames ++ (more r.rest).frames }

/-- Two readings find the same; what they leave behind a fault does not matter. -/
structure Agrees (r r' : Reading) : Prop where
  frames : r.frames = r'.frames
  fault? : r.fault? = r'.fault?
  rest : r.fault? = none → r.rest = r'.rest

variable {r r' r'' : Reading} {more more' : Framer → Reading}

theorem Agrees.refl (r : Reading) : r.Agrees r := ⟨rfl, rfl, fun _ => rfl⟩

theorem Agrees.trans (h : r.Agrees r') (h' : r'.Agrees r'') : r.Agrees r'' where
  frames := h.frames.trans h'.frames
  fault? := h.fault?.trans h'.fault?
  rest hnone := (h.rest hnone).trans (h'.rest (h.fault? ▸ hnone))

theorem andThen_of_fault {fault : Fault} (h : r.fault? = some fault) : r.andThen more = r := by
  rw [andThen, h]

theorem andThen_of_none (h : r.fault? = none) :
    r.andThen more = { more r.rest with frames := r.frames ++ (more r.rest).frames } := by
  rw [andThen, h]

/-- A frame before all others. -/
theorem Agrees.cons (h : r.Agrees r') (apdu : Apdu) :
    Agrees { r with frames := apdu :: r.frames } { r' with frames := apdu :: r'.frames } :=
  ⟨congrArg (apdu :: ·) h.frames, h.fault?, h.rest⟩

theorem cons_andThen (r : Reading) (apdu : Apdu) :
    Reading.andThen { r with frames := apdu :: r.frames } more =
      { r.andThen more with frames := apdu :: (r.andThen more).frames } := by
  cases hfault : r.fault? with
  | some fault => simp only [andThen, hfault]
  | none => simp only [andThen, hfault, List.cons_append]

theorem andThen_agrees (h : r.fault? = none → (more r.rest).Agrees (more' r.rest)) :
    (r.andThen more).Agrees (r.andThen more') := by
  cases hfault : r.fault? with
  | some fault =>
    rw [andThen_of_fault hfault, andThen_of_fault hfault]
    exact .refl r
  | none =>
    rw [andThen_of_none hfault, andThen_of_none hfault]
    have h := h hfault
    exact ⟨congrArg (r.frames ++ ·) h.frames, h.fault?, h.rest⟩

end Reading

/-- More octets can be used up after the others, or together with them. -/
theorem drain_feed (f : Framer) (octets : Octets) :
    (f.drain.andThen fun g => (g.feed octets).drain).Agrees (f.feed octets).drain := by
  induction f using drain.induct with
  | case1 f g apdu hnext ih =>
    rw [drain_of_frame hnext, Reading.cons_andThen,
      drain_of_frame (next_feed_of_ne hnext nofun octets)]
    exact ih.cons apdu
  | case2 f g hnext =>
    have hsame : (f.feed octets).drain = (g.feed octets).drain := by
      rw [drain, drain, next_feed_of_none hnext]
    rw [drain_of_none hnext, hsame]
    exact .refl _
  | case3 f g fault hnext =>
    rw [drain_of_fault hnext, drain_of_fault (next_feed_of_ne hnext nofun octets)]
    exact ⟨rfl, rfl, nofun⟩

/-! ### Piece by piece -/

/-- Take the frames off a stream that arrives in pieces, up to the first fault. -/
def readAll (f : Framer) : List Octets → Reading
  | [] => ⟨[], none, f⟩
  | piece :: pieces => (f.feed piece).drain.andThen fun g => g.readAll pieces

/-- How a stream is cut into pieces does not matter. -/
theorem readAll_agrees {f : Framer} (h : f.next = (f, .ok none)) (pieces : List Octets) :
    (f.readAll pieces).Agrees (f.feed pieces.flatten).drain := by
  induction pieces generalizing f with
  | nil =>
    rw [List.flatten_nil, feed_nil, drain_of_none h]
    exact .refl _
  | cons piece pieces ih =>
    rw [List.flatten_cons, feed_append]
    exact (Reading.andThen_agrees fun hnone => ih (next_rest_drain _ hnone)).trans
      (drain_feed (f.feed piece) pieces.flatten)

end Framer

end Telecontrol
