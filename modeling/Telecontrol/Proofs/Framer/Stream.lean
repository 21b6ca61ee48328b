import Telecontrol.Proofs.Framer.Frame
import Telecontrol.Proofs.Framer.Pieces

/-!
# Streams of frames

A stream is `Framed` if it consists of whole frames that may be sent, with octets other than the
start octet before, between and after them. Such a stream is read to its end (`drain_of_framed`),
and no other is (`framed_of_drain`). It follows that

* a stream may be cut into any pieces (`reading_independent_of_pieces`);
* frames are read as they were written, whatever octets their units have
  (`written_stream_read_back`).
-/

namespace Telecontrol

/-- A stream of whole frames, with octets without meaning around them. -/
inductive Framed : Octets → List Apdu → Prop
  | ends {gap : Octets} : startOctet ∉ gap → Framed gap []
  | frame {gap octets rest : Octets} {apdu : Apdu} {apdus : List Apdu} : startOctet ∉ gap →
      apdu.WellFormed → apdu.IsFrame octets → Framed rest apdus →
      Framed (gap ++ (octets ++ rest)) (apdu :: apdus)

namespace Framer

/-! ### One frame -/

/-- A whole frame is taken off the buffer. -/
theorem next_frame {apdu : Apdu} {octets : Octets} (h : apdu.WellFormed)
    (hframe : apdu.IsFrame octets) (rest : Octets) :
    next ⟨octets ++ rest, none⟩ = (⟨rest, none⟩, .ok (some apdu)) := by
  obtain ⟨field, hfield, rfl⟩ := hframe
  have hfits : controlLength + apdu.asdu.length ≤ maxLength :=
    Nat.add_le_add_left h.length_asdu_le controlLength
  have hlength : (UInt8.ofNat (controlLength + apdu.asdu.length)).toNat =
      controlLength + apdu.asdu.length := by
    have hmax : maxLength < 256 := by decide
    rw [UInt8.toNat_ofNat', Nat.mod_eq_of_lt (by omega)]
  have hbody : (field ++ apdu.asdu).length =
      (UInt8.ofNat (controlLength + apdu.asdu.length)).toNat := by
    rw [List.length_append, hfield.length_eq, hlength]
  have hrange : controlLength ≤ (UInt8.ofNat (controlLength + apdu.asdu.length)).toNat ∧
      (UInt8.ofNat (controlLength + apdu.asdu.length)).toNat ≤ maxLength := by
    rw [hlength]
    exact ⟨Nat.le_add_right _ _, hfits⟩
  have hcomplete : (UInt8.ofNat (controlLength + apdu.asdu.length)).toNat ≤
      ((field ++ apdu.asdu) ++ rest).length := by
    rw [List.length_append, hbody]
    exact Nat.le_add_right _ _
  rw [List.cons_append, List.cons_append, next_start, dif_pos hrange, body_of_le hcomplete,
    List.drop_left' hbody, List.take_left' hbody, Apdu.parse_of_isWritten h hfield]
  rfl

/-- A frame that is found was whole, and octets without meaning were skipped. -/
theorem isFrame_of_next {buffer : Octets} {g : Framer} {apdu : Apdu}
    (h : next ⟨buffer, none⟩ = (g, .ok (some apdu))) :
    ∃ gap octets rest, buffer = gap ++ (octets ++ rest) ∧ startOctet ∉ gap ∧ apdu.WellFormed ∧
      apdu.IsFrame octets ∧ g = ⟨rest, none⟩ := by
  cases holding ⟨buffer, none⟩ with
  | gap hgap =>
    have hnil := next_gap hgap []
    rw [List.append_nil, h] at hnil
    cases hnil
  | start hgap =>
    rw [next_gap hgap] at h
    cases h
  | @frame gap length rest hgap =>
    rw [next_gap hgap, next_start] at h
    split at h
    · next hrange =>
      by_cases hlt : rest.length < length.toNat
      · rw [body_of_lt hlt] at h
        cases h
      · rw [body_of_le (Nat.le_of_not_lt hlt)] at h
        obtain ⟨rfl, hresult⟩ := Prod.mk.inj h
        cases hparse : Apdu.parse (rest.take length.toNat) with
        | error fault =>
          rw [hparse] at hresult
          cases hresult
        | ok found =>
          rw [hparse] at hresult
          cases hresult
          have hlength : (rest.take length.toNat).length = length.toNat :=
            List.length_take_of_le (Nat.le_of_not_lt hlt)
          obtain ⟨hwellFormed, field, hfield, heq⟩ :=
            Apdu.wellFormed_of_parse hparse (Nat.le_trans (Nat.le_of_eq hlength) hrange.2)
          have hoctet : length = UInt8.ofNat (controlLength + apdu.asdu.length) := by
            rw [← hfield.length_eq, ← List.length_append, ← heq, hlength, UInt8.ofNat_toNat]
          refine ⟨gap, startOctet :: length :: rest.take length.toNat, rest.drop length.toNat,
            ?_, hgap, hwellFormed, ⟨field, hfield, ?_⟩, rfl⟩
          · rw [List.cons_append, List.cons_append, List.take_append_drop]
          · rw [heq, ← hoctet]
    · cases h

/-- If nothing is found and nothing is left, there were only octets without meaning. -/
theorem not_mem_of_next {buffer : Octets} (h : next ⟨buffer, none⟩ = ({}, .ok none)) :
    startOctet ∉ buffer := by
  cases holding ⟨buffer, none⟩ with
  | gap hgap => exact hgap
  | start hgap =>
    rw [next_gap hgap] at h
    cases h
  | frame length rest hgap =>
    rw [next_gap hgap, next_start] at h
    split at h
    · cases body_eq_none h
    · cases h

/-! ### Whole streams -/

theorem drain_of_framed {octets : Octets} {apdus : List Apdu} (h : Framed octets apdus) :
    drain ⟨octets, none⟩ = ⟨apdus, none, {}⟩ := by
  induction h with
  | @ends gap hgap =>
    have hnext := next_gap hgap []
    rw [List.append_nil] at hnext
    exact drain_of_none hnext
  | frame hgap hwellFormed hframe _ ih =>
    rw [drain_of_frame ((next_gap hgap _).trans (next_frame hwellFormed hframe _)), ih]

theorem framed_of_drain {f : Framer} (hstart : f.announced = none) (hfault : f.drain.fault? = none)
    (hrest : f.drain.rest = {}) : Framed f.buffer f.drain.frames := by
  induction f using drain.induct with
  | case1 f g apdu hnext ih =>
    obtain ⟨buffer, announced⟩ := f
    obtain rfl : announced = none := hstart
    rw [drain_of_frame hnext] at hfault hrest ⊢
    obtain ⟨gap, octets, rest, rfl, hgap, hwellFormed, hframe, rfl⟩ := isFrame_of_next hnext
    exact .frame hgap hwellFormed hframe (ih rfl hfault hrest)
  | case2 f g hnext =>
    obtain ⟨buffer, announced⟩ := f
    obtain rfl : announced = none := hstart
    rw [drain_of_none hnext] at hrest ⊢
    obtain rfl : g = {} := hrest
    exact .ends (not_mem_of_next hnext)
  | case3 f g fault hnext =>
    rw [drain_of_fault hnext] at hfault
    cases hfault

/-- A stream ends between two frames exactly if nothing is left of it. -/
theorem finish_eq_none_iff {f : Framer} (h : f.next = (f, .ok none)) :
    f.finish.2 = .ok none ↔ f = {} := by
  obtain ⟨buffer, announced⟩ := f
  simp only [finish, h]
  constructor
  · split
    · next hnothing =>
      intro
      simp_all
    · intro hresult
      cases hresult
  · rintro ⟨⟩
    rfl

/-- However a stream is cut into pieces, the same frames are read and the same fault is found
first; if there is none, the end of the stream is the same too. A stream is read without a fault
and ends between two frames exactly if it is framed, and then its frames are those that are read. -/
theorem reading_independent_of_pieces (pieces : List Octets) :
    let cut := readAll {} pieces
    let whole := (feed {} pieces.flatten).drain
    cut.frames = whole.frames ∧ cut.fault? = whole.fault? ∧
      (cut.fault? = none → cut.rest.finish = whole.rest.finish) ∧
      (cut.fault? = none ∧ cut.rest.finish.2 = .ok none ↔
        ∃ apdus, Framed pieces.flatten apdus) ∧
      ∀ apdus, Framed pieces.flatten apdus → cut.frames = apdus := by
  intro cut whole
  have hagrees : cut.Agrees whole := readAll_agrees rfl pieces
  have hframed : ∀ {apdus}, Framed pieces.flatten apdus → whole = ⟨apdus, none, {}⟩ :=
    fun h => drain_of_framed h
  refine ⟨hagrees.frames, hagrees.fault?, fun hnone => by rw [hagrees.rest hnone], ?_, ?_⟩
  · constructor
    · rintro ⟨hnone, hfinish⟩
      have hwhole : whole.fault? = none := hagrees.fault? ▸ hnone
      rw [hagrees.rest hnone] at hfinish
      exact ⟨whole.frames, framed_of_drain rfl hwhole
        ((finish_eq_none_iff (next_rest_drain _ hwhole)).mp hfinish)⟩
    · rintro ⟨apdus, hstream⟩
      have hwhole := hframed hstream
      have hnone : cut.fault? = none := by rw [hagrees.fault?, hwhole]
      refine ⟨hnone, ?_⟩
      rw [hagrees.rest hnone, hwhole]
      rfl
  · intro apdus hstream
    rw [hagrees.frames, hframed hstream]

/-! ### Writing and reading -/

/-- Write frames, each behind octets without meaning, and more such octets behind them. -/
def writeStream (frames : List (Octets × Apdu)) (tail : Octets) : Except Fault Octets := do
  let octets ← writeAll (fun (gap, apdu) => do return gap ++ (← apdu.encode)) frames
  return octets ++ tail

theorem framed_of_write {frames : List (Octets × Apdu)} {tail : Octets}
    (hframes : ∀ p ∈ frames, startOctet ∉ p.1 ∧ p.2.WellFormed) (htail : startOctet ∉ tail) :
    ∃ stream, writeStream frames tail = .ok stream ∧ Framed stream (frames.map (·.2)) := by
  suffices hall : ∃ octets,
      writeAll (fun p : Octets × Apdu => do return p.1 ++ (← p.2.encode)) frames = .ok octets ∧
        Framed (octets ++ tail) (frames.map (·.2)) by
    obtain ⟨octets, hwrite, hframed⟩ := hall
    refine ⟨octets ++ tail, ?_, hframed⟩
    rw [writeStream]
    exact (congrArg (· >>= _) hwrite).trans rfl
  induction frames with
  | nil => exact ⟨[], rfl, .ends htail⟩
  | cons p frames ih =>
    obtain ⟨hgap, hwellFormed⟩ := hframes p List.mem_cons_self
    obtain ⟨octets, hwrite, hframed⟩ := ih fun q hq => hframes q (List.mem_cons_of_mem _ hq)
    refine ⟨(p.1 ++ p.2.written) ++ octets, ?_, ?_⟩
    · rw [writeAll, hwrite, Apdu.encode_eq hwellFormed]
      rfl
    · rw [List.append_assoc, List.append_assoc]
      exact .frame hgap hwellFormed p.2.isFrame_written hframed

/-- Frames that can be sent are written, with any octets other than the start octet before,
between and after them, and read again; nothing is left then. -/
theorem written_stream_read_back (frames : List (Octets × Apdu)) (tail : Octets)
    (hframes : ∀ p ∈ frames, startOctet ∉ p.1 ∧ p.2.WellFormed) (htail : startOctet ∉ tail) :
    ∃ stream, writeStream frames tail = .ok stream ∧
      let reading := (feed {} stream).drain
      reading.frames = frames.map (·.2) ∧ reading.fault? = none ∧ reading.rest.buffer = [] ∧
        reading.rest.next = (reading.rest, .ok none) ∧ reading.rest.finish.2 = .ok none := by
  obtain ⟨stream, hwrite, hframed⟩ := framed_of_write hframes htail
  refine ⟨stream, hwrite, ?_⟩
  have hreading : (feed {} stream).drain = ⟨frames.map (·.2), none, {}⟩ := drain_of_framed hframed
  rw [hreading]
  exact ⟨rfl, rfl, rfl, rfl, rfl⟩

/-- An information frame whose unit looks like a frame, the largest number, and a test. -/
def mixedFrames : List (Octets × Apdu) :=
  [([0x00, 0x04], .information 5 7 [0x68, 0x04, 0x43, 0x00, 0x00, 0x00]),
    ([], .supervisory 32767), ([0xFF], .unnumbered .testAct)]

theorem mixed_frames_read_back :
    (∀ p ∈ mixedFrames, startOctet ∉ p.1 ∧ p.2.WellFormed) ∧
      writeStream mixedFrames [0x16] = .ok
        [0x00, 0x04, 0x68, 0x0A, 0x0A, 0x00, 0x0E, 0x00, 0x68, 0x04, 0x43, 0x00, 0x00, 0x00,
          0x68, 0x04, 0x01, 0x00, 0xFE, 0xFF, 0xFF, 0x68, 0x04, 0x43, 0x00, 0x00, 0x00, 0x16] ∧
      (feed {}
        [0x00, 0x04, 0x68, 0x0A, 0x0A, 0x00, 0x0E, 0x00, 0x68, 0x04, 0x43, 0x00, 0x00, 0x00,
          0x68, 0x04, 0x01, 0x00, 0xFE, 0xFF, 0xFF, 0x68, 0x04, 0x43, 0x00, 0x00, 0x00,
          0x16]).drain.frames = mixedFrames.map (·.2) := by
  have hframes : ∀ p ∈ mixedFrames, startOctet ∉ p.1 ∧ p.2.WellFormed := by decide
  obtain ⟨stream, hwrite, hread, -⟩ :=
    written_stream_read_back mixedFrames [0x16] hframes (by decide)
  have hstream : writeStream mixedFrames [0x16] = .ok _ := rfl
  cases hwrite.symm.trans hstream
  exact ⟨hframes, hstream, hread⟩

end Framer

end Telecontrol
