import Telecontrol.Window

/-!
# What a window records

The numbers of a window have 15 bits and come round again. `Window.Records` relates them to
counts without bound: how many information frames were sent and released, and how many were
accepted and acknowledged. Each operation of the window changes the counts as it should, and
an acknowledgment whose count is in range is never refused
(`Window.Records.acknowledge_frameNumber`).
-/

namespace Telecontrol

/-- The number of an information frame that comes after `n` others. -/
def frameNumber (n : Nat) : UInt16 := UInt16.ofNat (n % 32768)

@[simp] theorem toNat_frameNumber (n : Nat) : (frameNumber n).toNat = n % 32768 := by
  simp only [frameNumber, UInt16.toNat_ofNat']
  omega

theorem successor_frameNumber (n : Nat) :
    Window.successor (frameNumber n) = frameNumber (n + 1) := by
  rw [← UInt16.toNat_inj]
  simp only [Window.successor, sequenceModulus, UInt16.toNat_mod, UInt16.toNat_add,
    toNat_frameNumber, UInt16.reduceToNat]
  omega

/-- The information frames sent at given instants, with their numbers. -/
def numbered (sent : List Nat) : List SentFrame :=
  sent.mapIdx fun i now => ⟨frameNumber i, now⟩

@[simp] theorem length_numbered (sent : List Nat) : (numbered sent).length = sent.length :=
  List.length_mapIdx

@[simp] theorem map_sent_numbered (sent : List Nat) : (numbered sent).map (·.sent) = sent := by
  refine List.ext_getElem? fun i => ?_
  rw [numbered, List.getElem?_map, List.getElem?_mapIdx, Option.map_map]
  exact congrFun Option.map_id _

theorem numbered_concat (sent : List Nat) (now : Nat) :
    numbered (sent ++ [now]) = numbered sent ++ [⟨frameNumber sent.length, now⟩] :=
  List.mapIdx_concat

namespace Window

/-- What a window records of a station: it sent information frames at the instants `sent`
and has released the first of them; of the frames that it accepted, it has acknowledged the
first `covered`. -/
structure Records (v : Window) (sent : List Nat) (released accepted covered : Nat) :
    Prop where
  send : v.send = frameNumber sent.length
  receive : v.receive = frameNumber accepted
  released_le : released ≤ sent.length
  outstanding : v.outstanding.toList = (numbered sent).drop released
  length_le : sent.length ≤ released + v.k.toNat
  accepted_eq : accepted = covered + v.unacknowledged.toNat

variable {v v' : Window} {sent : List Nat} {released accepted covered n : Nat}
  {number : UInt16} {due : Bool}

namespace Records

theorem new (k w : UInt16) : ({ k := k, w := w } : Window).Records [] 0 0 0 :=
  ⟨rfl, rfl, Nat.le_refl _, rfl, Nat.zero_le _, rfl⟩

theorem size_outstanding (h : v.Records sent released accepted covered) :
    v.outstanding.size = sent.length - released := by
  rw [← Array.length_toList, h.outstanding, List.length_drop, length_numbered]

/-- Sending a frame. -/
theorem nextSend (h : v.Records sent released accepted covered) (hroom : v.isFull = false)
    (now : Nat) :
    ∃ v', v.nextSend now = (frameNumber sent.length, frameNumber accepted, v') ∧
      v'.Records (sent ++ [now]) released accepted accepted ∧ v'.k = v.k ∧ v'.w = v.w ∧
      v'.unacknowledged = 0 := by
  have hsize : sent.length < released + v.k.toNat := by
    have := of_decide_eq_false hroom
    have := h.size_outstanding
    have := h.released_le
    omega
  refine ⟨(v.nextSend now).2.2, ?_, ?_, rfl, rfl, rfl⟩
  · rw [← h.send, ← h.receive]
    rfl
  constructor
  · show successor v.send = _
    rw [h.send, successor_frameNumber, List.length_append, List.length_singleton]
  · exact h.receive
  · rw [List.length_append]
    exact Nat.le_add_right_of_le h.released_le
  · show (v.outstanding.push ⟨v.send, now⟩).toList = _
    rw [Array.toList_push, h.outstanding, h.send, numbered_concat,
      List.drop_append_of_le_length (by rw [length_numbered]; exact h.released_le)]
  · rw [List.length_append, List.length_singleton]
    exact hsize
  · rfl

/-- Acknowledging every frame accepted. -/
theorem acknowledgeReceived (h : v.Records sent released accepted covered) :
    v.acknowledgeReceived = (frameNumber accepted, { v with unacknowledged := 0 }) ∧
      { v with unacknowledged := 0 }.Records sent released accepted accepted :=
  ⟨by rw [Window.acknowledgeReceived, h.receive],
    ⟨h.send, h.receive, h.released_le, h.outstanding, h.length_le, rfl⟩⟩

/-- Releasing acknowledged frames, whatever the number. -/
theorem acknowledge (h : v.Records sent released accepted covered)
    (hack : v.acknowledge number = .ok (n, v')) :
    v'.Records sent (released + n) accepted covered ∧ v'.k = v.k ∧ v'.w = v.w ∧
      v'.unacknowledged = v.unacknowledged := by
  unfold Window.acknowledge at hack
  simp only at hack
  split at hack
  · cases hack
  · next hrange =>
    obtain ⟨rfl, rfl⟩ := Prod.mk.inj (Except.ok.inj hack)
    have hsize := h.size_outstanding
    have hle := h.released_le
    have hlen := h.length_le
    refine ⟨⟨h.send, h.receive, by omega, ?_, by simp only; omega, h.accepted_eq⟩,
      rfl, rfl, rfl⟩
    rw [Array.toList_extract, List.extract_eq_take_drop, h.outstanding, List.drop_drop,
      List.take_of_length_le (by simp only [List.length_drop, length_numbered]; omega)]

theorem base (h : v.Records sent released accepted covered) :
    v.base = frameNumber released := by
  have hfirst : v.outstanding[0]? = (numbered sent)[released]? := by
    rw [← Array.getElem?_toList, h.outstanding, List.getElem?_drop, Nat.add_zero]
  rw [Window.base, hfirst, numbered, List.getElem?_mapIdx, h.send]
  by_cases hreleased : released < sent.length
  · rw [List.getElem?_eq_getElem hreleased]
    rfl
  · -- Nothing is outstanding: the base is the number of the next frame.
    rw [List.getElem?_eq_none (Nat.le_of_not_lt hreleased),
      Nat.le_antisymm h.released_le (Nat.le_of_not_lt hreleased)]
    rfl

/-- The distance of the number of a frame from the oldest outstanding one. -/
theorem distance_frameNumber (h : v.Records sent released accepted covered)
    (hk : v.k.toNat < 32768) (hle : released ≤ n) (hn : n ≤ sent.length) :
    v.distance (frameNumber n) = n - released := by
  have hlen := h.length_le
  rw [distance, h.base]
  simp only [sequenceModulus, UInt16.toNat_mod, UInt16.toNat_sub, toNat_frameNumber,
    UInt16.reduceToNat]
  -- At most `k` frames are outstanding, so the distance comes round less than once.
  omega

/-- An acknowledgment is not refused if the frames that it covers were sent. -/
theorem acknowledge_frameNumber (h : v.Records sent released accepted covered)
    (hk : v.k.toNat < 32768) (hle : released ≤ n) (hn : n ≤ sent.length) :
    ∃ v', v.acknowledge (frameNumber n) = .ok (n - released, v') := by
  unfold Window.acknowledge
  simp only [h.distance_frameNumber hk hle hn]
  rw [if_neg]
  · exact ⟨_, rfl⟩
  · rw [h.size_outstanding, UInt16.le_iff_toNat_le, toNat_frameNumber]
    simp only [sequenceModulus, UInt16.reduceToNat]
    omega

/-- Accepting the next frame. -/
theorem accept (h : v.Records sent released accepted covered)
    (hcount : v.unacknowledged.toNat < 65535) (haccept : v.accept number = .ok (due, v')) :
    v'.Records sent released (accepted + 1) covered ∧ v'.k = v.k ∧ v'.w = v.w ∧
      v'.unacknowledged.toNat = v.unacknowledged.toNat + 1 ∧
      (due = true ↔ v.w.toNat ≤ v.unacknowledged.toNat + 1) := by
  unfold Window.accept at haccept
  split at haccept
  · next hnumber =>
    obtain ⟨rfl, rfl⟩ := Prod.mk.inj (Except.ok.inj haccept)
    -- The count is far from where it would stop growing.
    have hne : v.unacknowledged ≠ 0xFFFF := by
      rw [ne_eq, ← UInt16.toNat_inj]
      exact Nat.ne_of_lt hcount
    have hsucc : (v.unacknowledged + 1).toNat = v.unacknowledged.toNat + 1 := by
      rw [UInt16.toNat_add, UInt16.toNat_one]
      omega
    simp only [if_neg hne, UInt16.le_iff_toNat_le, decide_eq_true_eq, hsucc, true_and]
    refine ⟨⟨h.send, ?_, h.released_le, h.outstanding, h.length_le, ?_⟩, trivial⟩
    · simp only
      rw [hnumber, h.receive, successor_frameNumber]
    · simp only [hsucc]
      have := h.accepted_eq
      omega
  · cases haccept

end Records

theorem receive_of_acknowledge (h : v.acknowledge number = .ok (n, v')) :
    v'.receive = v.receive := by
  unfold acknowledge at h
  simp only at h
  split at h
  · cases h
  · cases h
    rfl

/-- An acknowledgment releases the oldest of the outstanding frames. -/
theorem outstanding_of_acknowledge (h : v.acknowledge number = .ok (n, v')) :
    v'.outstanding.toList = v.outstanding.toList.drop n := by
  unfold acknowledge at h
  simp only at h
  split at h
  · cases h
  · obtain ⟨rfl, rfl⟩ := Prod.mk.inj (Except.ok.inj h)
    rw [Array.toList_extract, List.extract_eq_take_drop, List.take_of_length_le (by simp)]

/-- Accepting a frame releases none. -/
theorem outstanding_of_accept (h : v.accept number = .ok (due, v')) :
    v'.outstanding = v.outstanding := by
  unfold accept at h
  split at h
  · obtain ⟨-, rfl⟩ := Prod.mk.inj (Except.ok.inj h)
    rfl
  · cases h

theorem acknowledge_error {cause : Fault} (h : v.acknowledge number = .error cause) :
    cause = .sequence v.send number := by
  unfold acknowledge at h
  simp only at h
  split at h
  · exact (Except.error.inj h).symm
  · cases h

theorem accept_error {cause : Fault} (h : v.accept number = .error cause) :
    cause = .sequence v.receive number := by
  unfold accept at h
  split at h
  · cases h
  · exact (Except.error.inj h).symm

/-- The frame that is expected is accepted. -/
theorem accept_receive (v : Window) (cause : Fault) : v.accept v.receive ≠ .error cause := by
  unfold accept
  rw [if_pos rfl]
  exact nofun

end Window

end Telecontrol
