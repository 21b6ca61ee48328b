import Telecontrol.Proofs.Window

/-!
# Windows count without bound

`Counts` keeps what a window keeps, with natural numbers that never come round: every frame that
was sent with its instant, how many were released, how many were accepted. Operations on the counts
are said without a subtraction of frame numbers: an acknowledgment is looked up among the frames
that are outstanding. A window gives the same answers (`Window.Follows.perform` for one operation,
`Window.Follows.performAll` for any number), so its frame numbers are the counts modulo 32768
(`Window.counts_without_bound`).
-/

namespace Telecontrol

/-! ### Operations -/

/-- What may be done with a window. -/
inductive WindowOperation
  /-- Number a frame that is sent at an instant. -/
  | nextSend (now : Nat)
  /-- Acknowledge every frame received. -/
  | acknowledgeReceived
  /-- Release the outstanding frames before a number. -/
  | acknowledge (number : UInt16)
  /-- Accept the frame with a number. -/
  | accept (number : UInt16)
  deriving DecidableEq, Repr

/-- What an operation answers. -/
inductive WindowAnswer
  /-- The numbers of a frame that is sent. -/
  | numbers (send receive : UInt16)
  /-- The number of a frame that only acknowledges. -/
  | number (receive : UInt16)
  /-- How many frames are released. -/
  | released (count : Nat)
  /-- The frame is accepted, and whether an acknowledgment is due. -/
  | accepted (due : Bool)
  /-- The number is out of order. -/
  | refused (fault : Fault)
  deriving DecidableEq

namespace Window

/-- Carry out an operation; one that is refused changes nothing. -/
def perform (v : Window) : WindowOperation → WindowAnswer × Window
  | .nextSend now =>
    let (send, receive, v') := v.nextSend now
    (.numbers send receive, v')
  | .acknowledgeReceived =>
    let (receive, v') := v.acknowledgeReceived
    (.number receive, v')
  | .acknowledge number =>
    match v.acknowledge number with
    | .ok (count, v') => (.released count, v')
    | .error fault => (.refused fault, v)
  | .accept number =>
    match v.accept number with
    | .ok (due, v') => (.accepted due, v')
    | .error fault => (.refused fault, v)

/-- Carry out operations one after the other. -/
def performAll (v : Window) : List WindowOperation → List WindowAnswer × Window
  | [] => ([], v)
  | operation :: operations =>
    let (answer, v') := v.perform operation
    let (answers, v'') := v'.performAll operations
    (answer :: answers, v'')

/-- A frame is sent only when there is room for it. -/
def Admits (v : Window) : List WindowOperation → Prop
  | [] => True
  | operation :: operations =>
    (∀ now, operation = .nextSend now → v.isFull = false) ∧
      (v.perform operation).2.Admits operations

end Window

/-! ### Counts -/

/-- What has happened to the frames in both directions. -/
structure Counts where
  /-- The instants at which frames were sent. -/
  sent : List Nat := []
  /-- How many of the frames sent were released. -/
  released : Nat := 0
  /-- How many frames were accepted. -/
  accepted : Nat := 0
  /-- How many frames were accepted since the last acknowledgment of them. -/
  waiting : Nat := 0
  deriving DecidableEq, Repr

namespace Counts

/-- How many frames an acknowledgment with a given number releases, found by trying: the frame
after them has that number. -/
def releasing? (c : Counts) (number : UInt16) : Option Nat :=
  (List.range (c.sent.length - c.released + 1)).find? fun n =>
    (c.released + n) % 32768 = number.toNat

/-- Carry out an operation; an acknowledgment of frames received is due from `w` of them on. -/
def perform (w : Nat) (c : Counts) : WindowOperation → WindowAnswer × Counts
  | .nextSend now =>
    (.numbers (frameNumber c.sent.length) (frameNumber c.accepted),
      { c with sent := c.sent ++ [now], waiting := 0 })
  | .acknowledgeReceived => (.number (frameNumber c.accepted), { c with waiting := 0 })
  | .acknowledge number =>
    match c.releasing? number with
    | some n => (.released n, { c with released := c.released + n })
    | none => (.refused (.sequence (frameNumber c.sent.length) number), c)
  | .accept number =>
    if number.toNat = c.accepted % 32768 then
      (.accepted (w ≤ c.waiting + 1),
        { c with accepted := c.accepted + 1, waiting := c.waiting + 1 })
    else (.refused (.sequence (frameNumber c.accepted) number), c)

/-- Carry out operations one after the other. -/
def performAll (w : Nat) (c : Counts) : List WindowOperation → List WindowAnswer × Counts
  | [] => ([], c)
  | operation :: operations =>
    let (answer, c') := c.perform w operation
    let (answers, c'') := c'.performAll w operations
    (answer :: answers, c'')

variable {c : Counts} {number : UInt16} {m n : Nat}

/-- At most one number of frames is meant by an acknowledgment, unless the frames outstanding go
round the frame numbers. -/
theorem releasing_unique (hroom : c.sent.length < c.released + 32768)
    (hm : c.released + m ≤ c.sent.length) (hn : c.released + n ≤ c.sent.length)
    (h : (c.released + m) % 32768 = (c.released + n) % 32768) : m = n := by
  omega

theorem le_of_releasing? (hle : c.released ≤ c.sent.length) (h : c.releasing? number = some n) :
    c.released + n ≤ c.sent.length ∧ (c.released + n) % 32768 = number.toNat := by
  unfold releasing? at h
  have hmem := List.mem_range.mp (List.mem_of_find?_eq_some h)
  have hfound := List.find?_some h
  exact ⟨by omega, of_decide_eq_true hfound⟩

theorem releasing?_eq_some_iff (hroom : c.sent.length < c.released + 32768)
    (hle : c.released ≤ c.sent.length) :
    c.releasing? number = some n ↔
      c.released + n ≤ c.sent.length ∧ (c.released + n) % 32768 = number.toNat := by
  refine ⟨le_of_releasing? hle, ?_⟩
  rintro ⟨hn, hnumber⟩
  cases hfind : c.releasing? number with
  | none =>
    have hall := List.find?_eq_none.mp hfind n (List.mem_range.mpr (by omega))
    exact absurd (decide_eq_true hnumber) hall
  | some m =>
    obtain ⟨hm, hsame⟩ := le_of_releasing? hle hfind
    rw [releasing_unique hroom hm hn (hsame.trans hnumber.symm)]

end Counts

/-! ### One operation -/

namespace Window

/-- A window and the counts that it keeps. -/
structure Follows (v : Window) (c : Counts) : Prop where
  records : v.Records c.sent c.released c.accepted (c.accepted - v.unacknowledged.toNat)
  unacknowledged : v.unacknowledged.toNat = min c.waiting 65535

variable {v v' : Window} {c : Counts} {number : UInt16} {n : Nat} {fault : Fault}

namespace Follows

theorem new (k w : UInt16) : ({ k := k, w := w } : Window).Follows {} := ⟨.new k w, rfl⟩

theorem send (h : v.Follows c) : v.send.toNat = c.sent.length % 32768 := by
  rw [h.records.send, toNat_frameNumber]

theorem receive (h : v.Follows c) : v.receive.toNat = c.accepted % 32768 := by
  rw [h.records.receive, toNat_frameNumber]

/-- Fewer frames are outstanding than there are frame numbers. -/
theorem length_lt (h : v.Follows c) (hk : v.k.toNat < 32768) :
    c.sent.length < c.released + 32768 := by
  have hroom := h.records.length_le
  omega

/-- The distance of a number from the oldest outstanding frame leads from that frame to the
number. -/
theorem distance_eq (h : v.Follows c) (hnumber : number.toNat < 32768) :
    (c.released + v.distance number) % 32768 = number.toNat := by
  rw [distance, h.records.base]
  simp only [sequenceModulus, UInt16.toNat_mod, UInt16.toNat_sub, toNat_frameNumber,
    UInt16.reduceToNat]
  omega

/-- An acknowledgment releases a number of frames exactly if the frame after them has the number
of the acknowledgment. -/
theorem acknowledge_eq_ok_iff (h : v.Follows c) (hk : v.k.toNat < 32768) :
    (∃ v', v.acknowledge number = .ok (n, v')) ↔ c.releasing? number = some n := by
  rw [Counts.releasing?_eq_some_iff (h.length_lt hk) h.records.released_le]
  constructor
  · rintro ⟨v', hack⟩
    unfold acknowledge at hack
    simp only at hack
    split at hack
    · cases hack
    · next hrange =>
      obtain ⟨rfl, -⟩ := Prod.mk.inj (Except.ok.inj hack)
      have hsize := h.records.size_outstanding
      have hle := h.records.released_le
      obtain ⟨hnumber, hcount⟩ := not_or.mp hrange
      rw [UInt16.le_iff_toNat_le] at hnumber
      exact ⟨by omega, h.distance_eq (Nat.lt_of_not_le hnumber)⟩
  · rintro ⟨hn, hnumber⟩
    obtain rfl : frameNumber (c.released + n) = number := by
      rw [← UInt16.toNat_inj, toNat_frameNumber, hnumber]
    obtain ⟨v', hack⟩ := h.records.acknowledge_frameNumber hk (Nat.le_add_right _ n) hn
    rw [Nat.add_sub_cancel_left] at hack
    exact ⟨v', hack⟩

/-- An acknowledgment that releases a number of frames is in range, and could not release another
number of them. -/
theorem acknowledge_eq_ok_iff_unique (h : v.Follows c) (hk : v.k.toNat < 32768) :
    (∃ v', v.acknowledge number = .ok (n, v')) ↔
      number.toNat < 32768 ∧ c.released + n ≤ c.sent.length ∧
        (c.released + n) % 32768 = number.toNat ∧
        ∀ m, c.released + m ≤ c.sent.length → (c.released + m) % 32768 = number.toNat → m = n := by
  have hroom := h.length_lt hk
  rw [h.acknowledge_eq_ok_iff hk, Counts.releasing?_eq_some_iff hroom h.records.released_le]
  constructor
  · rintro ⟨hn, hnumber⟩
    have hlt : number.toNat < 32768 := by
      rw [← hnumber]
      exact Nat.mod_lt _ (by decide)
    exact ⟨hlt, hn, hnumber, fun m hm hsame =>
      Counts.releasing_unique hroom hm hn (hsame.trans hnumber.symm)⟩
  · rintro ⟨-, hn, hnumber, -⟩
    exact ⟨hn, hnumber⟩

/-- The frame with the next number is accepted, and counted; the window stops counting when it has
no room for a larger count. -/
theorem accept_eq_ok (h : v.Follows c) (hnumber : number.toNat = c.accepted % 32768) :
    ∃ v', v.accept number = .ok (decide (v.w.toNat ≤ c.waiting + 1), v') ∧
      v'.Follows { c with accepted := c.accepted + 1, waiting := c.waiting + 1 } ∧
      v'.k = v.k ∧ v'.w = v.w := by
  have hreceive : number = v.receive := by
    rw [← UInt16.toNat_inj, h.receive, hnumber]
  subst hreceive
  have hcount := h.unacknowledged
  have haccepted := h.records.accepted_eq
  have hw := v.w.toNat_lt
  generalize hcounted :
    (if v.unacknowledged = 0xFFFF then 0xFFFF else v.unacknowledged + 1) = count
  have hnext : count.toNat = min (c.waiting + 1) 65535 := by
    rw [← hcounted]
    split
    · next hlast =>
      simp only [hlast, UInt16.reduceToNat] at hcount ⊢
      omega
    · next hne =>
      simp only [← UInt16.toNat_inj, UInt16.reduceToNat] at hne
      rw [UInt16.toNat_add, UInt16.toNat_one]
      omega
  refine ⟨{ v with receive := successor v.receive, unacknowledged := count }, ?_, ?_, rfl, rfl⟩
  · have hdue : decide (v.w ≤ count) = decide (v.w.toNat ≤ c.waiting + 1) := by
      rw [decide_eq_decide, UInt16.le_iff_toNat_le, hnext]
      omega
    simp only [Window.accept, if_true, hcounted, hdue]
  · refine ⟨⟨h.records.send, ?_, h.records.released_le, h.records.outstanding, h.records.length_le,
      ?_⟩, hnext⟩
    · show successor v.receive = _
      rw [h.records.receive, successor_frameNumber]
    · simp only [hnext]
      omega

/-- A frame is accepted exactly if it has the next number. -/
theorem accept_eq_ok_iff (h : v.Follows c) :
    (∃ due v', v.accept number = .ok (due, v')) ↔ number.toNat = c.accepted % 32768 := by
  constructor
  · rintro ⟨due, v', haccept⟩
    unfold accept at haccept
    split at haccept
    · next hnumber => rw [hnumber, h.receive]
    · cases haccept
  · intro hnumber
    obtain ⟨v', haccept, -⟩ := h.accept_eq_ok hnumber
    exact ⟨_, v', haccept⟩

/-- An operation is answered from the window as from the counts. -/
theorem perform (h : v.Follows c) (hk : v.k.toNat < 32768) {operation : WindowOperation}
    (hroom : ∀ now, operation = .nextSend now → v.isFull = false) :
    (v.perform operation).1 = (c.perform v.w.toNat operation).1 ∧
      (v.perform operation).2.Follows (c.perform v.w.toNat operation).2 ∧
      (v.perform operation).2.k = v.k ∧ (v.perform operation).2.w = v.w := by
  cases operation with
  | nextSend now =>
    obtain ⟨v', hsend, hrecords, hk', hw', hcount⟩ := h.records.nextSend (hroom now rfl) now
    rw [Window.perform, hsend]
    refine ⟨rfl, ⟨?_, ?_⟩, hk', hw'⟩
    · rw [hcount]
      exact hrecords
    · rw [hcount]
      rfl
  | acknowledgeReceived =>
    obtain ⟨hanswer, hrecords⟩ := h.records.acknowledgeReceived
    rw [Window.perform, hanswer]
    exact ⟨rfl, ⟨hrecords, rfl⟩, rfl, rfl⟩
  | acknowledge number =>
    cases hack : v.acknowledge number with
    | ok result =>
      obtain ⟨n, v'⟩ := result
      have hreleasing := (h.acknowledge_eq_ok_iff hk).mp ⟨v', hack⟩
      obtain ⟨hrecords, hk', hw', hcount⟩ := h.records.acknowledge hack
      rw [Window.perform, hack, Counts.perform, hreleasing]
      refine ⟨rfl, ⟨?_, ?_⟩, hk', hw'⟩
      · rw [hcount]
        exact hrecords
      · rw [hcount]
        exact h.unacknowledged
    | error fault =>
      have hreleasing : c.releasing? number = none := by
        refine Option.eq_none_iff_forall_ne_some.mpr fun n hn => ?_
        obtain ⟨v', hok⟩ := (h.acknowledge_eq_ok_iff hk).mpr hn
        rw [hack] at hok
        cases hok
      have hfault := acknowledge_error hack
      rw [h.records.send] at hfault
      rw [Window.perform, hack, Counts.perform, hreleasing, hfault]
      exact ⟨rfl, h, rfl, rfl⟩
  | accept number =>
    by_cases hnumber : number.toNat = c.accepted % 32768
    · obtain ⟨v', haccept, hfollows, hk', hw'⟩ := h.accept_eq_ok hnumber
      rw [Window.perform, haccept, Counts.perform, if_pos hnumber]
      exact ⟨rfl, hfollows, hk', hw'⟩
    · have hne : number ≠ v.receive := by
        rw [ne_eq, ← UInt16.toNat_inj, h.receive]
        exact hnumber
      have haccept : v.accept number = .error (.sequence v.receive number) := if_neg hne
      rw [Window.perform, haccept, Counts.perform, if_neg hnumber, h.records.receive]
      exact ⟨rfl, h, rfl, rfl⟩

/-- Operations are answered from the window as from the counts. -/
theorem performAll (h : v.Follows c) (hk : v.k.toNat < 32768) {operations : List WindowOperation}
    (hadmits : v.Admits operations) :
    (v.performAll operations).1 = (c.performAll v.w.toNat operations).1 ∧
      (v.performAll operations).2.Follows (c.performAll v.w.toNat operations).2 ∧
      (v.performAll operations).2.k = v.k := by
  induction operations generalizing v c with
  | nil => exact ⟨rfl, h, rfl⟩
  | cons operation operations ih =>
    obtain ⟨hroom, hrest⟩ := hadmits
    obtain ⟨hanswer, hfollows, hk', hw'⟩ := h.perform hk hroom
    obtain ⟨hanswers, hall, hk''⟩ := ih hfollows (hk' ▸ hk) hrest
    rw [hw'] at hanswers hall
    refine ⟨?_, hall, hk''.trans hk'⟩
    simp only [Window.performAll, Counts.performAll, hanswer, hanswers]

end Follows

/-- A refused operation changes nothing. -/
theorem perform_refused {operation : WindowOperation}
    (h : (v.perform operation).1 = .refused fault) : (v.perform operation).2 = v := by
  cases operation with
  | nextSend now => cases h
  | acknowledgeReceived => cases h
  | acknowledge number =>
    cases hack : v.acknowledge number with
    | ok result =>
      simp only [perform, hack] at h
      cases h
    | error cause => simp only [perform, hack]
  | accept number =>
    cases haccept : v.accept number with
    | ok result =>
      simp only [perform, haccept] at h
      cases h
    | error cause => simp only [perform, haccept]

/-- An acknowledgment releases the oldest outstanding frames and changes nothing else. -/
theorem eq_of_acknowledge (h : v.acknowledge number = .ok (n, v')) :
    v' = { v with outstanding := v'.outstanding } ∧
      v'.outstanding.toList = v.outstanding.toList.drop n := by
  refine ⟨?_, outstanding_of_acknowledge h⟩
  unfold acknowledge at h
  simp only at h
  split at h
  · cases h
  · cases h
    rfl

/-- Whatever is done with a new window, if frames are sent only when there is room for them: it
answers as the counts do. Between none and `k` of the frames sent are not released, and they are
outstanding with their numbers and instants; the next numbers are the counts modulo 32768. The
acknowledgments that release `n` frames are those with the number of the frame after them, if `n` is
the only number of outstanding frames of which this is true, and they release the `n` oldest. A
frame is accepted exactly if it has the next number. What is refused changes nothing, and no number
grows past its 16 bits. -/
theorem counts_without_bound (k w : UInt16) (hk : k.toNat ≤ 32767)
    (operations : List WindowOperation)
    (hadmits : ({ k := k, w := w } : Window).Admits operations) :
    let (answers, v) := ({ k := k, w := w } : Window).performAll operations
    let (expected, c) := ({} : Counts).performAll w.toNat operations
    answers = expected ∧ c.released ≤ c.sent.length ∧ c.sent.length ≤ c.released + k.toNat ∧
      v.send.toNat = c.sent.length % 32768 ∧ v.receive.toNat = c.accepted % 32768 ∧
      v.outstanding.toList = (numbered c.sent).drop c.released ∧
      (∀ number n, (∃ v', v.acknowledge number = .ok (n, v')) ↔
        number.toNat < 32768 ∧ c.released + n ≤ c.sent.length ∧
          (c.released + n) % 32768 = number.toNat ∧
          ∀ m, c.released + m ≤ c.sent.length → (c.released + m) % 32768 = number.toNat → m = n) ∧
      (∀ number n v', v.acknowledge number = .ok (n, v') →
        v' = { v with outstanding := v'.outstanding } ∧
          v'.outstanding.toList = v.outstanding.toList.drop n) ∧
      (∀ number, (∃ due v', v.accept number = .ok (due, v')) ↔
        number.toNat = c.accepted % 32768) ∧
      (∀ operation fault, (v.perform operation).1 = .refused fault →
        (v.perform operation).2 = v) ∧
      (v.send + 1).toNat = v.send.toNat + 1 ∧ (v.receive + 1).toNat = v.receive.toNat + 1 := by
  obtain ⟨hanswers, hfollows, hkept⟩ :=
    (Follows.new k w).performAll (Nat.lt_succ_of_le hk) hadmits
  rcases hperformed : ({ k := k, w := w } : Window).performAll operations with ⟨answers, v⟩
  rcases hcounted : ({} : Counts).performAll w.toNat operations with ⟨expected, c⟩
  simp only [hperformed, hcounted] at hanswers hfollows hkept
  have hwindow : v.k.toNat < 32768 := by
    rw [hkept]
    exact Nat.lt_succ_of_le hk
  have hsend := hfollows.send
  have hreceive := hfollows.receive
  refine ⟨hanswers, hfollows.records.released_le, hkept ▸ hfollows.records.length_le, hsend,
    hreceive, hfollows.records.outstanding,
    fun _ _ => hfollows.acknowledge_eq_ok_iff_unique hwindow,
    fun _ _ _ => eq_of_acknowledge, fun _ => hfollows.accept_eq_ok_iff,
    fun _ _ => perform_refused, ?_, ?_⟩
  · rw [UInt16.toNat_add, UInt16.toNat_one]
    omega
  · rw [UInt16.toNat_add, UInt16.toNat_one]
    omega

/-- A window with room for one frame: the first frame sent is acknowledged, the second is not by an
acknowledgment that repeats an old number, and a frame that was accepted is not accepted again. -/
theorem single_frame_window_counted :
    let operations : List WindowOperation :=
      [.accept 0, .nextSend 5, .acknowledge 1, .nextSend 7, .acknowledge 0, .accept 0]
    (1 : UInt16).toNat ≤ 32767 ∧ ({ k := 1, w := 1 } : Window).Admits operations ∧
      let (answers, v) := ({ k := 1, w := 1 } : Window).performAll operations
      answers = [.accepted true, .numbers 0 1, .released 1, .numbers 1 1,
          .refused (.sequence 2 0), .refused (.sequence 1 0)] ∧
        v.send.toNat = 2 ∧ v.receive.toNat = 1 ∧ v.outstanding.toList = [⟨1, 7⟩] := by
  intro operations
  have hadmits : ({ k := 1, w := 1 } : Window).Admits operations :=
    ⟨nofun, fun _ _ => rfl, nofun, fun _ _ => rfl, nofun, nofun, trivial⟩
  obtain ⟨hanswers, -, -, hsend, hreceive, houtstanding, -⟩ :=
    counts_without_bound 1 1 (by decide) operations hadmits
  exact ⟨by decide, hadmits, hanswers, hsend, hreceive, houtstanding⟩

end Window

end Telecontrol
