import Telecontrol.Proofs.Link.Endpoint

/-!
# Starting and stopping data transfer from both sides

Two stations start and stop data transfer independently, and learn of each other only what
arrives. What matters for this of a station is its `Posture`, and of a frame its `Signal`. A
numbered frame is *late* if its sender has asked for the end of data transfer and waits for
the confirmation.

`Courtesy` is the invariant of one direction. It says which frames are on their way
(`Admits`): a late frame will find data transfer stopped, any other numbered frame will find
it started, and a confirmation will find the activation that it answers. It is kept whatever
a station sends (`Courteous.sends`) and receives (`Courteous.takes`).
-/

namespace Telecontrol

/-- What a frame means for the state of data transfer. -/
inductive Signal
  /-- A numbered frame, late if its sender waited for the end of data transfer. -/
  | numbered (late : Bool)
  | unnumbered (function : LinkFunction)
  deriving DecidableEq

namespace Signal

/-- The state of data transfer that a signal leaves at the station where it arrives. A request
to start need not be granted at once. -/
def leads : Signal → LinkState → LinkState
  | unnumbered .startCon, _ => .started
  | unnumbered .stopAct, _ => .stopped
  | unnumbered .stopCon, _ => .stopped
  | _, state => state

/-- The state of data transfer in which a signal may arrive. -/
def Suits : Signal → LinkState → Prop
  | numbered late, state => state = if late then .stopped else .started
  | unnumbered .startAct, state => state = .stopped
  | unnumbered .stopAct, state => state = .started
  | _, _ => True

/-- Signals that do not follow a request to start that is on its way. -/
def Outdated (signal : Signal) : Prop :=
  signal = numbered true ∨ signal = unnumbered .stopCon

theorem not_outdated {function : LinkFunction} (h : function ≠ .stopCon) :
    ¬(unnumbered function).Outdated := by
  rintro (heq | heq)
  · cases heq
  · cases heq
    exact h rfl

end Signal

/-- The state of data transfer after signals have arrived. -/
def stateAfter : LinkState → List Signal → LinkState
  | state, [] => state
  | state, signal :: rest => stateAfter (signal.leads state) rest

/-- Signals may arrive one after the other. -/
def Admits : LinkState → List Signal → Prop
  | _, [] => True
  | state, signal :: rest =>
    signal.Suits state ∧ (signal = .unnumbered .startAct → ∀ later ∈ rest, ¬later.Outdated) ∧
      Admits (signal.leads state) rest

section

variable {state : LinkState} {signal : Signal} {signals : List Signal}

theorem leads_eq_started (h : signal.leads state = .started) :
    signal = .unnumbered .startCon ∨ state = .started := by
  rcases signal with late | function
  · exact .inr h
  · cases function <;> first | exact .inl rfl | exact .inr h | cases h

theorem leads_eq_stopped (h : signal.leads state = .stopped) :
    signal = .unnumbered .stopAct ∨ signal = .unnumbered .stopCon ∨ state = .stopped := by
  rcases signal with late | function
  · exact .inr (.inr h)
  · cases function <;>
      first | exact .inl rfl | exact .inr (.inl rfl) | exact .inr (.inr h) | cases h

theorem stateAfter_append (state : LinkState) (first rest : List Signal) :
    stateAfter state (first ++ rest) = stateAfter (stateAfter state first) rest := by
  induction first generalizing state with
  | nil => rfl
  | cons signal first ih => exact ih (signal.leads state)

@[simp] theorem stateAfter_concat (state : LinkState) (signals : List Signal)
    (signal : Signal) :
    stateAfter state (signals ++ [signal]) = signal.leads (stateAfter state signals) :=
  stateAfter_append state signals [signal]

/-- Data transfer is started only by a confirmation. -/
theorem stateAfter_eq_started (h : stateAfter state signals = .started) :
    state = .started ∨ .unnumbered .startCon ∈ signals := by
  induction signals generalizing state with
  | nil => exact .inl h
  | cons first rest ih =>
    rcases ih h with h | h
    · rcases leads_eq_started h with rfl | h
      · exact .inr List.mem_cons_self
      · exact .inl h
    · exact .inr (List.mem_cons_of_mem _ h)

/-- Data transfer is stopped only by a request or a confirmation. -/
theorem stateAfter_eq_stopped (h : stateAfter state signals = .stopped) :
    state = .stopped ∨ .unnumbered .stopAct ∈ signals ∨ .unnumbered .stopCon ∈ signals := by
  induction signals generalizing state with
  | nil => exact .inl h
  | cons first rest ih =>
    rcases ih h with h | h | h
    · rcases leads_eq_stopped h with rfl | rfl | h
      · exact .inr (.inl List.mem_cons_self)
      · exact .inr (.inr List.mem_cons_self)
      · exact .inl h
    · exact .inr (.inl (List.mem_cons_of_mem _ h))
    · exact .inr (.inr (List.mem_cons_of_mem _ h))

/-- After the confirmation of a start, only the end of data transfer leaves it stopped. -/
theorem stateAfter_of_startCon (hmem : .unnumbered .startCon ∈ signals)
    (h : stateAfter state signals = .stopped) :
    .unnumbered .stopAct ∈ signals ∨ .unnumbered .stopCon ∈ signals := by
  obtain ⟨before, after, rfl⟩ := List.append_of_mem hmem
  rw [stateAfter_append] at h
  have hrest : stateAfter .started after = .stopped := h
  rcases stateAfter_eq_stopped hrest with h | h | h
  · cases h
  · exact .inl (List.mem_append_right _ (List.mem_cons_of_mem _ h))
  · exact .inr (List.mem_append_right _ (List.mem_cons_of_mem _ h))

theorem Admits.suits_of_append {before after : List Signal}
    (h : Admits state (before ++ signal :: after)) : signal.Suits (stateAfter state before) := by
  induction before generalizing state with
  | nil => exact h.1
  | cons first before ih => exact ih h.2.2

/-- A signal may be sent if it suits the state after those on their way. -/
theorem Admits.concat (h : Admits state signals)
    (hsuits : signal.Suits (stateAfter state signals))
    (hstart : .unnumbered .startAct ∈ signals → ¬signal.Outdated) :
    Admits state (signals ++ [signal]) := by
  induction signals generalizing state with
  | nil => exact ⟨hsuits, fun _ => nofun, trivial⟩
  | cons first rest ih =>
    obtain ⟨hfirst, hlater, hrest⟩ := h
    refine ⟨hfirst, ?_, ih hrest hsuits fun h => hstart (List.mem_cons_of_mem _ h)⟩
    intro heq later hmem
    rcases List.mem_append.mp hmem with hmem | hmem
    · exact hlater heq later hmem
    · rw [List.mem_singleton.mp hmem]
      exact hstart (heq ▸ List.mem_cons_self)

/-- A request to stop finds data transfer started. -/
theorem Admits.startCon_of_stopAct (h : Admits .stopped signals)
    (hmem : .unnumbered .stopAct ∈ signals) : .unnumbered .startCon ∈ signals := by
  obtain ⟨before, after, rfl⟩ := List.append_of_mem hmem
  have hstarted : stateAfter .stopped before = .started := h.suits_of_append
  rcases stateAfter_eq_started hstarted with h | h
  · cases h
  · exact List.mem_append_left _ h

/-- A request to start finds data transfer stopped. -/
theorem Admits.startCon_of_startAct (h : Admits state signals)
    (hmem : .unnumbered .startAct ∈ signals) (hstate : stateAfter state signals = .started) :
    .unnumbered .startCon ∈ signals := by
  obtain ⟨before, after, rfl⟩ := List.append_of_mem hmem
  have hstopped : stateAfter state before = .stopped := h.suits_of_append
  rw [stateAfter_append, hstopped] at hstate
  rcases stateAfter_eq_started hstate with h | h
  · cases h
  · exact List.mem_append_right _ h

/-- Data transfer may start early if neither a late frame nor a request to start is on its
way. -/
theorem Admits.started (h : Admits .stopped signals) (hlate : .numbered true ∉ signals)
    (hstart : .unnumbered .startAct ∉ signals) : Admits .started signals := by
  induction signals with
  | nil => trivial
  | cons first rest ih =>
    obtain ⟨hfirst, hlater, hrest⟩ := h
    have ih := fun h => ih h (fun h => hlate (List.mem_cons_of_mem _ h)) fun h =>
      hstart (List.mem_cons_of_mem _ h)
    rcases first with late | function
    · cases late with
      | false => cases hfirst
      | true => exact absurd List.mem_cons_self hlate
    · cases function with
      | startAct => exact absurd List.mem_cons_self hstart
      | stopAct => cases hfirst
      | startCon | stopCon => exact ⟨hfirst, hlater, hrest⟩
      | testAct | testCon => exact ⟨hfirst, hlater, ih hrest⟩

end

/-! ### Postures -/

/-- What of a station matters for starting and stopping data transfer. -/
structure Posture where
  isOpen : Bool
  state : LinkState
  pending : Option LinkFunction
  requested : Bool
  testing : Bool

namespace Posture

/-- How many confirmations of an activation are awaited. -/
def awaits (x : Posture) (function : LinkFunction) : Nat :=
  if x.pending = some function then 1 else 0

/-- What a numbered frame means that is sent now. -/
def numbered (x : Posture) : Signal := .numbered (x.pending == some .stopAct)

def close (x : Posture) : Posture := { x with isOpen := false, pending := none }

/-- What a station may send of its own accord, and its posture afterwards. -/
inductive Sends (x : Posture) : Signal → Posture → Prop
  | numbered : x.state = .started → Sends x x.numbered x
  | startAct : x.state = .stopped → x.pending = none →
      Sends x (.unnumbered .startAct) { x with pending := some .startAct }
  | stopAct : x.state = .started → x.pending = none →
      Sends x (.unnumbered .stopAct) { x with pending := some .stopAct }
  | startCon : x.state = .stopped → x.pending = none → x.requested = true →
      Sends x (.unnumbered .startCon) { x with requested := false, state := .started }
  | testAct : x.testing = false → Sends x (.unnumbered .testAct) { x with testing := true }

/-- What a station may do when a signal arrives: its answers, and its posture afterwards. -/
inductive Takes (x : Posture) : Signal → List Signal → Posture → Prop
  | refuses {signal} : Takes x signal [] x.close
  | numbered {late} : x.state = .started → Takes x (.numbered late) [] x
  | numberedDue {late} : x.state = .started → Takes x (.numbered late) [x.numbered] x
  | testAct : Takes x (.unnumbered .testAct) [.unnumbered .testCon] x
  | testCon : Takes x (.unnumbered .testCon) [] { x with testing := false }
  | startAct : x.state = .stopped →
      Takes x (.unnumbered .startAct) [.unnumbered .startCon] { x with state := .started }
  | startActEarly : x.state = .stopped →
      Takes x (.unnumbered .startAct) [] { x with requested := true }
  | startActLate : x.state = .started →
      Takes x (.unnumbered .startAct) [.unnumbered .startCon] x
  | startCon : x.pending = some .startAct →
      Takes x (.unnumbered .startCon) [] { x with pending := none, state := .started }
  | stopAct : Takes x (.unnumbered .stopAct) [.unnumbered .stopCon] { x with state := .stopped }
  | stopActOwing : Takes x (.unnumbered .stopAct) [x.numbered, .unnumbered .stopCon]
      { x with state := .stopped }
  | stopCon : x.pending = some .stopAct →
      Takes x (.unnumbered .stopCon) [] { x with pending := none, state := .stopped }

end Posture

/-- How many activations of one station and confirmations of them are on their way. -/
def activations (function : LinkFunction) (out back : List Signal) : Nat :=
  out.count (.unnumbered function) + back.count (.unnumbered function.confirmation)

/-- Of `awaited` confirmations, `count` activations and confirmations are on their way. They
are all on their way as long as both connections are open. -/
structure Tallies (isOpen isOpen' : Bool) (count awaited : Nat) : Prop where
  le_one : count ≤ 1
  le : isOpen → count ≤ awaited
  ge : isOpen → isOpen' → awaited ≤ count

/-- What holds of the signals `out` from a station `x` to a station `y`; `back` are those on
the way back. -/
structure Courtesy (x y : Posture) (out back : List Signal) : Prop where
  starts : Tallies x.isOpen y.isOpen (activations .startAct out back + y.requested.toNat)
    (x.awaits .startAct)
  stops : Tallies x.isOpen y.isOpen (activations .stopAct out back) (x.awaits .stopAct)
  tests : Tallies x.isOpen y.isOpen (activations .testAct out back) x.testing.toNat
  admits : y.isOpen → Admits y.state out
  requested : y.isOpen → y.requested → .numbered true ∉ out
  started_iff : x.isOpen → y.isOpen →
    (stateAfter y.state out = .started ↔
      x.state = .started ∧ x.pending ≠ some .stopAct ∨ .unnumbered .startCon ∈ back)

/-- Both directions. -/
structure Courteous (x y : Posture) (out back : List Signal) : Prop where
  outward : Courtesy x y out back
  inward : Courtesy y x back out

variable {x x' y : Posture} {out back : List Signal} {signal : Signal}
  {function : LinkFunction}

theorem Posture.pending_of_awaits (h : 0 < x.awaits function) : x.pending = some function := by
  unfold awaits at h
  split at h
  · assumption
  · cases h

@[simp] theorem activations_concat (function : LinkFunction) (out back : List Signal)
    (signal : Signal) :
    activations function (out ++ [signal]) back =
      activations function out back + if signal = .unnumbered function then 1 else 0 := by
  simp only [activations, List.count_append, List.count_singleton, beq_iff_eq]
  omega

@[simp] theorem activations_concat_back (function : LinkFunction) (out back : List Signal)
    (signal : Signal) :
    activations function out (back ++ [signal]) =
      activations function out back +
        if signal = .unnumbered function.confirmation then 1 else 0 := by
  simp only [activations, List.count_append, List.count_singleton, beq_iff_eq]
  omega

@[simp] theorem activations_cons (function : LinkFunction) (out back : List Signal)
    (signal : Signal) :
    activations function (signal :: out) back =
      activations function out back + if signal = .unnumbered function then 1 else 0 := by
  simp only [activations, List.count_cons, beq_iff_eq]
  omega

@[simp] theorem activations_cons_back (function : LinkFunction) (out back : List Signal)
    (signal : Signal) :
    activations function out (signal :: back) =
      activations function out back +
        if signal = .unnumbered function.confirmation then 1 else 0 := by
  simp only [activations, List.count_cons, beq_iff_eq]
  omega

theorem activations_pos (back : List Signal) (h : .unnumbered function ∈ out) :
    0 < activations function out back :=
  Nat.add_pos_left (List.count_pos_iff.mpr h) _

theorem activations_pos_back (function : LinkFunction) (out : List Signal)
    (h : .unnumbered function.confirmation ∈ back) : 0 < activations function out back :=
  Nat.add_pos_right _ (List.count_pos_iff.mpr h)

namespace Courtesy

theorem pending_of_startAct (h : Courtesy x y out back) (hx : x.isOpen)
    (hmem : .unnumbered .startAct ∈ out) : x.pending = some .startAct := by
  have hle := h.starts.le hx
  have hpos := activations_pos back hmem
  exact Posture.pending_of_awaits (by omega)

theorem pending_of_startCon (h : Courtesy x y out back) (hx : x.isOpen)
    (hmem : .unnumbered .startCon ∈ back) : x.pending = some .startAct := by
  have hle := h.starts.le hx
  have hpos := activations_pos_back .startAct out hmem
  exact Posture.pending_of_awaits (by omega)

theorem pending_of_requested (h : Courtesy x y out back) (hx : x.isOpen)
    (hrequested : y.requested = true) : x.pending = some .startAct := by
  have hle := h.starts.le hx
  rw [hrequested, Bool.toNat_true] at hle
  exact Posture.pending_of_awaits (by omega)

theorem pending_of_stopAct (h : Courtesy x y out back) (hx : x.isOpen)
    (hmem : .unnumbered .stopAct ∈ out) : x.pending = some .stopAct :=
  Posture.pending_of_awaits (Nat.lt_of_lt_of_le (activations_pos back hmem) (h.stops.le hx))

theorem pending_of_stopCon (h : Courtesy x y out back) (hx : x.isOpen)
    (hmem : .unnumbered .stopCon ∈ back) : x.pending = some .stopAct :=
  Posture.pending_of_awaits (Nat.lt_of_lt_of_le
    (activations_pos_back .stopAct out hmem) (h.stops.le hx))

theorem testing_of_testCon (h : Courtesy x y out back) (hx : x.isOpen)
    (hmem : .unnumbered .testCon ∈ back) : x.testing = true := by
  have hle := h.tests.le hx
  have hpos := activations_pos_back .testAct out hmem
  cases htesting : x.testing with
  | false =>
    rw [htesting, Bool.toNat_false] at hle
    omega
  | true => rfl

/-- Where no call waits for a confirmation of the start, none of it is on its way. -/
theorem not_mem_of_pending_ne (h : Courtesy x y out back) (hx : x.isOpen)
    (hpending : x.pending ≠ some .startAct) :
    .unnumbered .startAct ∉ out ∧ .unnumbered .startCon ∉ back ∧ y.requested = false :=
  ⟨fun hmem => hpending (h.pending_of_startAct hx hmem),
    fun hmem => hpending (h.pending_of_startCon hx hmem),
    Bool.eq_false_iff.mpr fun hrequested => hpending (h.pending_of_requested hx hrequested)⟩

/-- On the way back, only confirmations matter. -/
theorem concat_back (h : Courtesy y x back out)
    (hsame : x'.isOpen = x.isOpen ∧ x'.state = x.state ∧ x'.requested = x.requested)
    (hsignal : ∀ function : LinkFunction, signal ≠ .unnumbered function.confirmation) :
    Courtesy y x' back (out ++ [signal]) := by
  obtain ⟨hopen, hstate, hrequested⟩ := hsame
  have hcount : ∀ function, activations function back (out ++ [signal]) =
      activations function back out := by
    intro function
    rw [activations_concat_back, if_neg (hsignal function), Nat.add_zero]
  refine ⟨?_, ?_, ?_, ?_, ?_, ?_⟩
  · rw [hcount, hopen, hrequested]
    exact h.starts
  · rw [hcount, hopen]
    exact h.stops
  · rw [hcount, hopen]
    exact h.tests
  · rw [hopen, hstate]
    exact h.admits
  · rw [hopen, hrequested]
    exact h.requested
  · rw [hopen, hstate]
    intro hy hx
    have hne : Signal.unnumbered .startCon ≠ signal := (hsignal .startAct).symm
    rw [h.started_iff hy hx, List.mem_append, List.mem_singleton]
    simp only [hne, or_false]

/-- A signal that is no activation may be followed where it arrives. -/
theorem follows (h : Courtesy y x (signal :: back) out)
    (hsame : x'.isOpen = x.isOpen ∧ x'.state = signal.leads x.state ∧
      x'.requested = x.requested)
    (hstart : signal ≠ .unnumbered .startAct) (hstop : signal ≠ .unnumbered .stopAct)
    (htest : signal ≠ .unnumbered .testAct) : Courtesy y x' back out := by
  obtain ⟨hopen, hstate, hrequested⟩ := hsame
  refine ⟨?_, ?_, ?_, ?_, ?_, ?_⟩
  · simpa [hopen, hrequested, hstart] using h.starts
  · simpa [hopen, hstop] using h.stops
  · simpa [hopen, htest] using h.tests
  · rw [hopen, hstate]
    exact fun hx => (h.admits hx).2.2
  · rw [hopen, hrequested]
    exact fun hx hrequested hmem => h.requested hx hrequested (List.mem_cons_of_mem _ hmem)
  · rw [hopen, hstate]
    exact h.started_iff

end Courtesy

namespace Tallies

variable {isOpen isOpen' : Bool} {count : Nat}

theorem begins (h : Tallies isOpen isOpen' count 0) (hopen : isOpen) :
    Tallies isOpen isOpen' (count + 1) 1 := by
  have hle := h.le hopen
  exact ⟨by omega, fun _ => by omega, fun _ _ => by omega⟩

theorem ends (h : Tallies isOpen isOpen' (count + 1) 1) : Tallies isOpen isOpen' count 0 := by
  have hle := h.le_one
  exact ⟨by omega, fun _ => by omega, fun _ _ => by omega⟩

theorem of_closed {count' awaited : Nat} (h : Tallies isOpen isOpen' count awaited)
    (hclosed : ¬isOpen) (hle : count' ≤ count) : Tallies isOpen isOpen' count' awaited :=
  ⟨Nat.le_trans hle h.le_one, fun hopen => absurd hopen hclosed,
    fun hopen => absurd hopen hclosed⟩

theorem to_closed {count' awaited : Nat} (h : Tallies isOpen isOpen' count awaited)
    (hclosed : ¬isOpen') (hle : count' ≤ count) : Tallies isOpen isOpen' count' awaited :=
  ⟨Nat.le_trans hle h.le_one, fun hopen => Nat.le_trans hle (h.le hopen),
    fun _ hopen => absurd hopen hclosed⟩

end Tallies

/-- The posture at the beginning of a connection. -/
def Posture.new : Posture where
  isOpen := true
  state := .stopped
  pending := none
  requested := false
  testing := false

namespace Courteous

theorem new : Courteous .new .new [] [] := by
  have hcourtesy : Courtesy .new .new [] [] :=
    ⟨⟨by decide, fun _ => by decide, fun _ _ => by decide⟩,
      ⟨by decide, fun _ => by decide, fun _ _ => by decide⟩,
      ⟨by decide, fun _ => by decide, fun _ _ => by decide⟩,
      fun _ => trivial, fun _ => nofun, fun _ _ => by simp [stateAfter, Posture.new]⟩
  exact ⟨hcourtesy, hcourtesy⟩

/-! ### What a station sends of its own accord -/

theorem sends_numbered (h : Courteous x y out back) (hx : x.isOpen)
    (hstate : x.state = .started) : Courteous x y (out ++ [x.numbered]) back := by
  have hlate : x.numbered = .numbered true → x.pending = some .stopAct := by
    intro heq
    simpa [Posture.numbered] using heq
  constructor
  · refine ⟨?_, ?_, ?_, ?_, ?_, ?_⟩
    · simpa [Posture.numbered] using h.outward.starts
    · simpa [Posture.numbered] using h.outward.stops
    · simpa [Posture.numbered] using h.outward.tests
    · intro hy
      have hiff := h.outward.started_iff hx hy
      by_cases hpending : x.pending = some .stopAct
      · -- No start is asked for, so that the other station will be stopped by then.
        obtain ⟨hout, hback, -⟩ := h.outward.not_mem_of_pending_ne hx (by simp [hpending])
        have hstopped : stateAfter y.state out = .stopped :=
          LinkState.eq_stopped_of_ne fun hstarted =>
            (hiff.mp hstarted).elim (fun h => h.2 hpending) hback
        refine (h.outward.admits hy).concat ?_ fun hmem => absurd hmem hout
        rw [hstopped, Posture.numbered, hpending]
        rfl
      · have hstarted : stateAfter y.state out = .started := hiff.mpr (.inl ⟨hstate, hpending⟩)
        have hnumbered : x.numbered = .numbered false := by simpa [Posture.numbered] using hpending
        refine (h.outward.admits hy).concat ?_ fun _ houtdated => ?_
        · rw [hstarted, hnumbered]
          rfl
        · rw [hnumbered] at houtdated
          rcases houtdated with heq | heq <;> cases heq
    · intro hy hrequested hmem
      rcases List.mem_append.mp hmem with hmem | hmem
      · exact h.outward.requested hy hrequested hmem
      · have hpending := h.outward.pending_of_requested hx hrequested
        rw [hlate (List.mem_singleton.mp hmem).symm] at hpending
        cases hpending
    · intro _ hy
      rw [stateAfter_concat]
      exact h.outward.started_iff hx hy
  · exact h.inward.concat_back ⟨rfl, rfl, rfl⟩ nofun

theorem sends_startAct (h : Courteous x y out back) (hx : x.isOpen)
    (hstate : x.state = .stopped) (hpending : x.pending = none) :
    Courteous { x with pending := some .startAct } y (out ++ [.unnumbered .startAct]) back := by
  obtain ⟨-, hback, -⟩ := h.outward.not_mem_of_pending_ne hx (by simp [hpending])
  constructor
  · refine ⟨?_, ?_, ?_, ?_, ?_, ?_⟩
    · have hstarts := h.outward.starts
      rw [Posture.awaits, hpending, if_neg nofun] at hstarts
      simpa [Posture.awaits, Nat.add_right_comm] using hstarts.begins hx
    · simpa [Posture.awaits, hpending] using h.outward.stops
    · simpa using h.outward.tests
    · intro hy
      refine (h.outward.admits hy).concat ?_ fun _ => Signal.not_outdated nofun
      -- Nothing started the other station that this one does not know of.
      refine LinkState.eq_stopped_of_ne fun hstarted => ?_
      rcases (h.outward.started_iff hx hy).mp hstarted with hstarted | hmem
      · rw [hstate] at hstarted
        cases hstarted.1
      · exact hback hmem
    · intro hy hrequested
      simpa using h.outward.requested hy hrequested
    · intro _ hy
      rw [stateAfter_concat]
      simpa [hpending, hstate, Signal.leads] using h.outward.started_iff hx hy
  · exact h.inward.concat_back ⟨rfl, rfl, rfl⟩ fun function => by cases function <;> nofun

theorem sends_stopAct (h : Courteous x y out back) (hx : x.isOpen)
    (hstate : x.state = .started) (hpending : x.pending = none) :
    Courteous { x with pending := some .stopAct } y (out ++ [.unnumbered .stopAct]) back := by
  obtain ⟨-, hback, -⟩ := h.outward.not_mem_of_pending_ne hx (by simp [hpending])
  constructor
  · refine ⟨?_, ?_, ?_, ?_, ?_, ?_⟩
    · simpa [Posture.awaits, hpending] using h.outward.starts
    · have hstops := h.outward.stops
      rw [Posture.awaits, hpending, if_neg nofun] at hstops
      simpa [Posture.awaits] using hstops.begins hx
    · simpa using h.outward.tests
    · intro hy
      refine (h.outward.admits hy).concat ?_ fun _ => Signal.not_outdated nofun
      exact (h.outward.started_iff hx hy).mpr (.inl ⟨hstate, by simp [hpending]⟩)
    · intro hy hrequested
      simpa using h.outward.requested hy hrequested
    · intro _ hy
      rw [stateAfter_concat]
      simpa [Signal.leads] using hback
  · exact h.inward.concat_back ⟨rfl, rfl, rfl⟩ fun function => by cases function <;> nofun

theorem sends_testAct (h : Courteous x y out back) (hx : x.isOpen)
    (htesting : x.testing = false) :
    Courteous { x with testing := true } y (out ++ [.unnumbered .testAct]) back := by
  constructor
  · refine ⟨?_, ?_, ?_, ?_, ?_, ?_⟩
    · simpa [Posture.awaits] using h.outward.starts
    · simpa [Posture.awaits] using h.outward.stops
    · have htests := h.outward.tests
      rw [htesting] at htests
      simpa using htests.begins hx
    · intro hy
      exact (h.outward.admits hy).concat trivial fun _ => Signal.not_outdated nofun
    · intro hy hrequested
      simpa using h.outward.requested hy hrequested
    · intro _ hy
      rw [stateAfter_concat]
      exact h.outward.started_iff hx hy
  · exact h.inward.concat_back ⟨rfl, rfl, rfl⟩ fun function => by cases function <;> nofun

/-- A request to start that arrived is granted. -/
theorem grants (h : Courteous x y out back) (hx : x.isOpen) (hstate : x.state = .stopped)
    (hrequested : x.requested = true) (hback : .unnumbered .stopCon ∉ back)
    (hpending : y.isOpen → x.pending ≠ some .stopAct) :
    Courteous { x with requested := false, state := .started } y
      (out ++ [.unnumbered .startCon]) back := by
  constructor
  · refine ⟨?_, ?_, ?_, ?_, ?_, ?_⟩
    · simpa [Posture.awaits] using h.outward.starts
    · simpa [Posture.awaits] using h.outward.stops
    · simpa using h.outward.tests
    · intro hy
      exact (h.outward.admits hy).concat trivial fun _ => Signal.not_outdated nofun
    · intro hy hrequested
      simpa using h.outward.requested hy hrequested
    · intro _ hy
      rw [stateAfter_concat]
      simpa [Signal.leads] using .inl (hpending hy)
  · have hstarts := h.inward.starts
    rw [hrequested, Bool.toNat_true] at hstarts
    refine ⟨?_, ?_, ?_, ?_, fun _ => nofun, ?_⟩
    · simpa [LinkFunction.confirmation] using hstarts
    · simpa [LinkFunction.confirmation] using h.inward.stops
    · simpa [LinkFunction.confirmation] using h.inward.tests
    · intro _
      have hadmits := h.inward.admits hx
      rw [hstate] at hadmits
      refine hadmits.started (h.inward.requested hx hrequested) fun hmem => ?_
      -- A second request would count twice, as only one start is awaited.
      have hpos := activations_pos out hmem
      have hle := hstarts.le_one
      omega
    · intro hy _
      -- The other station waits for its start, so it did not ask for the end.
      have hstarted : stateAfter .started back = .started := by
        refine LinkState.eq_started_of_ne fun hstopped => ?_
        rcases stateAfter_eq_stopped hstopped with heq | hmem | hmem
        · cases heq
        · have hpending := h.inward.pending_of_stopAct hy hmem
          rw [h.inward.pending_of_requested hy hrequested] at hpending
          cases hpending
        · exact hback hmem
      simp [hstarted]

theorem sends_startCon (h : Courteous x y out back) (hx : x.isOpen)
    (hstate : x.state = .stopped) (hpending : x.pending = none) (hrequested : x.requested = true) :
    Courteous { x with requested := false, state := .started } y
      (out ++ [.unnumbered .startCon]) back := by
  refine h.grants hx hstate hrequested (fun hmem => ?_) fun _ => by simp [hpending]
  have hpending' := h.outward.pending_of_stopCon hx hmem
  rw [hpending] at hpending'
  cases hpending'

/-- A station may send what it sends of its own accord. -/
theorem sends (h : Courteous x y out back) (hx : x.isOpen) (hsends : x.Sends signal x') :
    Courteous x' y (out ++ [signal]) back := by
  cases hsends with
  | numbered hstate => exact h.sends_numbered hx hstate
  | startAct hstate hpending => exact h.sends_startAct hx hstate hpending
  | stopAct hstate hpending => exact h.sends_stopAct hx hstate hpending
  | startCon hstate hpending hrequested => exact h.sends_startCon hx hstate hpending hrequested
  | testAct htesting => exact h.sends_testAct hx htesting

/-! ### What a station does when a signal arrives -/

/-- A closed connection takes no notice of signals. -/
theorem drops (h : Courteous x y out (signal :: back)) (hx : x.isOpen = false) :
    Courteous x y out back := by
  have hle : ∀ function,
      activations function back out ≤ activations function (signal :: back) out := by
    intro function
    rw [activations_cons]
    exact Nat.le_add_right _ _
  have hle' : ∀ function,
      activations function out back ≤ activations function out (signal :: back) := by
    intro function
    rw [activations_cons_back]
    exact Nat.le_add_right _ _
  have hclosed : ¬(x.isOpen = true) := by simp [hx]
  constructor
  · refine ⟨?_, ?_, ?_, h.outward.admits, h.outward.requested, fun h => absurd h hclosed⟩
    · exact h.outward.starts.of_closed hclosed (Nat.add_le_add_right (hle' _) _)
    · exact h.outward.stops.of_closed hclosed (hle' _)
    · exact h.outward.tests.of_closed hclosed (hle' _)
  · refine ⟨?_, ?_, ?_, fun h => absurd h hclosed, fun h => absurd h hclosed,
      fun _ h => absurd h hclosed⟩
    · exact h.inward.starts.to_closed hclosed (Nat.add_le_add_right (hle _) _)
    · exact h.inward.stops.to_closed hclosed (hle _)
    · exact h.inward.tests.to_closed hclosed (hle _)

theorem closes (h : Courteous x y out back) : Courteous x.close y out back := by
  have hclosed : ¬(x.close.isOpen = true) := nofun
  constructor
  · refine ⟨?_, ?_, ?_, h.outward.admits, h.outward.requested, fun h => absurd h hclosed⟩
    · exact ⟨h.outward.starts.le_one, nofun, nofun⟩
    · exact ⟨h.outward.stops.le_one, nofun, nofun⟩
    · exact ⟨h.outward.tests.le_one, nofun, nofun⟩
  · refine ⟨?_, ?_, ?_, fun h => absurd h hclosed, fun h => absurd h hclosed,
      fun _ h => absurd h hclosed⟩
    · exact ⟨h.inward.starts.le_one, h.inward.starts.le, nofun⟩
    · exact ⟨h.inward.stops.le_one, h.inward.stops.le, nofun⟩
    · exact ⟨h.inward.tests.le_one, h.inward.tests.le, nofun⟩

theorem takes_numbered {late : Bool} (h : Courteous x y out (.numbered late :: back)) :
    Courteous x y out back := by
  constructor
  · refine ⟨?_, ?_, ?_, h.outward.admits, h.outward.requested, ?_⟩
    · simpa using h.outward.starts
    · simpa using h.outward.stops
    · simpa using h.outward.tests
    · simpa using h.outward.started_iff
  · exact h.inward.follows ⟨rfl, rfl, rfl⟩ nofun nofun nofun

theorem takes_testAct (h : Courteous x y out (.unnumbered .testAct :: back)) :
    Courteous x y (out ++ [.unnumbered .testCon]) back := by
  constructor
  · refine ⟨?_, ?_, ?_, ?_, ?_, ?_⟩
    · simpa [LinkFunction.confirmation] using h.outward.starts
    · simpa [LinkFunction.confirmation] using h.outward.stops
    · simpa [LinkFunction.confirmation] using h.outward.tests
    · intro hy
      exact (h.outward.admits hy).concat trivial fun _ => Signal.not_outdated nofun
    · intro hy hrequested
      simpa using h.outward.requested hy hrequested
    · simpa [Signal.leads] using h.outward.started_iff
  · refine ⟨?_, ?_, ?_, fun hx => (h.inward.admits hx).2.2, ?_, ?_⟩
    · simpa [LinkFunction.confirmation] using h.inward.starts
    · simpa [LinkFunction.confirmation] using h.inward.stops
    · simpa [LinkFunction.confirmation] using h.inward.tests
    · simpa using h.inward.requested
    · simpa [stateAfter, Signal.leads] using h.inward.started_iff

theorem takes_testCon (h : Courteous x y out (.unnumbered .testCon :: back)) (hx : x.isOpen) :
    Courteous { x with testing := false } y out back := by
  have htesting := h.outward.testing_of_testCon hx List.mem_cons_self
  constructor
  · refine ⟨?_, ?_, ?_, h.outward.admits, h.outward.requested, ?_⟩
    · simpa [LinkFunction.confirmation, Posture.awaits] using h.outward.starts
    · simpa [LinkFunction.confirmation, Posture.awaits] using h.outward.stops
    · have htests := h.outward.tests
      rw [htesting, activations_cons_back, if_pos (by rfl)] at htests
      exact htests.ends
    · simpa using h.outward.started_iff
  · exact h.inward.follows ⟨rfl, rfl, rfl⟩ nofun nofun nofun

/-- Only one request to start is on its way or waits to be granted. -/
theorem not_requested (h : Courteous x y out (.unnumbered .startAct :: back)) :
    x.requested = false := by
  have hle := h.inward.starts.le_one
  rw [activations_cons, if_pos rfl] at hle
  cases hrequested : x.requested with
  | false => rfl
  | true =>
    rw [hrequested, Bool.toNat_true] at hle
    omega

theorem takes_startActEarly (h : Courteous x y out (.unnumbered .startAct :: back))
    (hx : x.isOpen) : Courteous { x with requested := true } y out back := by
  have hrequested := h.not_requested
  constructor
  · refine ⟨?_, ?_, ?_, h.outward.admits, h.outward.requested, ?_⟩
    · simpa [LinkFunction.confirmation, Posture.awaits] using h.outward.starts
    · simpa [LinkFunction.confirmation, Posture.awaits] using h.outward.stops
    · simpa [LinkFunction.confirmation] using h.outward.tests
    · simpa using h.outward.started_iff
  · refine ⟨?_, ?_, ?_, fun hx => (h.inward.admits hx).2.2, ?_, ?_⟩
    · simpa [hrequested] using h.inward.starts
    · simpa using h.inward.stops
    · simpa using h.inward.tests
    · exact fun _ _ hmem => (h.inward.admits hx).2.1 rfl _ hmem (.inl rfl)
    · simpa [stateAfter, Signal.leads] using h.inward.started_iff

/-- Where a request to start arrives, the other station does not wait for this one to stop. -/
theorem pending_ne_of_requested (h : Courteous x y out back) (hx : x.isOpen) (hy : y.isOpen)
    (hstate : x.state = .stopped) (hrequested : x.requested = true)
    (hback : .unnumbered .stopCon ∉ back) : x.pending ≠ some .stopAct := by
  intro hpending
  have hpending' := h.inward.pending_of_requested hy hrequested
  obtain ⟨-, hstartCon, -⟩ := h.outward.not_mem_of_pending_ne hx (by simp [hpending])
  have hstopAct : .unnumbered .stopAct ∈ out := by
    have hge := h.outward.stops.ge hx hy
    have hcount : back.count (.unnumbered .stopCon) = 0 := List.count_eq_zero.mpr hback
    rw [Posture.awaits, if_pos hpending, activations, LinkFunction.confirmation, hcount] at hge
    exact List.count_pos_iff.mp hge
  -- Nothing on the way back starts data transfer here, so the other station is stopped.
  have hnot : ¬stateAfter x.state back = .started := by
    intro hstarted
    rcases stateAfter_eq_started hstarted with hstarted | hmem
    · rw [hstate] at hstarted
      cases hstarted
    · exact hstartCon hmem
  rw [h.inward.started_iff hy hx] at hnot
  have hstopped : y.state = .stopped :=
    LinkState.eq_stopped_of_ne fun hstarted => hnot (.inl ⟨hstarted, by simp [hpending']⟩)
  have hadmits := h.outward.admits hy
  rw [hstopped] at hadmits
  exact hnot (.inr (hadmits.startCon_of_stopAct hstopAct))

theorem takes_startAct (h : Courteous x y out (.unnumbered .startAct :: back)) (hx : x.isOpen)
    (hstate : x.state = .stopped) :
    Courteous { x with state := .started } y (out ++ [.unnumbered .startCon]) back := by
  have hback : .unnumbered .stopCon ∉ back := fun hmem =>
    (h.inward.admits hx).2.1 rfl _ hmem (.inr rfl)
  -- A request granted at once is one that comes early and is granted next.
  have hearly := h.takes_startActEarly hx
  have hgrants := hearly.grants hx hstate rfl hback fun hy =>
    hearly.pending_ne_of_requested hx hy hstate rfl hback
  rw [← h.not_requested] at hgrants
  exact hgrants

theorem takes_startCon (h : Courteous x y out (.unnumbered .startCon :: back))
    (hpending : x.pending = some .startAct) :
    Courteous { x with pending := none, state := .started } y out back := by
  constructor
  · refine ⟨?_, ?_, ?_, h.outward.admits, h.outward.requested, ?_⟩
    · have hstarts := h.outward.starts
      rw [Posture.awaits, if_pos hpending, activations_cons_back, if_pos (by rfl),
        Nat.add_right_comm] at hstarts
      exact hstarts.ends
    · simpa [LinkFunction.confirmation, Posture.awaits, hpending] using h.outward.stops
    · simpa [LinkFunction.confirmation] using h.outward.tests
    · intro hx hy
      have hstarted := (h.outward.started_iff hx hy).mpr (.inr List.mem_cons_self)
      simp [hstarted]
  · exact h.inward.follows ⟨rfl, rfl, rfl⟩ nofun nofun nofun

theorem takes_stopCon (h : Courteous x y out (.unnumbered .stopCon :: back))
    (hpending : x.pending = some .stopAct) :
    Courteous { x with pending := none, state := .stopped } y out back := by
  constructor
  · refine ⟨?_, ?_, ?_, h.outward.admits, h.outward.requested, ?_⟩
    · simpa [LinkFunction.confirmation, Posture.awaits, hpending] using h.outward.starts
    · have hstops := h.outward.stops
      rw [Posture.awaits, if_pos hpending, activations_cons_back, if_pos (by rfl)] at hstops
      exact hstops.ends
    · simpa [LinkFunction.confirmation] using h.outward.tests
    · simpa [hpending] using h.outward.started_iff
  · exact h.inward.follows ⟨rfl, rfl, rfl⟩ nofun nofun nofun

theorem takes_stopAct (h : Courteous x y out (.unnumbered .stopAct :: back))
    (hx : x.isOpen) :
    Courteous { x with state := .stopped } y (out ++ [.unnumbered .stopCon]) back := by
  have hstate : x.state = .started := (h.inward.admits hx).1
  have hpending : y.isOpen → y.pending = some .stopAct := fun hy =>
    h.inward.pending_of_stopAct hy List.mem_cons_self
  -- While the other station waits for its stop, it asks for no start.
  have hnot : y.isOpen → .unnumbered .startCon ∉ out := fun hy =>
    (h.inward.not_mem_of_pending_ne hy (by simp [hpending hy])).2.1
  have hstopped : y.isOpen → stateAfter .stopped back = .stopped := by
    intro hy
    refine LinkState.eq_stopped_of_ne fun hstarted => ?_
    rcases (h.inward.started_iff hy hx).mp hstarted with ⟨-, hne⟩ | hmem
    · exact hne (hpending hy)
    · exact hnot hy hmem
  constructor
  · refine ⟨?_, ?_, ?_, ?_, ?_, ?_⟩
    · simpa [LinkFunction.confirmation, Posture.awaits] using h.outward.starts
    · simpa [LinkFunction.confirmation, Posture.awaits] using h.outward.stops
    · simpa [LinkFunction.confirmation] using h.outward.tests
    · intro hy
      have hadmits := h.outward.admits hy
      refine hadmits.concat trivial fun hmem => ?_
      -- Behind a request to start, the confirmation that started this station would follow.
      have hpending' := h.outward.pending_of_startAct hx hmem
      have hstarted := (h.outward.started_iff hx hy).mpr (.inl ⟨hstate, by simp [hpending']⟩)
      exact absurd (hadmits.startCon_of_startAct hmem hstarted) (hnot hy)
    · intro hy hrequested
      simpa using h.outward.requested hy hrequested
    · intro _ hy
      -- A start on the way back would have to end again, by a second stop or by a
      -- confirmation that this station awaits in vain.
      have hback : .unnumbered .startCon ∉ back := by
        intro hmem
        rcases stateAfter_of_startCon hmem (hstopped hy) with hmem' | hmem'
        · have hle := h.inward.stops.le_one
          have hpos := activations_pos out hmem'
          rw [activations_cons, if_pos rfl] at hle
          omega
        · have hpending' := h.outward.pending_of_stopCon hx (List.mem_cons_of_mem _ hmem')
          rw [h.outward.pending_of_startCon hx (List.mem_cons_of_mem _ hmem)] at hpending'
          cases hpending'
      simpa [Signal.leads] using hback
  · refine ⟨?_, ?_, ?_, fun hx => (h.inward.admits hx).2.2, ?_, ?_⟩
    · simpa [LinkFunction.confirmation] using h.inward.starts
    · simpa [LinkFunction.confirmation] using h.inward.stops
    · simpa [LinkFunction.confirmation] using h.inward.tests
    · simpa using h.inward.requested
    · simpa [stateAfter, Signal.leads] using h.inward.started_iff

/-- A station may do what it does when a signal arrives. -/
theorem takes (h : Courteous x y out (signal :: back)) (hx : x.isOpen) {answers : List Signal}
    (htakes : x.Takes signal answers x') : Courteous x' y (out ++ answers) back := by
  cases htakes with
  | refuses =>
    rw [List.append_nil]
    exact h.closes.drops rfl
  | numbered =>
    rw [List.append_nil]
    exact h.takes_numbered
  | numberedDue hstate => exact h.takes_numbered.sends_numbered hx hstate
  | testAct => exact h.takes_testAct
  | testCon =>
    rw [List.append_nil]
    exact h.takes_testCon hx
  | startAct hstate => exact h.takes_startAct hx hstate
  | startActEarly =>
    rw [List.append_nil]
    exact h.takes_startActEarly hx
  | startActLate hstate =>
    -- A request to start arrives only where data transfer is stopped.
    have hstopped : x.state = .stopped := (h.inward.admits hx).1
    rw [hstate] at hstopped
    cases hstopped
  | startCon hpending =>
    rw [List.append_nil]
    exact h.takes_startCon hpending
  | stopAct => exact h.takes_stopAct hx
  | stopActOwing =>
    -- The acknowledgment goes out while data transfer is still started.
    have hstate : x.state = .started := (h.inward.admits hx).1
    have hsends := (h.sends_numbered hx hstate).takes_stopAct hx
    rw [List.append_assoc] at hsends
    exact hsends
  | stopCon hpending =>
    rw [List.append_nil]
    exact h.takes_stopCon hpending

end Courteous

end Telecontrol
