import Mathlib.Data.List.Nodup
import Telecontrol.Proofs.Link.Desk

/-!
# The history of a link

`Link.history` is what happens to the calls and listeners of a station in the course of a run:
calls are made, expect confirmations, send their units and return; received units are handed to
calls, or reported to the listener like any other event.

A step of a link may do several of these things. `Desk.Turn` lists what is done at once, one call
at a time, and `Desk.Move.turns` takes every step apart into such turns. It needs only that no two
calls are mistaken for each other (`Desk.Orderly`).
-/

namespace Telecontrol

/-- Something that happens to the calls and listeners of a station. -/
inductive Occurrence
  | calls (call : CallId) (request : Request)
  /-- The confirmation of the command of a call is expected from now on. -/
  | expects (call : CallId) (expectation : Expectation)
  /-- The unit of a call is sent. -/
  | sends (call : CallId)
  /-- A received unit is handed to a call whose command it confirms. -/
  | hands (asdu : Asdu) (call : CallId)
  | reports (event : LinkEvent)
  | returns (call : CallId) (reply : Reply)
  deriving DecidableEq

/-- The unit that is to be sent as a command. -/
def Request.command? : Request → Option Asdu
  | sendConfirmed asdu => some asdu
  | _ => none

/-- The unit that is reported, if it is one. -/
def LinkEvent.unit? : LinkEvent → Option Asdu
  | .asdu unit => some unit
  | _ => none

namespace Occurrence

@[simp, grind] def made? : Occurrence → Option CallId
  | calls call _ => some call
  | _ => none

@[simp, grind] def expectation? : Occurrence → Option (CallId × Expectation)
  | expects call expectation => some (call, expectation)
  | _ => none

@[simp, grind] def recipient? : Occurrence → Option CallId
  | hands _ call => some call
  | _ => none

@[simp, grind] def event? : Occurrence → Option LinkEvent
  | reports event => some event
  | _ => none

@[simp, grind] def return? : Occurrence → Option (CallId × Reply)
  | returns call reply => some (call, reply)
  | _ => none

/-- The received unit that is handed to a call or reported. -/
@[simp, grind] def unit? : Occurrence → Option Asdu
  | hands asdu _ => some asdu
  | reports event => event.unit?
  | _ => none

end Occurrence

/-- What has happened to the calls and listeners of a station, oldest first. -/
abbrev History := List Occurrence

namespace History

/-- The calls made. -/
def made (h : History) : List CallId := h.filterMap Occurrence.made?

/-- The confirmations expected, each with its call. -/
def expected (h : History) : List (CallId × Expectation) := h.filterMap Occurrence.expectation?

/-- The calls to which units were handed. -/
def recipients (h : History) : List CallId := h.filterMap Occurrence.recipient?

/-- The events reported. -/
def reported (h : History) : List LinkEvent := h.filterMap Occurrence.event?

/-- The calls that have returned, and how. -/
def returned (h : History) : List (CallId × Reply) := h.filterMap Occurrence.return?

/-- The received units that were handed to calls or reported. -/
def units (h : History) : List Asdu := h.filterMap Occurrence.unit?

/-- Calls return, all in the same way. -/
def returning (calls : List CallId) (reply : Reply) : History :=
  calls.map fun call => .returns call reply

variable (h h' : History) (x : Occurrence)

@[simp, grind =] theorem made_nil : History.made [] = [] := rfl

@[simp, grind =] theorem made_cons :
    History.made (x :: h) = x.made?.toList ++ h.made := by
  unfold made
  rw [List.filterMap_cons]
  cases x.made? <;> rfl

@[simp, grind =] theorem made_append : (h ++ h').made = h.made ++ h'.made :=
  List.filterMap_append

theorem nodup_made_of_append {h h' : History} (hmade : (h ++ h').made.Nodup) : h.made.Nodup := by
  rw [made_append] at hmade
  exact (List.nodup_append.mp hmade).1

@[simp, grind =] theorem expected_nil : History.expected [] = [] := rfl

@[simp, grind =] theorem expected_cons :
    History.expected (x :: h) = x.expectation?.toList ++ h.expected := by
  unfold expected
  rw [List.filterMap_cons]
  cases x.expectation? <;> rfl

@[simp, grind =] theorem expected_append : (h ++ h').expected = h.expected ++ h'.expected :=
  List.filterMap_append

@[simp, grind =] theorem recipients_nil : History.recipients [] = [] := rfl

@[simp, grind =] theorem recipients_cons :
    History.recipients (x :: h) = x.recipient?.toList ++ h.recipients := by
  unfold recipients
  rw [List.filterMap_cons]
  cases x.recipient? <;> rfl

@[simp, grind =] theorem recipients_append : (h ++ h').recipients = h.recipients ++ h'.recipients :=
  List.filterMap_append

@[simp, grind =] theorem reported_nil : History.reported [] = [] := rfl

@[simp, grind =] theorem reported_cons :
    History.reported (x :: h) = x.event?.toList ++ h.reported := by
  unfold reported
  rw [List.filterMap_cons]
  cases x.event? <;> rfl

@[simp, grind =] theorem reported_append : (h ++ h').reported = h.reported ++ h'.reported :=
  List.filterMap_append

@[simp, grind =] theorem returned_nil : History.returned [] = [] := rfl

@[simp, grind =] theorem returned_cons :
    History.returned (x :: h) = x.return?.toList ++ h.returned := by
  unfold returned
  rw [List.filterMap_cons]
  cases x.return? <;> rfl

@[simp, grind =] theorem returned_append : (h ++ h').returned = h.returned ++ h'.returned :=
  List.filterMap_append

@[simp, grind =] theorem units_nil : History.units [] = [] := rfl

@[simp, grind =] theorem units_cons :
    History.units (x :: h) = x.unit?.toList ++ h.units := by
  unfold units
  rw [List.filterMap_cons]
  cases x.unit? <;> rfl

@[simp, grind =] theorem units_append : (h ++ h').units = h.units ++ h'.units :=
  List.filterMap_append

section Returning

variable (calls : List CallId) (reply : Reply)

@[simp, grind =] theorem made_returning : (returning calls reply).made = [] := by
  simp [made, returning]

@[simp, grind =] theorem expected_returning : (returning calls reply).expected = [] := by
  simp [expected, returning]

@[simp, grind =] theorem recipients_returning : (returning calls reply).recipients = [] := by
  simp [recipients, returning]

@[simp, grind =] theorem reported_returning : (returning calls reply).reported = [] := by
  simp [reported, returning]

@[simp, grind =] theorem returned_returning :
    (returning calls reply).returned = calls.map fun call => (call, reply) := by
  simp [returned, returning, List.filterMap_map, Function.comp_def]

@[simp, grind =] theorem mem_returning :
    x ∈ returning calls reply ↔ ∃ call ∈ calls, .returns call reply = x := List.mem_map

end Returning

variable {h}

theorem mem_made {call : CallId} : call ∈ h.made ↔ ∃ request, .calls call request ∈ h := by
  rw [made, List.mem_filterMap]
  constructor
  · rintro ⟨x, hx, hcall⟩
    cases x <;> simp at hcall
    exact ⟨_, hcall ▸ hx⟩
  · rintro ⟨request, hrequest⟩
    exact ⟨_, hrequest, rfl⟩

theorem mem_expected {p : CallId × Expectation} : p ∈ h.expected ↔ .expects p.1 p.2 ∈ h := by
  rw [expected, List.mem_filterMap]
  constructor
  · rintro ⟨x, hx, hp⟩
    cases x <;> simp at hp
    exact hp ▸ hx
  · exact fun hp => ⟨_, hp, rfl⟩

theorem mem_recipients {call : CallId} :
    call ∈ h.recipients ↔ ∃ asdu, .hands asdu call ∈ h := by
  rw [recipients, List.mem_filterMap]
  constructor
  · rintro ⟨x, hx, hcall⟩
    cases x <;> simp at hcall
    exact ⟨_, hcall ▸ hx⟩
  · rintro ⟨asdu, hasdu⟩
    exact ⟨_, hasdu, rfl⟩

theorem mem_returned {p : CallId × Reply} : p ∈ h.returned ↔ .returns p.1 p.2 ∈ h := by
  rw [returned, List.mem_filterMap]
  constructor
  · rintro ⟨x, hx, hp⟩
    cases x <;> simp at hp
    exact hp ▸ hx
  · exact fun hp => ⟨_, hp, rfl⟩

end History

namespace Desk

/-- The call that has sent or is to send the command with a number. -/
def holder? (d : Desk) (ticket : Nat) : Option CallId :=
  match d.waiting.find? fun a => a.ticket == ticket with
  | some a => some a.call
  | none => (d.senders.find? fun s => s.ticket? == some ticket).map (·.call)

/-- The call to which a received unit is handed. -/
def taker? (d : Desk) (asdu : Asdu) : Option CallId :=
  (d.expectations.find? fun e => e.isMetBy asdu).bind fun e => d.holder? e.ticket

/-- The call that is made, and what it asks for. -/
def asking (d : Desk) : LinkInput → History
  | .call call request =>
    .calls call request ::
      (request.command?.map fun asdu => .expects call (.ofAsdu d.nextTicket asdu)).toList
  | _ => []

/-- The handing of a received unit to a call. -/
def handing (d : Desk) (asdu : Asdu) : History := ((d.taker? asdu).map (.hands asdu)).toList

/-- What one desk shows that another did not: units sent by a call, events and returns. -/
def outcome (d : Desk) (caller? : Option CallId) (d' : Desk) : History :=
  ((d'.units.drop d.units.length).filterMap fun _ => caller?.map .sends) ++
    (d'.events.drop d.events.length).map .reports ++
    (d'.returns.drop d.returns.length).map fun p => .returns p.1 p.2

/-- What happens in a step from one desk to another, in which a received unit may be
accepted. -/
def occurrences (d : Desk) (input : LinkInput) (unit? : Option Asdu) (d' : Desk) : History :=
  d.asking input ++ unit?.toList.flatMap d.handing ++ d.outcome input.caller? d'

end Desk

namespace Link

/-- What happens to the calls and listeners of a station in a step of its link. -/
def occurrences (l : Link) (now : Nat) (input : LinkInput) : History :=
  l.desk.occurrences input (l.unit? input) (l.step now input).desk

/-- What happens to the calls and listeners of a station in a run of its link. -/
def history (l : Link) : List (Nat × LinkInput) → History
  | [] => []
  | input :: inputs =>
    l.occurrences input.1 input.2 ++ (l.step input.1 input.2).history inputs

theorem history_append (l : Link) (first rest : List (Nat × LinkInput)) :
    l.history (first ++ rest) = l.history first ++ (l.run first).history rest := by
  induction first generalizing l with
  | nil => rfl
  | cons input first ih => simp only [List.cons_append, history, ih, List.append_assoc, run_cons]

end Link

/-! ### Turns -/

namespace Desk

/-- The calls that wait for something other than a unit that they send. -/
def bystanders (d : Desk) : List CallId := d.activator.toList ++ d.starter.toList ++ d.watchers

/-- The calls that have not yet returned. -/
def outstanding (d : Desk) : List CallId :=
  d.bystanders ++ (d.waiting.map (·.call) ++ d.senders.map (·.call))

/-- The calls that have returned. -/
def returned (d : Desk) : List CallId := d.returns.map (·.1)

/-- The desk with other bystanders. -/
def seat (d : Desk) (activator starter : Option CallId) (watchers : List CallId) : Desk :=
  { d with activator := activator, starter := starter, watchers := watchers }

/-- A call waits for room in the window. -/
def enqueue (d : Desk) (s : Sender) : Desk := { d with senders := d.senders ++ [s] }

/-- A call waits neither for room in the window nor for a confirmation any longer. -/
def dismiss (d : Desk) (call : CallId) : Desk :=
  { d with
    senders := d.senders.filter fun s => s.call != call
    waiting := d.waiting.filter fun a => a.call != call }

/-- A call waits for the confirmation of a command. -/
def await (d : Desk) (a : Waiting) : Desk := { d with waiting := d.waiting ++ [a] }

/-- A call that waits for room in the window keeps a confirmation. -/
def keep (d : Desk) (call : CallId) (confirmation : Asdu) : Desk :=
  { d with senders := d.senders.map fun s =>
      if s.call = call then { s with confirmation? := some confirmation } else s }

/-- What is done at once. -/
inductive Turn (d : Desk) : History → Desk → Prop
  /-- The calls that wait for room in the window may look again. -/
  | wakes : Turn d [] d.wake
  /-- Data transfer is started or stopped. -/
  | reports (state : LinkState) :
      Turn d [.reports (.stateChanged state)] (d.post (.stateChanged state))
  /-- The connection is closed. -/
  | closes (cause : Fault) : d.closed = none →
      Turn d (.reports (.closed cause) :: History.returning d.pendingCalls (.failed cause))
        (d.close cause)
  /-- A call is made that sends no unit. -/
  | joins {call request activator starter watchers} : request.unit? = none →
      (d.seat activator starter watchers).bystanders.Perm (call :: d.bystanders) →
      Turn d [.calls call request] (d.seat activator starter watchers)
  /-- A call that sends no unit returns. -/
  | leaves {call reply activator starter watchers} : reply.unit? = none →
      d.bystanders.Perm (call :: (d.seat activator starter watchers).bystanders) →
      Turn d [.returns call reply] ((d.seat activator starter watchers).answer call reply)
  /-- A call is made that sends a unit. -/
  | queues {call asdu octets} :
      Turn d [.calls call (.send asdu)] (d.enqueue { call := call, octets := octets })
  /-- A call is made that sends a command. -/
  | commands {call asdu octets} :
      Turn d [.calls call (.sendConfirmed asdu), .expects call (.ofAsdu d.nextTicket asdu)]
        ((d.expect asdu).enqueue
          { call := call, octets := octets, ticket? := some d.nextTicket })
  /-- A call cannot send its unit. -/
  | fails {s} (cause : Fault) : s ∈ d.senders →
      s.confirmation? = none ∨ d.closed = some cause ∨ cause = .notStarted →
      Turn d [.returns s.call (.failed cause)] ((d.dismiss s.call).giveUp s.call s.ticket? cause)
  /-- A call finds no room in the window. -/
  | waits {s} : s ∈ d.senders →
      Turn d [] ((d.dismiss s.call).enqueue { s with woken := false })
  /-- A unit is sent. -/
  | sends {s} : s ∈ d.senders → s.ticket? = none →
      Turn d [.sends s.call, .returns s.call .done]
        (((d.dismiss s.call).send s.octets).answer s.call .done)
  /-- A command is sent of which a call waits for the confirmation. -/
  | sendsCommand {s ticket} (deadline : Nat) : s ∈ d.senders → d.closed = none →
      s.ticket? = some ticket → s.confirmation? = none →
      Turn d [.sends s.call] (((d.dismiss s.call).send s.octets).await ⟨s.call, ticket, deadline⟩)
  /-- A command is sent that is confirmed already. -/
  | sendsConfirmed {s ticket confirmation} : s ∈ d.senders → s.ticket? = some ticket →
      s.confirmation? = some confirmation →
      Turn d [.sends s.call, .returns s.call (.confirmed confirmation)]
        (((d.dismiss s.call).send s.octets).answer s.call (.confirmed confirmation))
  /-- A command is not confirmed in time. -/
  | expires {a} : a ∈ d.waiting →
      Turn d [.returns a.call (.failed .responseTimeout)]
        ((d.dismiss a.call).giveUp a.call (some a.ticket) .responseTimeout)
  /-- A unit is received that confirms no command. -/
  | posts {asdu} : (∀ e ∈ d.expectations, e.isMetBy asdu = false) →
      Turn d [.reports (.asdu asdu)] (d.post (.asdu asdu))
  /-- A command is confirmed that was sent. -/
  | confirms {asdu e a} : d.closed = none →
      d.expectations.find? (·.isMetBy asdu) = some e → a ∈ d.waiting → a.ticket = e.ticket →
      Turn d [.hands asdu a.call, .returns a.call (.confirmed asdu)]
        (((d.dismiss a.call).forget (some e.ticket)).answer a.call (.confirmed asdu))
  /-- A command is confirmed that is still to be sent. -/
  | keeps {asdu e s} : d.closed = none →
      d.expectations.find? (·.isMetBy asdu) = some e → s ∈ d.senders →
      s.ticket? = some e.ticket →
      Turn d [.hands asdu s.call] ((d.forget (some e.ticket)).keep s.call asdu)

/-- One turn after the other. -/
inductive Turns : Desk → History → Desk → Prop
  | nil {d} : Turns d [] d
  | cons {d d₁ d₂ first rest} : Turn d first d₁ → Turns d₁ rest d₂ → Turns d (first ++ rest) d₂

theorem Turn.turns {d d' : Desk} {h : History} (turn : d.Turn h d') : d.Turns h d' := by
  have hturns := Turns.cons turn .nil
  rwa [List.append_nil] at hturns

/-- No two calls are mistaken for each other, and there is a call for each confirmation that is
expected. -/
structure Orderly (d : Desk) : Prop where
  nodup : d.outstanding.Nodup
  waiting : ∀ a ∈ d.waiting, ∀ b ∈ d.waiting, a.ticket = b.ticket → a.call = b.call
  senders : ∀ s ∈ d.senders, ∀ t ∈ d.senders, s.ticket?.isSome → s.ticket? = t.ticket? →
    s.call = t.call
  held : ∀ e ∈ d.expectations, (∃ a ∈ d.waiting, a.ticket = e.ticket) ∨
    ∃ s ∈ d.senders, s.ticket? = some e.ticket

section Outstanding

variable {d : Desk} {a : Waiting} {s : Sender}

theorem waiting_outstanding : ∀ a ∈ d.waiting, a.call ∈ d.outstanding := fun _ ha =>
  List.mem_append_right _ (List.mem_append_left _ (List.mem_map_of_mem ha))

theorem sender_outstanding : ∀ s ∈ d.senders, s.call ∈ d.outstanding := fun _ hs =>
  List.mem_append_right _ (List.mem_append_right _ (List.mem_map_of_mem hs))

theorem waiting_ne_sender (h : d.outstanding.Nodup) :
    ∀ a ∈ d.waiting, ∀ s ∈ d.senders, a.call ≠ s.call := by
  obtain ⟨-, hrest, -⟩ := List.nodup_append.mp h
  obtain ⟨-, -, hne⟩ := List.nodup_append.mp hrest
  exact fun a ha s hs => hne _ (List.mem_map_of_mem ha) _ (List.mem_map_of_mem hs)

theorem waiting_eq_of_call_eq (h : d.outstanding.Nodup) :
    ∀ a ∈ d.waiting, ∀ b ∈ d.waiting, a.call = b.call → a = b := by
  obtain ⟨-, hrest, -⟩ := List.nodup_append.mp h
  exact fun a ha b hb => List.inj_on_of_nodup_map (List.nodup_append.mp hrest).1 ha hb

theorem sender_eq_of_call_eq (h : d.outstanding.Nodup) :
    ∀ s ∈ d.senders, ∀ t ∈ d.senders, s.call = t.call → s = t := by
  obtain ⟨-, hrest, -⟩ := List.nodup_append.mp h
  exact fun s hs t ht => List.inj_on_of_nodup_map (List.nodup_append.mp hrest).2.1 hs ht

theorem dismiss_sender (h : d.outstanding.Nodup) (hs : s ∈ d.senders) :
    { d with senders := d.senders.filter fun other => other.call != s.call } =
      d.dismiss s.call := by
  have hwaiting : (d.waiting.filter fun a => a.call != s.call) = d.waiting :=
    List.filter_eq_self.mpr fun a ha => bne_iff_ne.mpr (waiting_ne_sender h _ ha _ hs)
  rw [dismiss, hwaiting]

theorem dismiss_waiting (h : d.outstanding.Nodup) (ha : a ∈ d.waiting) :
    { d with waiting := d.waiting.filter fun b => b.call != a.call } = d.dismiss a.call := by
  have hsenders : (d.senders.filter fun s => s.call != a.call) = d.senders :=
    List.filter_eq_self.mpr fun s hs => bne_iff_ne.mpr (waiting_ne_sender h _ ha _ hs).symm
  rw [dismiss, hsenders]

/-- The call that waits for the confirmation of a command is known by the number of it. -/
theorem Orderly.dismiss_ticket (h : d.Orderly) (ha : a ∈ d.waiting) :
    { d with waiting := d.waiting.filter fun b => b.ticket != a.ticket } = d.dismiss a.call := by
  rw [← dismiss_waiting h.nodup ha]
  congr 1
  refine List.filter_congr fun b hb => ?_
  have hiff : b.ticket = a.ticket ↔ b.call = a.call :=
    ⟨h.waiting b hb a ha, fun hcall => congrArg _ (waiting_eq_of_call_eq h.nodup b hb a ha hcall)⟩
  simp only [bne, beq_eq_decide, hiff]

/-- So is the call that is still to send it. -/
theorem Orderly.keep_ticket (h : d.Orderly) (hs : s ∈ d.senders) {ticket : Nat}
    (hticket : s.ticket? = some ticket) (confirmation : Asdu) :
    { d with senders := d.senders.map fun t =>
        if t.ticket? = some ticket then { t with confirmation? := some confirmation } else t } =
      d.keep s.call confirmation := by
  unfold keep
  congr 1
  refine List.map_congr_left fun t ht => ?_
  have hiff : t.ticket? = some ticket ↔ t.call = s.call := by
    constructor
    · intro hequal
      exact h.senders t ht s hs (by rw [hequal]; rfl) (hequal.trans hticket.symm)
    · intro hcall
      rw [sender_eq_of_call_eq h.nodup t ht s hs hcall, hticket]
  simp only [hiff]

end Outstanding

theorem dismiss_of_not_mem {d : Desk} {call : CallId} (h : call ∉ d.outstanding) :
    d.dismiss call = d := by
  simp only [outstanding, List.mem_append, List.mem_map, not_or, not_exists, not_and] at h
  obtain ⟨-, hwaiting, hsenders⟩ := h
  rw [dismiss, List.filter_eq_self.mpr fun s hs => bne_iff_ne.mpr (hsenders s hs),
    List.filter_eq_self.mpr fun a ha => bne_iff_ne.mpr (hwaiting a ha)]

theorem dismiss_enqueue {d : Desk} {s : Sender} (h : s.call ∉ d.outstanding) :
    (d.enqueue s).dismiss s.call = d := by
  have hd := dismiss_of_not_mem h
  have henqueue : (d.enqueue s).dismiss s.call = d.dismiss s.call := by
    simp [enqueue, dismiss, List.filter_append]
  rw [henqueue, hd]

/-! ### A step in turns -/

section Turns

variable {d d' : Desk} {call : CallId} {asdu : Asdu} {s : Sender}

/-- An attempt to send the unit of a call is one turn. -/
theorem Attempt.turn (h : (d.dismiss s.call).Attempt s d') (hs : s ∈ d.senders) :
    d.Turn ((d.dismiss s.call).outcome (some s.call) d') d' := by
  cases h with
  | fails cause hfault =>
    have hturn := Turn.fails cause hs (.inr (hfault.imp_right And.right))
    simpa [outcome, giveUp, forget, answer, dismiss] using hturn
  | waits =>
    have hturn := Turn.waits hs
    simpa [outcome, enqueue, dismiss] using hturn
  | sends deadline hopen =>
    unfold afterSending
    split
    · next hticket =>
      have hturn := Turn.sends hs hticket
      simpa [outcome, send, answer, dismiss] using hturn
    · next ticket confirmation hticket hconfirmation =>
      have hturn := Turn.sendsConfirmed hs hticket hconfirmation
      simpa [outcome, send, answer, dismiss] using hturn
    · next ticket hticket hconfirmation =>
      have hturn := Turn.sendsCommand deadline hs hopen hticket hconfirmation
      simpa [outcome, send, await, dismiss] using hturn

/-- A unit that is to be sent is given to its call first. -/
theorem Submission.turn {ticket? : Option Nat} (h : d.Submission call ticket? asdu d')
    (hfresh : call ∉ d.outstanding) :
    ∃ octets, (d.enqueue { call := call, octets := octets, ticket? := ticket? }).Turn
      (d.outcome (some call) d') d' := by
  cases h with
  | unfit cause =>
    refine ⟨[], ?_⟩
    have hdismiss := @dismiss_enqueue d { call := call, octets := [], ticket? := ticket? } hfresh
    have hturn := @Turn.fails (d.enqueue { call := call, octets := [], ticket? := ticket? })
      { call := call, octets := [], ticket? := ticket? } cause (by simp [enqueue]) (.inl rfl)
    rw [hdismiss] at hturn
    simpa [outcome, giveUp, forget, answer] using hturn
  | fits octets _ hattempt =>
    refine ⟨octets, ?_⟩
    have hdismiss :=
      @dismiss_enqueue d { call := call, octets := octets, ticket? := ticket? } hfresh
    rw [← hdismiss] at hattempt ⊢
    have hturn := hattempt.turn (by simp [enqueue])
    rw [hdismiss] at hturn ⊢
    exact hturn

theorem handing_wake (d : Desk) (asdu : Asdu) : d.wake.handing asdu = d.handing asdu := by
  have hholder (ticket : Nat) : d.wake.holder? ticket = d.holder? ticket := by
    simp only [holder?, wake, List.find?_map, Function.comp_def, Option.map_map]
  simp only [handing, taker?, hholder]
  rfl

/-- Handing over a unit is one turn. -/
theorem Orderly.handOver (h : d.Orderly) (hopen : d.closed = none) (asdu : Asdu)
    (caller? : Option CallId) :
    d.Turn (d.handing asdu ++ d.outcome caller? (d.handOver asdu)) (d.handOver asdu) := by
  cases hfind : d.expectations.find? fun e => e.isMetBy asdu with
  | none =>
    have hnone : ∀ e ∈ d.expectations, e.isMetBy asdu = false := by
      simpa using hfind
    have hturn := Turn.posts hnone
    simpa [handing, taker?, Desk.handOver, hfind, outcome, post] using hturn
  | some e =>
    have hforget : { d with expectations := d.expectations.filter fun f => f.ticket != e.ticket } =
        d.forget (some e.ticket) := by
      unfold forget
      congr 1
      refine List.filter_congr fun f _ => ?_
      rw [bne_comm]
      exact (congrArg not Option.some_beq_some).symm
    have hdesk : (d.forget (some e.ticket)).Orderly :=
      ⟨h.nodup, h.waiting, h.senders, fun f hf => h.held f (List.mem_of_mem_filter hf)⟩
    have hover : d.handOver asdu = (d.forget (some e.ticket)).confirm e.ticket asdu := by
      simp only [Desk.handOver, hfind, hforget]
    cases hwaiting : d.waiting.find? fun a => a.ticket == e.ticket with
    | some a =>
      have ha : a ∈ d.waiting := List.mem_of_find?_eq_some hwaiting
      have hticket : a.ticket = e.ticket := by simpa using List.find?_some hwaiting
      have hturn := Turn.confirms hopen hfind ha hticket
      have hconfirm : d.handOver asdu =
          ((d.dismiss a.call).forget (some e.ticket)).answer a.call (.confirmed asdu) := by
        have hdismiss := hdesk.dismiss_ticket ha
        rw [hticket] at hdismiss
        simp only [hover, confirm, show (d.forget (some e.ticket)).waiting = d.waiting from rfl,
          hwaiting]
        exact congrArg (answer · a.call (.confirmed asdu)) hdismiss
      rw [hconfirm]
      simpa [handing, taker?, holder?, hfind, hwaiting, outcome, answer, forget, dismiss]
        using hturn
    | none =>
      have hheld : ∃ s ∈ d.senders, s.ticket? = some e.ticket := by
        refine (h.held e (List.mem_of_find?_eq_some hfind)).resolve_left ?_
        simpa using hwaiting
      obtain ⟨s, hsender⟩ : ∃ s, d.senders.find? (fun s => s.ticket? == some e.ticket) = some s :=
        Option.isSome_iff_exists.mp (List.find?_isSome.mpr (by simpa using hheld))
      have hs : s ∈ d.senders := List.mem_of_find?_eq_some hsender
      have hticket : s.ticket? = some e.ticket := by simpa using List.find?_some hsender
      have hturn := Turn.keeps hopen hfind hs hticket
      have hkeep : d.handOver asdu = (d.forget (some e.ticket)).keep s.call asdu := by
        rw [← hdesk.keep_ticket hs hticket asdu]
        simp only [hover, confirm, show (d.forget (some e.ticket)).waiting = d.waiting from rfl,
          hwaiting]
      rw [hkeep]
      simpa [handing, taker?, holder?, hfind, hwaiting, hsender, outcome, keep, forget]
        using hturn

theorem Orderly.wake (h : d.Orderly) : d.wake.Orderly where
  nodup := by
    have hnodup := h.nodup
    simpa only [outstanding, bystanders, Desk.wake, List.map_map, Function.comp_def] using hnodup
  waiting := h.waiting
  senders := by
    intro s hs t ht hticket hequal
    obtain ⟨s', hs', rfl⟩ := List.mem_map.mp hs
    obtain ⟨t', ht', rfl⟩ := List.mem_map.mp ht
    exact h.senders s' hs' t' ht' hticket hequal
  held := by
    intro e he
    refine (h.held e he).imp_right ?_
    rintro ⟨s, hs, hticket⟩
    exact ⟨_, List.mem_map_of_mem hs, hticket⟩

/-- A call that is made may join those that wait for the end of the connection, -/
theorem Turn.joinsWatchers (d : Desk) (call : CallId) {request : Request}
    (h : request.unit? = none) :
    d.Turn [.calls call request] (d.seat d.activator d.starter (d.watchers ++ [call])) :=
  .joins h (by
    simp only [bystanders, seat, ← List.append_assoc]
    exact List.perm_append_singleton _ _)

/-- and leave them again. -/
theorem Turn.leavesWatchers (d : Desk) (call : CallId) {reply : Reply}
    (h : reply.unit? = none) :
    (d.seat d.activator d.starter (d.watchers ++ [call])).Turn [.returns call reply]
      (d.answer call reply) :=
  @Turn.leaves (d.seat d.activator d.starter (d.watchers ++ [call])) call reply d.activator
    d.starter d.watchers h (by
      simp only [bystanders, seat, ← List.append_assoc]
      exact List.perm_append_singleton _ _)

theorem asking_of_caller {input : LinkInput} (h : input.caller? = none) :
    d.asking input = [] := by
  cases input <;> first | rfl | cases h

theorem asking_call {request : Request} (h : request.unit? = none) :
    d.asking (.call call request) = [.calls call request] := by
  cases request <;> first | rfl | cases h

theorem outcome_self (d : Desk) (caller? : Option CallId) : d.outcome caller? d = [] := by
  simp [outcome]

/-- A step is made of turns. -/
theorem Move.turns {input : LinkInput} {unit? : Option Asdu} (h : d.Orderly)
    (hmove : d.Move input unit? d')
    (hfresh : ∀ call, input.call? = some call → call ∉ d.outstanding) :
    d.Turns (d.occurrences input unit? d') d' := by
  unfold occurrences
  cases hmove with
  | idle hinput =>
    rw [asking_of_caller hinput, outcome_self]
    exact .nil
  | sleeps =>
    rw [outcome_self]
    exact .nil
  | closes cause hinput hclosed =>
    rw [asking_of_caller hinput]
    have hturn := Turn.closes cause hclosed
    simpa [outcome, close, Desk.wake, History.returning, Function.comp_def] using hturn.turns
  | @answers call request reply hrequest hreply =>
    rw [asking_call hrequest]
    have hturns := Turns.cons (Turn.joinsWatchers d call hrequest)
      (Turn.leavesWatchers d call hreply).turns
    simpa [outcome, answer] using hturns
  | @starts call request hrequest =>
    rw [asking_call hrequest]
    have hleaves := @Turn.leavesWatchers (d.post (.stateChanged .started)) call .done rfl
    have hturns := Turns.cons (Turn.joinsWatchers d call hrequest)
      (.cons (.reports .started) hleaves.turns)
    simpa [outcome, answer, post] using hturns
  | @activates call request hrequest _ hactivator =>
    rw [asking_call hrequest]
    have hturn := @Turn.joins d call request (some call) d.starter d.watchers hrequest
      (by simp [bystanders, seat, hactivator])
    simpa [outcome, seat] using hturn.turns
  | @awaits call request hrequest _ hstarter =>
    rw [asking_call hrequest]
    have hturn := @Turn.joins d call request d.activator (some call) d.watchers hrequest
      (by simp [bystanders, seat, hstarter])
    simpa [outcome, seat] using hturn.turns
  | @watches call request hrequest =>
    rw [asking_call hrequest]
    have hturn := Turn.joinsWatchers d call hrequest
    simpa [outcome, seat] using hturn.turns
  | sends hsubmission =>
    obtain ⟨octets, hturn⟩ := hsubmission.turn (hfresh _ rfl)
    exact .cons .queues hturn.turns
  | commands hsubmission =>
    obtain ⟨octets, hturn⟩ := hsubmission.turn (hfresh _ rfl)
    exact .cons .commands hturn.turns
  | resumes hs _ hattempt =>
    rw [dismiss_sender h.nodup hs] at hattempt
    exact (hattempt.turn hs).turns
  | expires ha =>
    rw [dismiss_waiting h.nodup ha]
    have hturn := Turn.expires ha
    simpa [outcome, giveUp, forget, answer, dismiss, asking] using hturn.turns
  | wakes =>
    have hturn := @Turn.wakes d
    simpa [outcome, Desk.wake, asking] using hturn.turns
  | @startsWaiter _ call _ hstarter =>
    have hleaves := @Turn.leaves (d.post (.stateChanged .started)) call .done d.activator none
      d.watchers rfl (by simp [bystanders, seat, post, hstarter])
    have hturns := Turns.cons (.reports .started) hleaves.turns
    simpa [outcome, answer, post, seat, asking] using hturns
  | @confirmsStart _ call _ hactivator =>
    have hleaves := @Turn.leaves (d.post (.stateChanged .started)) call .done none d.starter
      d.watchers rfl (by simp [bystanders, seat, post, hactivator])
    have hturns := Turns.cons (.reports .started) hleaves.turns
    simpa [outcome, answer, post, seat, asking] using hturns
  | stops =>
    have hturns := Turns.cons (@Turn.wakes d) (Turn.reports .stopped).turns
    simpa [outcome, post, Desk.wake, asking] using hturns
  | @confirmsStop _ call _ hactivator =>
    have hleaves := @Turn.leaves (d.wake.post (.stateChanged .stopped)) call .done none d.starter
      d.watchers rfl (by simp [bystanders, seat, post, Desk.wake, hactivator])
    have hturns := Turns.cons (@Turn.wakes d) (.cons (.reports .stopped) hleaves.turns)
    simpa [outcome, answer, post, seat, Desk.wake, asking] using hturns
  | hands asdu hopen hwoken =>
    rw [Option.toList_some, List.flatMap_singleton]
    rcases hwoken with rfl | rfl
    · exact (h.handOver hopen asdu none).turns
    · have hturn := h.wake.handOver hopen asdu none
      rw [handing_wake] at hturn
      exact @Turns.cons d d.wake _ [] _ .wakes hturn.turns

end Turns

end Desk

end Telecontrol
