import Mathlib.Data.List.Basic
import Telecontrol.Mailbox

/-!
# Every event is delivered once

A mailbox delivers the events that are posted, in their order, up to and including the first final
one. An event goes to the listener registered last before it; one that is posted before any
listener is registered waits for the first. The events that wait are delivered all at once, and
the final event may be among them, with more listeners registered after it. For all that, the
deliveries are one list: the events, each with its listener (`addressed`), cut off after the first
final one (`Mailbox.delivered_eq`).
-/

namespace Telecontrol

section UpThrough

variable {α β : Type} {p : α → Bool}

/-- A list up to and including its first member that satisfies `p`; all of it if there is none. -/
def upThrough (p : α → Bool) (xs : List α) : List α := xs.take (xs.findIdx p + 1)

@[simp] theorem upThrough_nil : upThrough p [] = [] := rfl

theorem upThrough_cons (x : α) (xs : List α) :
    upThrough p (x :: xs) = if p x then [x] else x :: upThrough p xs := by
  cases hx : p x <;> simp [upThrough, List.findIdx_cons, hx]

theorem upThrough_append (xs ys : List α) :
    upThrough p (xs ++ ys) = if xs.any p then upThrough p xs else xs ++ upThrough p ys := by
  induction xs with
  | nil => rfl
  | cons x xs ih =>
    cases hx : p x with
    | true => simp [upThrough_cons, hx]
    | false => cases hxs : xs.any p <;> simp [upThrough_cons, hx, hxs, ih]

theorem head?_upThrough (xs : List α) : (upThrough p xs).head? = xs.head? := by
  rw [upThrough, List.head?_take, if_neg (Nat.succ_ne_zero _)]

theorem length_upThrough_le (xs : List α) : (upThrough p xs).length ≤ xs.length :=
  List.length_take_le' _ _

theorem upThrough_map (f : β → α) (xs : List β) :
    upThrough p (xs.map f) = (upThrough (p ∘ f) xs).map f := by
  rw [upThrough, List.findIdx_map, ← List.map_take]
  rfl

@[simp] theorem any_upThrough (xs : List α) : (upThrough p xs).any p = xs.any p := by
  induction xs with
  | nil => rfl
  | cons x xs ih => cases hx : p x <;> simp [upThrough_cons, hx, ih]

end UpThrough

/-- The last member of a list, or else the first of those that follow. -/
theorem some_getLastD {α : Type} {first : α} {xs ys : List α}
    (hfirst : (xs ++ ys).head? = some first) :
    some (xs.getLastD first) = xs.getLast?.or ys.head? := by
  cases xs with
  | nil => exact hfirst.symm
  | cons x xs =>
    rw [List.getLastD_cons, List.getLast?_cons, Option.some_or, List.getLastD_eq_getLast?]

namespace Message

/-- The event that a message posts. -/
def event? : Message → Option LinkEvent
  | register _ => none
  | post event => some event

/-- The listener that a message registers. -/
def listener? : Message → Option ListenerId
  | register listener => some listener
  | post _ => none

end Message

/-- The events that messages post, in their order. -/
def events (messages : List Message) : List LinkEvent := messages.filterMap Message.event?

/-- The listeners that messages register, in their order. -/
def listeners (messages : List Message) : List ListenerId := messages.filterMap Message.listener?

section Messages

variable (listener : ListenerId) (event : LinkEvent) (before messages : List Message)

@[simp] theorem events_register : events (.register listener :: messages) = events messages := rfl

@[simp] theorem events_post : events (.post event :: messages) = event :: events messages := rfl

@[simp] theorem listeners_register :
    listeners (.register listener :: messages) = listener :: listeners messages := rfl

@[simp] theorem listeners_post : listeners (.post event :: messages) = listeners messages := rfl

@[simp] theorem listeners_append :
    listeners (before ++ messages) = listeners before ++ listeners messages :=
  List.filterMap_append

end Messages

/-- The events of messages, each with the listener registered last before it; those before any
registration go to `current`. -/
def addressed (current : ListenerId) : List Message → List Delivery
  | [] => []
  | .register listener :: messages => addressed listener messages
  | .post event :: messages => ⟨current, event⟩ :: addressed current messages

section Addressed

variable (current : ListenerId) (before messages : List Message)

@[simp] theorem map_event_addressed :
    (addressed current messages).map (·.event) = events messages := by
  induction messages generalizing current with
  | nil => rfl
  | cons message messages ih =>
    cases message with
    | register listener => exact ih listener
    | post event => exact congrArg (event :: ·) (ih current)

theorem length_addressed : (addressed current messages).length = (events messages).length := by
  rw [← map_event_addressed current, List.length_map]

theorem any_addressed :
    (addressed current messages).any (·.event.isFinal) = (events messages).any (·.isFinal) := by
  rw [← map_event_addressed current, List.any_map]
  rfl

theorem addressed_append :
    addressed current (before ++ messages) =
      addressed current before ++ addressed ((listeners before).getLastD current) messages := by
  induction before generalizing current with
  | nil => rfl
  | cons message before ih =>
    cases message with
    | register listener =>
      rw [listeners_register, List.getLastD_cons]
      exact ih listener
    | post event => exact congrArg (⟨current, event⟩ :: ·) (ih current)

end Addressed

namespace Mailbox

theorem upToFinal_eq (waiting : List LinkEvent) :
    upToFinal waiting = upThrough (·.isFinal) waiting := by
  induction waiting with
  | nil => rfl
  | cons event waiting ih => rw [upToFinal, ih, upThrough_cons]

theorem run_append (m : Mailbox) (first rest : List Message) :
    m.run (first ++ rest) =
      (((m.run first).1.run rest).1, (m.run first).2 ++ ((m.run first).1.run rest).2) := by
  induction first generalizing m with
  | nil => rfl
  | cons message first ih => simp only [List.cons_append, run, ih, List.append_assoc]

/-- After the final event nothing is delivered. -/
theorem run_finished {m : Mailbox} (hfinished : m.finished = true) (messages : List Message) :
    (m.run messages).2 = [] := by
  induction messages with
  | nil => rfl
  | cons message messages ih =>
    have hhandle : m.handle message = (m, []) := if_pos hfinished
    rw [run, hhandle]
    exact ih

/-- What is delivered if a listener is registered. -/
theorem run_listening (listener : ListenerId) (messages : List Message) :
    (run ⟨some listener, [], false⟩ messages).2 =
      upThrough (·.event.isFinal) (addressed listener messages) := by
  induction messages generalizing listener with
  | nil => rfl
  | cons message messages ih =>
    cases message with
    | register other => exact ih other
    | post event =>
      show ⟨listener, event⟩ :: (run ⟨some listener, [], event.isFinal⟩ messages).2 = _
      rw [addressed, upThrough_cons]
      cases event.isFinal with
      | true => rw [run_finished rfl, if_pos rfl]
      | false => rw [ih listener, if_neg (by decide)]

/-- What is delivered if no listener is registered and events wait for the first. -/
theorem run_waiting {first : ListenerId} (waiting : List LinkEvent) {messages : List Message}
    (hfirst : (listeners messages).head? = some first) :
    (run ⟨none, waiting, false⟩ messages).2 =
      upThrough (·.event.isFinal) (waiting.map (⟨first, ·⟩) ++ addressed first messages) := by
  induction messages generalizing waiting with
  | nil => cases hfirst
  | cons message messages ih =>
    cases message with
    | register listener =>
      obtain rfl : listener = first := Option.some.inj hfirst
      show (upToFinal waiting).map (⟨listener, ·⟩) ++
        (run ⟨some listener, [], waiting.any (·.isFinal)⟩ messages).2 = _
      rw [addressed, upThrough_append, List.any_map, upThrough_map, upToFinal_eq]
      show _ = if waiting.any (·.isFinal) = true then _ else _
      cases hfinal : waiting.any (·.isFinal) with
      | true => rw [run_finished rfl, if_pos rfl, List.append_nil]; rfl
      | false =>
        have hall : upThrough (·.isFinal) waiting = waiting := by
          simpa [hfinal] using upThrough_append (p := LinkEvent.isFinal) waiting []
        rw [run_listening, if_neg (by decide), hall]
    | post event =>
      show (run ⟨none, waiting ++ [event], false⟩ messages).2 = _
      rw [ih (waiting ++ [event]) hfirst, List.map_append, List.append_assoc]
      rfl

/-- What a mailbox delivers of messages. -/
def delivered (messages : List Message) : List Delivery := (run {} messages).2

theorem delivered_eq {first : ListenerId} {messages : List Message}
    (hfirst : (listeners messages).head? = some first) :
    delivered messages = upThrough (·.event.isFinal) (addressed first messages) :=
  run_waiting [] hfirst

variable {messages : List Message}

theorem exists_first (hregistered : ∃ listener, .register listener ∈ messages) :
    ∃ first, (listeners messages).head? = some first := by
  obtain ⟨listener, hmem⟩ := hregistered
  have hlistener : listener ∈ listeners messages := List.mem_filterMap.mpr ⟨_, hmem, rfl⟩
  exact ⟨_, List.head?_eq_some_head (List.ne_nil_of_mem hlistener)⟩

theorem map_event_delivered {first : ListenerId}
    (hfirst : (listeners messages).head? = some first) :
    (delivered messages).map (·.event) = upThrough (·.isFinal) (events messages) := by
  rw [delivered_eq hfirst, ← map_event_addressed first, upThrough_map]
  rfl

/-- An event that no final one precedes is delivered at its place: to the listener registered last
before it, or else to the first one registered after it. -/
theorem getElem?_delivered {first : ListenerId} {before after : List Message} {event : LinkEvent}
    (hfirst : (listeners (before ++ .post event :: after)).head? = some first) :
    (delivered (before ++ .post event :: after))[(events before).length]? =
      if (events before).any (·.isFinal) then none
      else ((listeners before).getLast?.or (listeners after).head?).map (⟨·, event⟩) := by
  rw [delivered_eq hfirst, addressed_append, addressed, upThrough_append, any_addressed,
    ← length_addressed first before]
  split
  · exact List.getElem?_eq_none (length_upThrough_le _)
  · rw [List.getElem?_append_right (Nat.le_refl _), Nat.sub_self,
      ← List.head?_eq_getElem?, head?_upThrough]
    rw [listeners_append, listeners_post] at hfirst
    rw [← some_getLastD hfirst]
    rfl

theorem delivered_append {delivery : Delivery} (hmem : delivery ∈ delivered messages)
    (hfinal : delivery.event.isFinal = true) {first : ListenerId}
    (hfirst : (listeners messages).head? = some first) (later : List Message) :
    delivered (messages ++ later) = delivered messages := by
  have hfirst' : (listeners (messages ++ later)).head? = some first := by
    rw [listeners_append, List.head?_append, hfirst]
    rfl
  have hany : (addressed first messages).any (·.event.isFinal) = true := by
    rw [← any_upThrough, ← delivered_eq hfirst]
    exact List.any_eq_true.mpr ⟨delivery, hmem, hfinal⟩
  rw [delivered_eq hfirst', delivered_eq hfirst, addressed_append, upThrough_append, if_pos hany]

/-- If any listener is registered, the events are delivered in their order, each once, up to and
including the first final one; each goes to the listener registered last before it, or else to the
first one registered after it; and once the final event is delivered, further messages change
nothing. -/
theorem delivered_once_in_order (hregistered : ∃ listener, .register listener ∈ messages) :
    (delivered messages).map (·.event) = upThrough (·.isFinal) (events messages) ∧
    (∀ before event after, messages = before ++ .post event :: after →
      (delivered messages)[(events before).length]? =
        if (events before).any (·.isFinal) then none
        else ((listeners before).getLast?.or (listeners after).head?).map (⟨·, event⟩)) ∧
    ∀ delivery ∈ delivered messages, delivery.event.isFinal = true →
      ∀ later, delivered (messages ++ later) = delivered messages := by
  obtain ⟨first, hfirst⟩ := exists_first hregistered
  refine ⟨map_event_delivered hfirst, ?_, ?_⟩
  · rintro before event after rfl
    exact getElem?_delivered hfirst
  · intro delivery hmem hfinal later
    exact delivered_append hmem hfinal hfirst later

/-- An event that waits for the first listener, one for the second, and one too late. -/
def relayed : List Message :=
  [.post (.stateChanged .started), .register 1, .register 2, .post (.stateChanged .stopped),
    .post (.closed .connectionClosed), .post (.stateChanged .started)]

theorem relayed_delivered_once :
    (∃ listener, .register listener ∈ relayed) ∧
      (delivered relayed).map (·.event) =
        [.stateChanged .started, .stateChanged .stopped, .closed .connectionClosed] ∧
      (delivered relayed)[0]? = some ⟨1, .stateChanged .started⟩ ∧
      (delivered relayed)[1]? = some ⟨2, .stateChanged .stopped⟩ ∧
      delivered (relayed ++ relayed) = delivered relayed := by
  have hregistered : ∃ listener, .register listener ∈ relayed := ⟨1, by decide⟩
  obtain ⟨hevents, hplaces, hlater⟩ := delivered_once_in_order hregistered
  refine ⟨hregistered, hevents.trans (by decide), ?_, ?_, ?_⟩
  · exact (hplaces [] _ _ rfl).trans (by decide)
  · exact (hplaces [_, _, _] _ _ rfl).trans (by decide)
  · exact hlater ⟨2, .closed .connectionClosed⟩ (by decide) rfl relayed

end Mailbox

end Telecontrol
