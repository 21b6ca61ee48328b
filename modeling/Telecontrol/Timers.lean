/-!
# Protocol timers

A connection has three timers, each idle or armed with a deadline: t1 for acknowledgments
that are awaited, t2 for those that are owed, and t3 for an idle link. The table does not
wait itself; `Timers.nextDeadline?` says until when there is nothing to do, and
`Timers.takeExpired` collects and disarms what has expired by then.
-/

namespace Telecontrol

/-- The protocol timers. -/
inductive Timer
  /-- A frame or an activation must be acknowledged by then. -/
  | t1
  /-- Received frames must be acknowledged by then. -/
  | t2
  /-- The link must be tested by then. -/
  | t3
  deriving DecidableEq, Repr

/-- Every timer, in the order in which expired ones are handled. -/
def Timer.all : List Timer := [.t1, .t2, .t3]

/-- The name of a timer. -/
def Timer.text : Timer → String
  | t1 => "t1"
  | t2 => "t2"
  | t3 => "t3"

/-- The deadline of each timer that is armed. -/
structure Timers where
  t1 : Option Nat := none
  t2 : Option Nat := none
  t3 : Option Nat := none
  deriving DecidableEq, Repr, Inhabited

namespace Timers

/-- The deadline of a timer, if it is armed. -/
def deadline? (timers : Timers) : Timer → Option Nat
  | .t1 => timers.t1
  | .t2 => timers.t2
  | .t3 => timers.t3

/-- The table with another deadline for one timer. -/
def set (timers : Timers) (timer : Timer) (deadline? : Option Nat) : Timers :=
  match timer with
  | .t1 => { timers with t1 := deadline? }
  | .t2 => { timers with t2 := deadline? }
  | .t3 => { timers with t3 := deadline? }

/-- Arm a timer, whether or not it was armed before. -/
def arm (timers : Timers) (timer : Timer) (deadline : Nat) : Timers :=
  timers.set timer (some deadline)

/-- Disarm a timer. -/
def cancel (timers : Timers) (timer : Timer) : Timers := timers.set timer none

/-- Whether a timer is armed. -/
def isArmed (timers : Timers) (timer : Timer) : Bool := (timers.deadline? timer).isSome

/-- Arm a timer unless it is armed already, and tell whether the deadline was set. -/
def tryArm (timers : Timers) (timer : Timer) (deadline : Nat) : Timers × Bool :=
  if timers.isArmed timer then (timers, false) else (timers.arm timer deadline, true)

/-- Arm a timer unless it is armed already. -/
def armIfIdle (timers : Timers) (timer : Timer) (deadline : Nat) : Timers :=
  (timers.tryArm timer deadline).1

/-- The deadlines of the armed timers. -/
def deadlines (timers : Timers) : List Nat := Timer.all.filterMap timers.deadline?

/-- The earliest deadline. -/
def nextDeadline? (timers : Timers) : Option Nat := timers.deadlines.min?

/-- Whether the deadline of a timer is not after a given instant. -/
def isExpired (timers : Timers) (now : Nat) (timer : Timer) : Bool :=
  (timers.deadline? timer).any (· ≤ now)

/-- The expired timers, in order, and the table with them disarmed. -/
def takeExpired (timers : Timers) (now : Nat) : List Timer × Timers :=
  let expired := Timer.all.filter (timers.isExpired now)
  (expired, expired.foldl cancel timers)

@[simp] theorem deadline?_set (timers : Timers) (timer other : Timer) (d : Option Nat) :
    (timers.set timer d).deadline? other =
      if other = timer then d else timers.deadline? other := by
  cases timer <;> cases other <;> rfl

theorem armIfIdle_eq (timers : Timers) (timer : Timer) (deadline : Nat) :
    timers.armIfIdle timer deadline =
      if timers.isArmed timer then timers else timers.arm timer deadline := by
  rw [armIfIdle, tryArm, apply_ite Prod.fst]

end Timers

end Telecontrol
