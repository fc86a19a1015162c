import Rendezvous.Identity

/-!
# Periodic tasks

A periodic task does its work at the multiples of its period, counted from its start, the first time
after one whole period. Work that is under way is never joined by more of it: when the task comes
back late, the work that is due is done at once, and the multiples that were missed are passed over.
A task that is told to stop finishes what it is doing and does nothing after it. A task without a
period dies when it starts, and so does one whose first time the clock cannot count.
-/

namespace Rendezvous

/-- What a periodic task is doing. -/
inductive RecurrencePhase where
  /-- It waits for its next time. -/
  | waiting
  /-- It is at work. -/
  | working
  /-- It has ended. -/
  | ended
  deriving DecidableEq, Repr

/-- A periodic task. -/
structure Recurrence where
  /-- The time between two times of work. -/
  period : Nanos
  /-- The next time. -/
  due : Nanos
  /-- What the task is doing. -/
  phase : RecurrencePhase
  /-- It is told to stop. -/
  cancelled : Bool
  deriving DecidableEq, Repr

namespace Recurrence

/-- How late a task may be for its next time to be counted from the last one as if it were not. -/
def tolerance : Nanos := ofMillis 5

/-- A task that starts. -/
def start (now period : Nanos) : Recurrence :=
  if period = 0 || clockEnd ≤ now + period then ⟨period, now, .ended, false⟩
  else ⟨period, now + period, .waiting, false⟩

/-- The time after `due` for a task that comes to it at `now`: the next multiple, or the first one
after `now` when it comes late. -/
def nextDue (now due period : Nanos) : Nanos :=
  if due + tolerance < now then now + period - (now - due) % period else due + period

/-- The task is to work now. -/
def isDue (t : Recurrence) (now : Nanos) : Bool :=
  t.phase == .waiting && !t.cancelled && t.due ≤ now

/-- The work begins. -/
def begin (t : Recurrence) (now : Nanos) : Recurrence :=
  { t with phase := .working, due := nextDue now t.due t.period }

/-- The work is done. -/
def finish (t : Recurrence) : Recurrence :=
  { t with phase := if t.cancelled then .ended else .waiting }

/-- The task is told to stop. -/
def cancel (t : Recurrence) : Recurrence :=
  { t with cancelled := true, phase := if t.phase = .waiting then .ended else t.phase }

/-- The task has not ended. -/
def isAlive (t : Recurrence) : Bool :=
  t.phase != .ended

/-- When the task will wake by itself. -/
def wakeAt? (t : Recurrence) : Option Nanos :=
  if t.phase == .waiting && !t.cancelled then some t.due else none

end Recurrence

end Rendezvous
