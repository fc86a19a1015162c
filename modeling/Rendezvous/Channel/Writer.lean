import Rendezvous.Switchboard.Registry

/-!
# The writer of a connection

The writer owns the writing half of a connection. It waits for a frame from the queue or for the
flag that the connection is to end, whichever it sees; the flag makes it write a closing frame. A
text and a ping have to be written within their time, and the writer goes on after each that was;
a closing frame is the last thing it writes, and so is a frame that could not be written. While a
text is being written, the flag makes the writer give up at once.

What comes of a ping is told to the one who asked for it. When the writer is done, the connection is
to end, so that its reader stops too.

The writer is a machine whose events say what it saw and what came of its writing. Where two events
are possible at once, either may happen.
-/

namespace Rendezvous.Writer

/-- What a writer is doing. -/
inductive Phase where
  /-- It waits for a frame. -/
  | waiting
  /-- It writes a frame. -/
  | writing (frame : Outgoing)
  /-- It is done. -/
  | finished
  deriving DecidableEq, Repr

/-- What happens to a writer. -/
inductive Event where
  /-- It saw the flag. -/
  | sawClosed
  /-- It took a frame from the queue. -/
  | took (frame : Outgoing)
  /-- The frame is written. -/
  | written
  /-- The frame cannot be written. -/
  | failed
  /-- The time for the frame is over. -/
  | timedOut
  deriving DecidableEq, Repr

/-- How long the writing of a frame may take. -/
def budget : Outgoing → Nanos
  | .text _ => Limit.textWrite
  | .probe _ => Limit.probeWrite
  | .close => Limit.probeWrite

/-- What a writer does after an event. An event that cannot happen changes nothing. -/
def step : Phase → Event → Phase
  | .waiting, .sawClosed => .writing .close
  | .waiting, .took frame => .writing frame
  | .writing (.text _), .written => .waiting
  | .writing (.text _), .sawClosed => .finished
  | .writing (.text _), .failed => .finished
  | .writing (.text _), .timedOut => .finished
  | .writing (.probe _), .written => .waiting
  | .writing (.probe _), .failed => .finished
  | .writing (.probe _), .timedOut => .finished
  | .writing .close, .written => .finished
  | .writing .close, .failed => .finished
  | .writing .close, .timedOut => .finished
  | phase, _ => phase

/-- What is told about a ping after an event: its ticket, and whether it was written. -/
def report? : Phase → Event → Option (Nat × Bool)
  | .writing (.probe ticket), .written => some (ticket, true)
  | .writing (.probe ticket), .failed => some (ticket, false)
  | .writing (.probe ticket), .timedOut => some (ticket, false)
  | _, _ => none

/-- The writer of a connection after an event, and the switchboard with what the writer did
there. -/
def advance (id : ConnectionId) (phase : Phase) (event : Event) (h : Switchboard) :
    Phase × Switchboard :=
  let next := step phase event
  let h := match report? phase event with
    | some (ticket, written) => h.settle ticket written
    | none => h
  (next, if next = .finished then (h.close id).abandon id else h)

end Rendezvous.Writer
