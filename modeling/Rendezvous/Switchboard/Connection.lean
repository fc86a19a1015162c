import Rendezvous.Identity

/-!
# A connection as the service sees it

The service never writes to a connection itself. It puts frames into the queue of the connection,
which a writer empties; the queue holds so many frames and no more, and takes none once its writer
is gone. Closing a connection raises a flag that its writer and its reader watch, and puts a last
frame into the queue if there is room. The flag alone does not keep frames out of the queue.

A connection remembers when something came from its client last, in whole milliseconds since it was
opened.
-/

namespace Rendezvous

/-- What a writer is given. -/
inductive Outgoing where
  /-- A text for the client. -/
  | text (content : String)
  /-- A ping for the client; whether it was written is the answer to this ticket. -/
  | probe (ticket : Nat)
  /-- A closing frame, and nothing after it. -/
  | close
  deriving DecidableEq, Repr

/-- A connection as the service sees it. -/
structure Connection where
  /-- Whose connection it is. -/
  user : UserId
  /-- When it was opened. -/
  openedAt : Nanos
  /-- When something came from the client last, in milliseconds since the opening. -/
  lastSeen : Nat
  /-- What waits for the writer. -/
  queue : List Outgoing
  /-- The writer will take nothing any more. -/
  writerGone : Bool
  /-- The connection is to end. -/
  closed : Bool
  deriving DecidableEq, Repr

namespace Connection

/-- A connection that is opened. -/
def opened (user : UserId) (now : Nanos) : Connection :=
  ⟨user, now, 0, [], false, false⟩

/-- The queue takes a frame. -/
def hasRoom (c : Connection) : Bool :=
  !c.writerGone && c.queue.length < Limit.outboundFrames

/-- A frame at the end of the queue, if the queue takes it. -/
def offer (c : Connection) (frame : Outgoing) : Bool × Connection :=
  if c.hasRoom then (true, { c with queue := c.queue ++ [frame] }) else (false, c)

/-- A text for the client; the answer says whether the queue took it. -/
def push (c : Connection) (content : String) : Bool × Connection :=
  c.offer (.text content)

/-- The connection is to end. Only the first time anything happens. -/
def close (c : Connection) : Connection :=
  if c.closed then c else ({ c with closed := true }.offer .close).2

/-- The first frame of the queue. -/
def take? (c : Connection) : Option (Outgoing × Connection) :=
  match c.queue with
  | [] => none
  | frame :: rest => some (frame, { c with queue := rest })

/-- The writer is gone, and what waited for it. -/
def abandon (c : Connection) : Connection :=
  { c with queue := [], writerGone := true }

/-- The milliseconds of a span that fit into 64 bits. -/
def stampOf (span : Nanos) : Nat :=
  wholeMillis span % 18446744073709551616

/-- Something came from the client. -/
def touch (c : Connection) (now : Nanos) : Connection :=
  { c with lastSeen := stampOf (now - c.openedAt) }

/-- For how long nothing came from the client. -/
def silence (c : Connection) (now : Nanos) : Nanos :=
  (now - c.openedAt) - ofMillis c.lastSeen

/-- The tickets of the pings that wait in the queue. -/
def waitingTickets (c : Connection) : List Nat :=
  c.queue.filterMap fun
    | .probe ticket => some ticket
    | _ => none

@[simp] theorem closed_close (c : Connection) : c.close.closed = true := by
  unfold close offer
  split
  · assumption
  · split <;> rfl

end Connection

end Rendezvous
