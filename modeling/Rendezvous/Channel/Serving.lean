import Rendezvous.Channel.Reader
import Rendezvous.Switchboard.Registry

/-!
# The life of a connection

A connection is served from its opening to its end in a fixed order. It is opened and gets a
writer; it enters the switchboard, and the connection whose place it took is closed; the session
token that opened it is revoked; then it is read until its reader ends. After that it is taken out
of the switchboard, unless it has a successor there, it is closed, and the service waits for its
writer.

Between two of these steps anything may happen to the switchboard, so they are steps of their own.
-/

namespace Rendezvous

/-- How far a connection is in its life. -/
inductive Stage where
  /-- It is opened. -/
  | opened
  /-- It is in the switchboard, in the place of another one that is still to be closed, if there was
  one. -/
  | entered (superseded : Option ConnectionId)
  /-- It is the current one, and its session token is still to be revoked. -/
  | registered
  /-- It is read. -/
  | reading
  /-- It is read no more, for a reason. -/
  | left (reason : Departure)
  /-- It is out of the switchboard. -/
  | unregistered (reason : Departure)
  /-- It is closed, and its writer may still be at work. -/
  | closed (reason : Departure)
  /-- It is over. -/
  | over (reason : Departure)
  deriving DecidableEq, Repr

/-- A connection that is served. -/
structure Serving where
  /-- The connection. -/
  id : ConnectionId
  /-- Whose it is. -/
  user : UserId
  /-- The session token that opened it. -/
  token : String
  /-- How far it is. -/
  stage : Stage
  deriving DecidableEq, Repr

namespace Serving

/-- A connection for a user, opened now. -/
def start (h : Switchboard) (user : UserId) (token : String) (now : Nanos) :
    Serving × Switchboard :=
  let (id, h') := h.open user now
  (⟨id, user, token, .opened⟩, h')

/-- The next step, where that is a step in the switchboard; `none` where something else has to
happen first. -/
def step? (s : Serving) (h : Switchboard) : Option (Serving × Switchboard) :=
  match s.stage with
  | .opened =>
    let (superseded, h') := h.enter s.id
    some ({ s with stage := .entered superseded }, h')
  | .entered (some old) => some ({ s with stage := .registered }, h.close old)
  | .entered none => some ({ s with stage := .registered }, h)
  | .registered => none
  | .reading => none
  | .left reason => some ({ s with stage := .unregistered reason }, (h.unregister s.user s.id).2)
  | .unregistered reason => some ({ s with stage := .closed reason }, h.close s.id)
  | .closed _ => none
  | .over _ => none

/-- The session token is revoked, or could not be; in any case the connection is read now. -/
def tokenRevoked (s : Serving) : Serving :=
  match s.stage with
  | .registered => { s with stage := .reading }
  | _ => s

/-- The reader has ended. -/
def leave (s : Serving) (reason : Departure) : Serving :=
  match s.stage with
  | .reading => { s with stage := .left reason }
  | _ => s

/-- The writer has ended, or the service waits for it no longer. -/
def writerEnded (s : Serving) : Serving :=
  match s.stage with
  | .closed reason => { s with stage := .over reason }
  | _ => s

/-- The connection is read. -/
def isReading (s : Serving) : Bool :=
  s.stage == .reading

end Serving

end Rendezvous
