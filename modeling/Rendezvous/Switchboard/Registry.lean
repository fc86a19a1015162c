import Rendezvous.Switchboard.Connection
import Rendezvous.Table
import Rendezvous.Wire.Notice

/-!
# The switchboard

The switchboard knows the connections of the users, at most one for each user: the one that was
registered last. Registering a connection takes the place of the older one, which is then closed.
Taking a connection out never touches its successor: it is taken out only if it is still the current
one of its user.

Every connection that was ever opened keeps its number. A ping that is asked for gets a ticket,
which is settled once: by its writer, by the end of its time, or with the queue in which it waited.
-/

namespace Rendezvous

/-- The number of a connection. -/
abbrev ConnectionId := Nat

/-- What has come of a ping. -/
inductive ProbeState where
  /-- Nothing yet; at this time it counts as not written. -/
  | waiting (deadline : Nanos)
  /-- It was written, or it was not. -/
  | settled (written : Bool)
  deriving DecidableEq, Repr

/-- The connections of the users. -/
structure Switchboard where
  /-- Every connection that was opened. -/
  connections : Table ConnectionId Connection
  /-- The current connection of a user. -/
  current : Table UserId ConnectionId
  /-- What has come of every ping. -/
  probes : Table Nat ProbeState

namespace Switchboard

/-- Nobody is connected. -/
def empty : Switchboard :=
  ⟨.empty, .empty, .empty⟩

instance : Inhabited Switchboard := ⟨empty⟩

/-- A connection by its number. -/
def connection? (h : Switchboard) (id : ConnectionId) : Option Connection :=
  h.connections.get? id

/-- One connection changed. -/
def update (h : Switchboard) (id : ConnectionId) (f : Connection → Connection) : Switchboard :=
  { h with connections := h.connections.modify id f }

/-- A new connection, which is not registered yet. -/
def «open» (h : Switchboard) (user : UserId) (now : Nanos) : ConnectionId × Switchboard :=
  let id := h.connections.size
  (id, { h with connections := h.connections.insert id (.opened user now) })

/-- A connection is to end. -/
def close (h : Switchboard) (id : ConnectionId) : Switchboard :=
  h.update id Connection.close

/-! ### Who is connected -/

/-- The current connection of a user. -/
def current? (h : Switchboard) (user : UserId) : Option ConnectionId :=
  h.current.get? user

/-- A connection becomes the current one of its user; the answer names the one before. -/
def enter (h : Switchboard) (id : ConnectionId) : Option ConnectionId × Switchboard :=
  match h.connection? id with
  | none => (none, h)
  | some c => (h.current? c.user, { h with current := h.current.insert c.user id })

/-- A connection becomes the current one of its user, and the one before is closed. -/
def register (h : Switchboard) (id : ConnectionId) : Option ConnectionId × Switchboard :=
  let (old, h') := h.enter id
  (old, match old with
    | some old => h'.close old
    | none => h')

/-- The user is not connected any more, if by this connection; the answer says so. -/
def unregister (h : Switchboard) (user : UserId) (id : ConnectionId) : Bool × Switchboard :=
  if h.current? user = some id then (true, { h with current := h.current.erase user })
  else (false, h)

/-- A connection is taken out, if it is the current one of its user, and closed in any case. -/
def evict (h : Switchboard) (id : ConnectionId) : Bool × Switchboard :=
  match h.connection? id with
  | none => (false, h)
  | some c =>
    let (removed, h') := h.unregister c.user id
    (removed, h'.close id)

/-- The current connections. -/
def snapshot (h : Switchboard) : List (UserId × ConnectionId) :=
  h.current.entries

/-- How many users are connected. -/
def count (h : Switchboard) : Nat :=
  h.current.size

/-! ### Texts and notices -/

/-- A text into the queue of a connection; the answer says whether the queue took it. -/
def push (h : Switchboard) (id : ConnectionId) (content : String) : Bool × Switchboard :=
  match h.connection? id with
  | none => (false, h)
  | some c =>
    let (taken, c') := c.push content
    (taken, { h with connections := h.connections.insert id c' })

/-- A text to a user, if the user is connected. -/
def pushText (h : Switchboard) (user : UserId) (content : String) : Bool × Switchboard :=
  match h.current? user with
  | some id => h.push id content
  | none => (false, h)

/-- A notice to a user, if the user is connected. -/
def send (h : Switchboard) (user : UserId) (notice : Notice) : Bool × Switchboard :=
  h.pushText user notice.encode

/-! ### Pings -/

/-- Something came from the client of a connection. -/
def touch (h : Switchboard) (id : ConnectionId) (now : Nanos) : Switchboard :=
  h.update id (·.touch now)

/-- Asks for a ping that has to be written within some time; the answer is its ticket. -/
def probe (h : Switchboard) (id : ConnectionId) (now wait : Nanos) : Nat × Switchboard :=
  let ticket := h.probes.size
  let (taken, connections) :=
    match h.connection? id with
    | none => (false, h.connections)
    | some c =>
      let (taken, c') := c.offer (.probe ticket)
      (taken, h.connections.insert id c')
  let state := if taken && 0 < wait then .waiting (now + wait) else .settled false
  (ticket, { h with connections, probes := h.probes.insert ticket state })

/-- Settles a ping, if nothing has come of it yet. -/
def settle (h : Switchboard) (ticket : Nat) (written : Bool) : Switchboard :=
  { h with probes := h.probes.modify ticket fun
      | .waiting _ => .settled written
      | state => state }

/-- The pings whose time is over are settled. -/
def expire (h : Switchboard) (now : Nanos) : Switchboard :=
  { h with probes := h.probes.mapValues fun
      | _, .waiting deadline => if deadline ≤ now then .settled false else .waiting deadline
      | _, state => state }

/-- What has come of a ping; `none` as long as it is open. -/
def verdict? (h : Switchboard) (ticket : Nat) : Option Bool :=
  match h.probes.get? ticket with
  | some (.settled written) => some written
  | some (.waiting _) => none
  | none => some false

/-! ### The writer's end of a queue -/

/-- Takes the first frame of a queue. -/
def take? (h : Switchboard) (id : ConnectionId) : Option (Outgoing × Switchboard) :=
  match (h.connection? id).bind Connection.take? with
  | none => none
  | some (frame, c') => some (frame, { h with connections := h.connections.insert id c' })

/-- The writer of a connection is gone. The pings that waited for it were not written. -/
def abandon (h : Switchboard) (id : ConnectionId) : Switchboard :=
  match h.connection? id with
  | none => h
  | some c => c.waitingTickets.foldl (fun h ticket => h.settle ticket false)
      (h.update id Connection.abandon)

end Switchboard

end Rendezvous
