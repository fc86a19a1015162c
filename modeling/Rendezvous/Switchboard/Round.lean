import Rendezvous.Switchboard.Registry

/-!
# The heartbeat

A round of the heartbeat takes stock of the current connections and judges each of them. One from
which nothing came for too long is dead; any other is pinged, and is dead if the ping is not written
in time. When all are judged, the dead ones are taken out and closed, one after the other. What
happens to the switchboard between these steps does not change whom the round judges.
-/

namespace Rendezvous

/-- Why a connection counts as dead. -/
inductive Doom where
  /-- Nothing came from its client for too long. -/
  | silent
  /-- A ping could not be written in time. -/
  | unwritten
  deriving DecidableEq, Repr

/-- What a round knows about a connection. -/
inductive Candidacy where
  /-- Nothing yet. -/
  | unchecked
  /-- It is pinged. -/
  | pinged (ticket : Nat)
  /-- It is alive. -/
  | alive
  /-- It is dead. -/
  | dead (reason : Doom)
  deriving DecidableEq, Repr

namespace Candidacy

/-- The connection is judged. -/
def isJudged : Candidacy → Bool
  | .alive => true
  | .dead _ => true
  | _ => false

/-- The connection is judged dead. -/
def isDead : Candidacy → Bool
  | .dead _ => true
  | _ => false

end Candidacy

/-- A round of the heartbeat. -/
structure Round where
  /-- How long the writing of a ping may take. -/
  writeWait : Nanos
  /-- For how long nothing may come from a client. -/
  liveness : Nanos
  /-- The connections that were current when the round began, and what is known about them. -/
  candidates : List (ConnectionId × Candidacy)
  deriving DecidableEq, Repr

namespace Round

/-- A round that begins. -/
def start (writeWait liveness : Nanos) (h : Switchboard) : Round :=
  ⟨writeWait, liveness, h.snapshot.map fun (_, id) => (id, .unchecked)⟩

/-- A connection is looked at: it is dead, or it is pinged. -/
def check (r : Round) (now : Nanos) (id : ConnectionId) (h : Switchboard) :
    Candidacy × Switchboard :=
  match h.connection? id with
  | none => (.dead .unwritten, h)
  | some c =>
    if r.liveness < c.silence now then (.dead .silent, h)
    else
      let (ticket, h') := h.probe id now r.writeWait
      (.pinged ticket, h')

/-- What has come of the ping of a connection. -/
def judge (h : Switchboard) : Candidacy → Candidacy
  | .pinged ticket =>
    match h.verdict? ticket with
    | some true => .alive
    | some false => .dead .unwritten
    | none => .pinged ticket
  | c => c

/-- The connections that were not looked at yet, looked at in turn. -/
def checkFrom (r : Round) (now : Nanos) :
    List (ConnectionId × Candidacy) → Switchboard → List (ConnectionId × Candidacy) × Switchboard
  | [], h => ([], h)
  | (id, .unchecked) :: rest, h =>
    let (c, h) := r.check now id h
    let (rest, h) := checkFrom r now rest h
    ((id, c) :: rest, h)
  | candidate :: rest, h =>
    let (rest, h) := checkFrom r now rest h
    (candidate :: rest, h)

/-- Every connection that was not looked at yet is looked at. -/
def checkAll (r : Round) (now : Nanos) (h : Switchboard) : Round × Switchboard :=
  let (candidates, h') := r.checkFrom now r.candidates h
  ({ r with candidates }, h')

/-- Every connection whose ping is settled is judged. -/
def judgeAll (r : Round) (h : Switchboard) : Round :=
  { r with candidates := r.candidates.map fun (id, c) => (id, judge h c) }

/-- Every connection is judged. -/
def isJudged (r : Round) : Bool :=
  r.candidates.all (·.2.isJudged)

/-- The dead connections. -/
def dead (r : Round) : List ConnectionId :=
  (r.candidates.filter (·.2.isDead)).map (·.1)

/-- Connections taken out in turn; the answer is how many of them were current. -/
def evictAll : List ConnectionId → Switchboard → Nat × Switchboard
  | [], h => (0, h)
  | id :: rest, h =>
    let (removed, h) := h.evict id
    let (n, h) := evictAll rest h
    ((if removed then 1 else 0) + n, h)

/-- The end of a round: its dead connections are taken out. -/
def conclude (r : Round) (h : Switchboard) : Nat × Switchboard :=
  evictAll r.dead h

end Round

end Rendezvous
