import Rendezvous.Switchboard.Registry

/-!
# Stand-in writers

In a rehearsal the queue of a connection may be emptied by a stand-in instead of a writer. It notes
every frame that it takes. It answers pings in one manner only, after a delay: with yes, with no, or
by letting go of the ping without a word, which tells who waits for it as much as a no. While it
waits to answer, nothing is taken. A closing frame is the last thing it takes.
-/

namespace Rendezvous.Rehearsal

/-- How a stand-in answers pings. -/
inductive Manner where
  /-- With yes. -/
  | affirms
  /-- With no. -/
  | denies
  /-- Without a word. -/
  | keepsSilent
  deriving DecidableEq, Repr

/-- A stand-in for a writer. -/
structure StandIn where
  /-- The connection that it writes for. -/
  id : ConnectionId
  /-- How it answers pings. -/
  manner : Manner
  /-- How long it takes to answer. -/
  delay : Nanos
  /-- The frames that it took and that were not asked for since. -/
  taken : List Outgoing
  /-- The ping that it is about to answer, and when. -/
  answering : Option (Nanos × Nat)
  /-- It takes nothing any more. -/
  ended : Bool
  deriving DecidableEq, Repr

namespace StandIn

/-- What a stand-in says about a ping. -/
def verdict (s : StandIn) : Bool :=
  s.manner == .affirms

/-- A frame is taken. -/
def take (s : StandIn) (now : Nanos) (frame : Outgoing) (h : Switchboard) : StandIn × Switchboard :=
  let s := { s with taken := s.taken ++ [frame] }
  match frame with
  | .text _ => (s, h)
  | .close => ({ s with ended := true }, h.abandon s.id)
  | .probe ticket =>
    if s.delay = 0 then (s, h.settle ticket s.verdict)
    else ({ s with answering := some (now + s.delay, ticket) }, h)

/-- What a stand-in does next, if there is something to do now. -/
def turn? (s : StandIn) (now : Nanos) (h : Switchboard) : Option (StandIn × Switchboard) :=
  if s.ended then none
  else
    match s.answering with
    | some (time, ticket) =>
      if time ≤ now then some ({ s with answering := none }, h.settle ticket s.verdict) else none
    | none => (h.take? s.id).map fun (frame, h) => s.take now frame h

/-- A stand-in is sent away. What it was about to say is not said. -/
def dismiss (s : StandIn) (h : Switchboard) : StandIn × Switchboard :=
  let h := match s.answering with
    | some (_, ticket) => h.settle ticket false
    | none => h
  ({ s with answering := none, ended := true }, h.abandon s.id)

end StandIn

end Rendezvous.Rehearsal
