import Rendezvous.Rehearsal.World

/-!
# Time in a rehearsal

Whatever can be done at an instant is done before time moves on: stand-ins and writers take what
waits for them, readers read, connections are opened and ended, periodic tasks work, rounds of the
heartbeat are concluded. One thing is done after the other, in a fixed order, until nothing is left
to do. Then time moves to the next instant at which something happens by itself, and there the time
that pings have is up before anyone who was asleep wakes.
-/

namespace Rendezvous.Rehearsal

/-! ### Periodic tasks -/

namespace Job

/-- A task that starts. -/
def start (now period : Nanos) (work : Work) : Job :=
  ⟨.start now period, work, 0, none, none⟩

/-- The work is done. -/
def finish (j : Job) : Job :=
  { j with task := j.task.finish, round := none, busyUntil := none }

/-- The work begins, and may be done with that. -/
def begin (j : Job) (w : World) : Job × World :=
  let j := { j with task := j.task.begin w.now }
  match j.work with
  | .sweep => (j.finish, { w with ledger := (w.ledger.sweep w.now).2 })
  | .count busy =>
    if busy = 0 then ({ j with ticks := j.ticks + 1 }.finish, w)
    else ({ j with busyUntil := some (w.now + busy) }, w)
  | .heartbeat =>
    let round := Round.start Limit.probeWrite Limit.liveness w.board
    let (round, board) := round.checkAll w.now w.board
    if round.candidates.isEmpty then (j.finish, w)
    else ({ j with round := some round }, { w with board })

/-- What a task does next, if there is something to do now. -/
def turn? (j : Job) (w : World) : Option (Job × World) :=
  if j.task.isDue w.now then some (j.begin w)
  else
    match j.round, j.busyUntil with
    | some round, _ =>
      let round := round.judgeAll w.board
      if round.isJudged then some (j.finish, { w with board := (round.conclude w.board).2 })
      else none
    | none, some time =>
      if time ≤ w.now then some ({ j with ticks := j.ticks + 1 }.finish, w) else none
    | none, none => none

/-- The instants at which a task goes on by itself. -/
def instants (j : Job) : List Nanos :=
  j.task.wakeAt?.toList ++ j.busyUntil.toList

end Job

namespace World

/-! ### One thing after the other -/

/-- Something that a stand-in can do now. -/
def standInTurn? (w : World) : Option World :=
  w.standIns.entries.findSome? fun (id, s) =>
    (s.turn? w.now w.board).map fun (s, board) =>
      { w with board, standIns := w.standIns.insert id s }

/-- Something that a connection with a client can do now. -/
def socketTurn? (w : World) : Option World :=
  w.sockets.entries.findSome? fun (id, s) =>
    match s.revokes? with
    | some token =>
      let w := (w.revoke token).2
      some { w with
        sockets := w.sockets.insert id { s with serving := s.serving.tokenRevoked } }
    | none =>
      let turn := (s.lifeTurn? w.board).orElse fun _ =>
        (s.readerTurn? w.now w.board).orElse fun _ => s.writerTurn? w.now w.board
      turn.map fun (s, board) => { w with board, sockets := w.sockets.insert id s }

/-- Something that a periodic task can do now. -/
def jobTurn? (w : World) : Option World :=
  w.jobs.entries.findSome? fun (id, j) =>
    (j.turn? w).map fun (j, w) => { w with jobs := w.jobs.insert id j }

/-- Something that can be done now. -/
def turn? (w : World) : Option World :=
  w.standInTurn?.orElse fun _ => w.socketTurn?.orElse fun _ => w.jobTurn?

/-- More turns than can be taken at one instant: every frame that waits and every byte that may be
the beginning of one is dealt with in a few, and so is everyone who takes part. -/
def turns (w : World) : Nat :=
  let frames := w.board.connections.values.foldl (fun n c => n + c.queue.length) 0
  let bytes := w.sockets.values.foldl (fun n s =>
    n + s.toService.length + s.endpoint.incoming.length + s.endpoint.outgoing.length) 0
  16 * (1 + frames + bytes + w.board.connections.size + w.jobs.size)

/-- Turns are taken until nothing is left to do, or so many of them. -/
def take (w : World) : Nat → World
  | 0 => w
  | n + 1 =>
    match w.turn? with
    | some w => w.take n
    | none => w

/-- Everything that can be done now is done. -/
def settle (w : World) : World :=
  w.take w.turns

/-! ### Time -/

/-- The instants at which something happens by itself. -/
def instants (w : World) : List Nanos :=
  w.board.probes.values.filterMap (fun
    | .waiting deadline => some deadline
    | .settled _ => none) ++
  w.standIns.values.filterMap (fun s => s.answering.map (·.1)) ++
  w.sockets.values.filterMap (fun s =>
    match s.writer with
    | .writing _ => some s.deadline
    | _ => none) ++
  w.jobs.values.flatMap Job.instants

/-- The next instant at which something happens by itself. -/
def next? (w : World) : Option Nanos :=
  (w.instants.filter (w.now < ·)).min?

/-- Time moves on to an instant, and what can be done there is done. -/
def moveTo (w : World) (time : Nanos) : World :=
  { w with now := max w.now time, board := w.board.expire time }.settle

/-- Time moves on to an instant, by way of all instants before it at which something happens. -/
def elapse (w : World) (time : Nanos) (fuel : Nat) : World :=
  match fuel with
  | 0 => w.moveTo time
  | fuel + 1 =>
    match w.next? with
    | some t => if t ≤ time then (w.moveTo t).elapse time fuel else w.moveTo time
    | none => w.moveTo time

/-- Time moves on by a span. -/
def wait (w : World) (span : Nanos) : World :=
  w.settle.elapse (w.now + span) (span + 1)

/-- Time moves on as far as it has to for something to be seen, but not past an instant. -/
def await {α : Type} (w : World) (see : World → Option α) (time : Nanos) (fuel : Nat) :
    Option α × World :=
  match see w with
  | some a => (some a, w)
  | none =>
    match fuel with
    | 0 => (none, w)
    | fuel + 1 =>
      match w.next? with
      | some t => if t ≤ time then (w.moveTo t).await see time fuel else (none, w)
      | none => (none, w)

/-- Time moves on as far as it has to for something to be seen, but by no more than a span. -/
def awaitFor {α : Type} (w : World) (see : World → Option α) (span : Nanos) : Option α × World :=
  let w := w.settle
  w.await see (w.now + span) (span + 1)

end World

end Rendezvous.Rehearsal
