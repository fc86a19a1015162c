import Mathlib.Data.List.Basic
import Rendezvous.Channel.Writer
import Rendezvous.Proofs.Heartbeat.Watch
import Rendezvous.Proofs.Switchboard.Succession

/-!
# A writer at work

Here is one connection with its writer, from the moment when the connection is opened. Others put
texts into its queue, ask for pings, close it, register another connection in its place or evict it,
and do anything else at the switchboard, in any order; time goes by; and the writer does what it can
do. A *shift* is all of this at one moment, with a record of what has happened to the writer
(`Shift.log`) and of the texts that the queue took (`Shift.accepted`).

## What the writer can do

An event happens to the writer only if it can (`Shift.admits`). The writer sees the flag only if
this is up; it takes the frame that is first in the queue; a frame counts as written only within its
time, and its time is over only then. Where several events are possible, as when the flag is up and
a frame waits, or when the flag goes up while a text is written, any of them may happen. The writer
may also be stopped from outside, in the middle of whatever it does, and its queue is gone with it.

The end of a writer is one move here: it raises the flag and drops the queue as it comes to its end.
Whatever is put into the queue between the last event and this might as well have come before the
event, since no such event looks at the queue.

## What can be read off the record

The frames that the writer began to write are those that it wrote, the one that it lost, and the one
it has in hand, in this order (`Shift.Recorded.begun`). The texts among them, followed by those in
the queue, are the texts that the queue took, as long as the writer is at work. And the writer loses
at most one frame, since it is done with it. All this is kept by every move (`Shift.orderly_after`).
-/

namespace Rendezvous

/-! ### A connection after what is done to it -/

namespace Switchboard

variable {h : Switchboard} {id : ConnectionId} {c : Connection}

theorem connection?_close (h : Switchboard) (id id' : ConnectionId) :
    (h.close id).connection? id' =
      if id' = id then (h.connection? id').map Connection.close else h.connection? id' :=
  h.connection?_update id id' _

/-- **A call closes a connection**: it says so, it evicts the connection, or it registers another
one in its place. -/
def Closes (h : Switchboard) (id : ConnectionId) : RegistryCall → Prop
  | .register id' => (h.enter id').1 = some id
  | .unregister .. => False
  | .evict id' => id' = id
  | .close id' => id' = id

instance (call : RegistryCall) : Decidable (h.Closes id call) := by
  cases call <;> unfold Closes <;> infer_instance

theorem connection?_evict (h : Switchboard) (id id' : ConnectionId) :
    (h.evict id).2.connection? id' =
      if id' = id then (h.connection? id').map Connection.close else h.connection? id' := by
  unfold evict
  cases hc : h.connection? id with
  | none =>
    dsimp only
    split
    · next he =>
      rw [he, hc]
      rfl
    · rfl
  | some c =>
    refine (connection?_close ..).trans ?_
    unfold connection?
    rw [connections_unregister]

/-- The connection that was the current one before is closed when its user gets another one. -/
theorem connection?_register (h : Switchboard) (id id' : ConnectionId) :
    (h.register id).2.connection? id' =
      if (h.enter id).1 = some id' then (h.connection? id').map Connection.close
      else h.connection? id' := by
  have hsame : (h.enter id).2.connection? id' = h.connection? id' := by
    unfold connection?
    rw [connections_enter]
  unfold register
  generalize h.enter id = entered at hsame ⊢
  obtain ⟨old, h'⟩ := entered
  cases old with
  | none => simpa using hsame
  | some old =>
    refine (connection?_close ..).trans ?_
    rw [hsame]
    simp only [Option.some.injEq, eq_comm]

/-- **A connection after a call** is closed if the call closes it, and as it was otherwise. -/
theorem connection?_perform (h : Switchboard) (call : RegistryCall) (id : ConnectionId) :
    (h.perform call).connection? id =
      if h.Closes id call then (h.connection? id).map Connection.close else h.connection? id := by
  cases call with
  | register id' => exact h.connection?_register id' id
  | unregister user id' =>
    refine Eq.trans ?_ (if_neg not_false).symm
    unfold connection?
    exact congrArg (·.get? id) (connections_unregister ..)
  | evict id' => exact (h.connection?_evict id' id).trans (by simp only [Closes, eq_comm])
  | close id' => exact (h.connection?_close id' id).trans (by simp only [Closes, eq_comm])

theorem connections_settled (tickets : List Nat) (h : Switchboard) :
    (tickets.foldl (fun h ticket => h.settle ticket false) h).connections = h.connections := by
  induction tickets generalizing h with
  | nil => rfl
  | cons ticket rest ih => exact ih _

theorem connection?_abandon (hc : h.connection? id = some c) :
    (h.abandon id).connection? id = some c.abandon := by
  unfold abandon
  rw [hc]
  unfold connection?
  rw [connections_settled]
  change (h.update id Connection.abandon).connection? id = _
  rw [connection?_update, if_pos rfl, hc]
  rfl

theorem connection?_probe (hc : h.connection? id = some c) (now wait : Nanos) :
    (h.probe id now wait).2.connection? id = some (c.offer (.probe h.probes.size)).2 := by
  unfold probe
  rw [hc]
  exact Table.get?_insert_self ..

theorem connection?_take? (hc : h.connection? id = some c) {frame : Outgoing} {rest : List Outgoing}
    (hqueue : c.queue = frame :: rest) :
    ∃ h', h.take? id = some (frame, h') ∧ h'.connection? id = some { c with queue := rest } := by
  unfold take?
  rw [hc, Option.bind_some, Connection.take?, hqueue]
  exact ⟨_, rfl, Table.get?_insert_self ..⟩

end Switchboard

/-! ### Texts and pings among frames -/

namespace Outgoing

/-- The text, if it is one. -/
def text? : Outgoing → Option String
  | .text content => some content
  | _ => none

/-- The ticket of a ping, if it is one. -/
def ticket? : Outgoing → Option Nat
  | .probe ticket => some ticket
  | _ => none

/-- The texts among some frames. -/
def texts (frames : List Outgoing) : List String :=
  frames.filterMap text?

/-- The tickets of the pings among some frames. -/
def tickets (frames : List Outgoing) : List Nat :=
  frames.filterMap ticket?

@[simp] theorem texts_nil : texts [] = [] := rfl

@[simp] theorem texts_append (l l' : List Outgoing) : texts (l ++ l') = texts l ++ texts l' :=
  List.filterMap_append

@[simp] theorem tickets_append (l l' : List Outgoing) :
    tickets (l ++ l') = tickets l ++ tickets l' :=
  List.filterMap_append

end Outgoing

/-! ### What has happened to a writer -/

namespace Writer

/-- **How a writer goes on** from what it is doing. -/
inductive Proceeds : Phase → Event → Phase → Prop where
  /-- It takes a frame. -/
  | takes (frame : Outgoing) : Proceeds .waiting (.took frame) (.writing frame)
  /-- It sees the flag, and begins with the closing frame. -/
  | parts : Proceeds .waiting .sawClosed (.writing .close)
  /-- It has written a text or a ping. -/
  | writes {frame : Outgoing} (hne : frame ≠ .close) : Proceeds (.writing frame) .written .waiting
  /-- It has written the closing frame. -/
  | closes : Proceeds (.writing .close) .written .finished
  /-- It sees the flag while it writes a text, and gives the text up. -/
  | givesUp (content : String) : Proceeds (.writing (.text content)) .sawClosed .finished
  /-- The frame cannot be written. -/
  | fails (frame : Outgoing) : Proceeds (.writing frame) .failed .finished
  /-- The time for the frame is over. -/
  | isLate (frame : Outgoing) : Proceeds (.writing frame) .timedOut .finished

theorem Proceeds.step_eq {phase next : Phase} {event : Event} (h : Proceeds phase event next) :
    step phase event = next := by
  cases h with
  | writes hne =>
    rename_i frame
    cases frame with
    | close => exact absurd rfl hne
    | _ => rfl
  | fails frame => cases frame <;> rfl
  | isLate frame => cases frame <;> rfl
  | _ => rfl

theorem Proceeds.ne_finished {phase next : Phase} {event : Event} (h : Proceeds phase event next) :
    phase ≠ .finished := by
  cases h <;> simp

/-- A writer does not come to its end with a frame that it takes. -/
theorem Proceeds.not_took {phase : Phase} {event : Event} (h : Proceeds phase event .finished)
    (frame : Outgoing) : event ≠ .took frame := by
  cases h <;> simp

/-- **The connection of a writer after an event**: it is closed and its queue is gone if the writer
is done, and nothing has become of it otherwise. -/
theorem connection?_advance {h : Switchboard} {id : ConnectionId} {c : Connection}
    (hc : h.connection? id = some c) (phase : Phase) (event : Event) :
    (advance id phase event h).2.connection? id =
      some (if step phase event = .finished then c.close.abandon else c) := by
  -- what is told about a ping is told to the one who asked for it, and leaves the connection alone
  have hended : ∀ h' : Switchboard, h'.connection? id = some c →
      (if step phase event = .finished then (h'.close id).abandon id else h').connection? id =
        some (if step phase event = .finished then c.close.abandon else c) := by
    intro h' hc'
    split
    · refine Switchboard.connection?_abandon ?_
      rw [Switchboard.connection?_close, if_pos rfl, hc']
      rfl
    · exact hc'
  unfold advance
  cases report? phase event with
  | none => exact hended h hc
  | some told => exact hended _ hc

/-- Something that has happened to a writer. -/
structure Incident where
  /-- What the writer was doing. -/
  phase : Phase
  /-- What happened. -/
  event : Event
  /-- When the writer had begun with what it was doing. -/
  since : Nanos
  /-- When it happened. -/
  now : Nanos
  deriving DecidableEq, Repr

namespace Incident

/-- The frame with which the writer begins. -/
def begun? (i : Incident) : Option Outgoing :=
  match i.phase, i.event with
  | .waiting, .took frame => some frame
  | .waiting, .sawClosed => some .close
  | _, _ => none

/-- The frame that is written. -/
def written? (i : Incident) : Option Outgoing :=
  match i.phase, i.event with
  | .writing frame, .written => some frame
  | _, _ => none

/-- The frame that will never be written. -/
def lost? (i : Incident) : Option Outgoing :=
  match i.phase, i.event with
  | .writing frame, .failed => some frame
  | .writing frame, .timedOut => some frame
  | .writing (.text content), .sawClosed => some (.text content)
  | _, _ => none

/-- What is told about a ping. -/
def told? (i : Incident) : Option (Nat × Bool) :=
  report? i.phase i.event

end Incident

/-- The frame that is being written. -/
def Phase.inHand : Phase → List Outgoing
  | .writing frame => [frame]
  | _ => []

variable {phase next : Phase} {event : Event} {since now : Nanos}

/-- **Nothing gets lost without a trace**: the frame that a writer has in hand, or begins with, is
written, lost, or in hand afterwards. -/
theorem Proceeds.balance (h : Proceeds phase event next) :
    phase.inHand ++ (Incident.begun? ⟨phase, event, since, now⟩).toList =
      (Incident.written? ⟨phase, event, since, now⟩).toList ++
        (Incident.lost? ⟨phase, event, since, now⟩).toList ++ next.inHand := by
  cases h <;> rfl

/-- **About a ping something is told** when it is written or lost. -/
theorem Proceeds.told (h : Proceeds phase event next) :
    (Incident.told? ⟨phase, event, since, now⟩).toList.map (·.1) =
      Outgoing.tickets ((Incident.written? ⟨phase, event, since, now⟩).toList ++
        (Incident.lost? ⟨phase, event, since, now⟩).toList) := by
  cases h with
  | writes hne =>
    rename_i frame
    cases frame <;> rfl
  | fails frame => cases frame <;> rfl
  | isLate frame => cases frame <;> rfl
  | _ => rfl

/-- Only from the queue comes a text. -/
theorem Proceeds.texts_begun (h : Proceeds phase event next)
    (htook : ∀ frame, event ≠ .took frame) :
    Outgoing.texts (Incident.begun? ⟨phase, event, since, now⟩).toList = [] := by
  cases h with
  | takes frame => exact absurd rfl (htook frame)
  | fails frame => cases frame <;> rfl
  | isLate frame => cases frame <;> rfl
  | _ => rfl

/-- A writer that goes on has lost nothing and has not written a closing frame. -/
theorem Proceeds.going (h : Proceeds phase event next) (hnext : next ≠ .finished)
    (since now : Nanos) :
    Incident.lost? ⟨phase, event, since, now⟩ = none ∧
      Incident.written? ⟨phase, event, since, now⟩ ≠ some .close := by
  cases h with
  | takes frame => exact ⟨rfl, by simp [Incident.written?]⟩
  | parts => exact ⟨rfl, by simp [Incident.written?]⟩
  | writes hne =>
    rename_i frame
    refine ⟨?_, by simpa [Incident.written?] using hne⟩
    cases frame <;> rfl
  | _ => exact absurd rfl hnext

/-- A writer that comes to its end has written the closing frame or lost a frame. -/
theorem Proceeds.done (h : Proceeds phase event .finished) (since now : Nanos) :
    (Incident.lost? ⟨phase, event, since, now⟩ = none ∧
      Incident.written? ⟨phase, event, since, now⟩ = some .close) ∨
    ∃ frame, Incident.lost? ⟨phase, event, since, now⟩ = some frame ∧
      Incident.written? ⟨phase, event, since, now⟩ = none := by
  cases h with
  | closes => exact Or.inl ⟨rfl, rfl⟩
  | givesUp content => exact Or.inr ⟨_, rfl, rfl⟩
  | fails frame => exact Or.inr ⟨frame, by cases frame <;> rfl, rfl⟩
  | isLate frame => exact Or.inr ⟨frame, by cases frame <;> rfl, rfl⟩

end Writer

/-! ### Shifts -/

/-- **A writer at work**, at one moment. -/
structure Shift where
  /-- The connection. -/
  id : ConnectionId
  /-- What time it is. -/
  now : Nanos
  /-- The switchboard. -/
  board : Switchboard
  /-- What the writer is doing. -/
  phase : Writer.Phase
  /-- When it began with that. -/
  since : Nanos
  /-- The texts that the queue took, in their order. -/
  accepted : List String
  /-- What has happened to the writer, in its order. -/
  log : List Writer.Incident
  /-- The writer was stopped. -/
  stopped : Bool

namespace Shift

/-- A connection that is opened for a user, with its writer. -/
def start (h : Switchboard) (user : UserId) (now : Nanos) : Shift :=
  ⟨(h.open user now).1, now, (h.open user now).2, .waiting, now, [], [], false⟩

/-- The connection. -/
def connection? (s : Shift) : Option Connection :=
  s.board.connection? s.id

/-- The flag of the connection is up. -/
def isEnding (s : Shift) : Bool :=
  s.connection?.all (·.closed)

/-- What waits for the writer. -/
def queue (s : Shift) : List Outgoing :=
  (s.connection?.map (·.queue)).getD []

/-- **An event that can happen to the writer.** A frame is written within its time or not at all. -/
def admits (s : Shift) (event : Writer.Event) : Bool :=
  match s.phase, event with
  | .waiting, .sawClosed => s.isEnding
  | .waiting, .took frame => s.queue.head? == some frame
  | .writing (.text _), .sawClosed => s.isEnding
  | .writing frame, .written => s.now ≤ s.since + Writer.budget frame
  | .writing _, .failed => true
  | .writing frame, .timedOut => s.since + Writer.budget frame ≤ s.now
  | _, _ => false

/-- The switchboard as the writer finds it with an event: a frame that it took is not in the queue
any more. -/
def found (s : Shift) : Writer.Event → Switchboard
  | .took _ => ((s.board.take? s.id).map (·.2)).getD s.board
  | _ => s.board

/-- Something happens to the writer. -/
def occur (s : Shift) (event : Writer.Event) : Shift :=
  let (phase, board) := Writer.advance s.id s.phase event (s.found event)
  { s with board, phase, since := s.now, log := s.log ++ [⟨s.phase, event, s.since, s.now⟩] }

/-- A text is put into the queue, if the queue takes it. -/
def push (s : Shift) (content : String) : Shift :=
  { s with
    board := (s.board.push s.id content).2
    accepted := if (s.board.push s.id content).1 then s.accepted ++ [content] else s.accepted }

/-- The flag, the queue and the writer's end of a connection are as they were. -/
def Spares (id : ConnectionId) (h h' : Switchboard) : Prop :=
  (h'.connection? id).map (fun c => (c.queue, c.writerGone, c.closed)) =
    (h.connection? id).map fun c => (c.queue, c.writerGone, c.closed)

instance (id : ConnectionId) (h h' : Switchboard) : Decidable (Spares id h h') :=
  inferInstanceAs (Decidable (_ = _))

/-- Something else is done to the switchboard, if it leaves the connection as it is. -/
def disturb (s : Shift) (event : Watch.Event) : Shift :=
  if Spares s.id s.board (event.perform s.now s.board) then
    { s with board := event.perform s.now s.board }
  else s

/-- Something happens to the writer, if it can. A writer that was stopped does nothing any more. -/
def write (s : Shift) (event : Writer.Event) : Shift :=
  if s.stopped = false ∧ s.admits event = true then s.occur event else s

/-- The writer is stopped, if it is at work, and its queue is gone. -/
def stop (s : Shift) : Shift :=
  if s.stopped = false ∧ s.phase ≠ .finished then
    { s with board := s.board.abandon s.id, stopped := true }
  else s

/-- What happens. -/
inductive Move where
  /-- A text is put into the queue. -/
  | push (content : String)
  /-- A ping is asked for. -/
  | probe (wait : Nanos)
  /-- Connections are registered, taken out, evicted, or closed, this one or others. -/
  | call (call : RegistryCall)
  /-- Something else is done to the switchboard. -/
  | disturb (event : Watch.Event)
  /-- Something happens to the writer. -/
  | write (event : Writer.Event)
  /-- The writer is stopped. -/
  | stop
  /-- Time goes by. -/
  | wait (span : Nanos)

/-- A shift after a move. -/
def step (s : Shift) : Move → Shift
  | .push content => s.push content
  | .probe wait => { s with board := (s.board.probe s.id s.now wait).2 }
  | .call call => { s with board := s.board.perform call }
  | .disturb event => s.disturb event
  | .write event => s.write event
  | .stop => s.stop
  | .wait span => { s with now := s.now + span }

/-- A shift after some moves. -/
def after (s : Shift) (moves : List Move) : Shift :=
  moves.foldl step s

variable {s s' : Shift} {c c' : Connection}

theorem after_append (s : Shift) (moves later : List Move) :
    s.after (moves ++ later) = (s.after moves).after later :=
  List.foldl_append

theorem after_concat (s : Shift) (moves : List Move) (m : Move) :
    s.after (moves ++ [m]) = (s.after moves).step m :=
  s.after_append moves [m]

/-! ### What a move does -/

/-- A move that may put a frame into the queue. -/
def Move.Asks : Move → Bool
  | .push _ => true
  | .probe _ => true
  | .call _ => true
  | _ => false

/-- **What a move does** to a shift and its connection, with the frames that come into the queue. -/
inductive Effect (s : Shift) (c : Connection) : List Outgoing → Shift → Connection → Prop where
  /-- At most one frame is put into the queue, and the flag may go up. -/
  | asked {board : Switchboard} {now : Nanos} {c' : Connection} {extra : List Outgoing}
      (hone : extra.length ≤ 1) (hroom : extra ≠ [] → c.writerGone = false)
      (hqueue : c'.queue = c.queue ++ extra) (hgone : c'.writerGone = c.writerGone)
      (hclosed : c.closed = true → c'.closed = true) :
      Effect s c extra { s with board, now, accepted := s.accepted ++ Outgoing.texts extra } c'
  /-- The writer takes a frame. -/
  | took {board : Switchboard} {frame : Outgoing} {rest : List Outgoing} (hat : s.stopped = false)
      (hphase : s.phase = .waiting) (hqueue : c.queue = frame :: rest) :
      Effect s c [] { s with
        board, phase := .writing frame, since := s.now,
        log := s.log ++ [⟨.waiting, .took frame, s.since, s.now⟩] } { c with queue := rest }
  /-- The writer goes on without the queue. -/
  | went {board : Switchboard} {event : Writer.Event} {next : Writer.Phase}
      (hat : s.stopped = false) (hadmits : s.admits event = true)
      (hproceeds : Writer.Proceeds s.phase event next) (hnext : next ≠ .finished)
      (htook : ∀ frame, event ≠ .took frame) :
      Effect s c [] { s with
        board, phase := next, since := s.now, log := s.log ++ [⟨s.phase, event, s.since, s.now⟩] } c
  /-- The writer is done. -/
  | ended {board : Switchboard} {event : Writer.Event} (hat : s.stopped = false)
      (hadmits : s.admits event = true)
      (hproceeds : Writer.Proceeds s.phase event .finished) :
      Effect s c [] { s with
        board, phase := .finished, since := s.now,
        log := s.log ++ [⟨s.phase, event, s.since, s.now⟩] } c.close.abandon
  /-- The writer is stopped. -/
  | stopped {board : Switchboard} (hat : s.stopped = false) (hphase : s.phase ≠ .finished) :
      Effect s c [] { s with board, stopped := true } c.abandon

/-- Nothing is done to the queue. -/
theorem effect_still (board : Switchboard) (now : Nanos) (hqueue : c'.queue = c.queue)
    (hgone : c'.writerGone = c.writerGone) (hclosed : c.closed = true → c'.closed = true) :
    s.Effect c [] { s with board, now } c' := by
  have hnone : { s with board, now } =
      { s with board, now, accepted := s.accepted ++ Outgoing.texts [] } := by
    simp
  rw [hnone]
  exact .asked (Nat.zero_le _) (fun hne => absurd rfl hne) (by simp [hqueue]) hgone hclosed

theorem effect_idle (s : Shift) (c : Connection) : s.Effect c [] s c :=
  effect_still s.board s.now rfl rfl fun h => h

/-- A frame is offered to the queue of a connection. -/
theorem effect_offer (c' : Connection) (frame : Outgoing) (board : Switchboard)
    {accepted : List String} (hclosed : c.closed = true → c'.closed = true)
    (hqueue : c'.queue = c.queue) (hgone : c'.writerGone = c.writerGone)
    (haccepted : accepted =
      if c.hasRoom then s.accepted ++ Outgoing.texts [frame] else s.accepted) :
    ∃ extra, s.Effect c extra { s with board, accepted } (c'.offer frame).2 := by
  have hroom' : c'.hasRoom = c.hasRoom := by
    unfold Connection.hasRoom
    rw [hqueue, hgone]
  unfold Connection.offer
  rw [hroom', haccepted]
  cases hroom : c.hasRoom with
  | true =>
    refine ⟨[frame], .asked (Nat.le_refl _) (fun _ => ?_) (by simp [hqueue]) hgone hclosed⟩
    simpa using (Bool.and_eq_true_iff.1 hroom).1
  | false => exact ⟨[], effect_still board s.now hqueue hgone hclosed⟩

/-- The connection is closed. -/
theorem effect_close (c : Connection) (board : Switchboard) :
    ∃ extra, s.Effect c extra { s with board } c.close := by
  unfold Connection.close
  split
  · exact ⟨[], effect_still board s.now rfl rfl fun h => h⟩
  · refine effect_offer _ _ _ (fun _ => rfl) rfl rfl ?_
    simp [Outgoing.texts, Outgoing.text?]

/-- A frame is written within its time. -/
theorem admits_written {frame : Outgoing} (hphase : s.phase = .writing frame) :
    s.admits .written = decide (s.now ≤ s.since + Writer.budget frame) := by
  unfold admits
  rw [hphase]
  cases frame <;> rfl

/-- The time for a frame is over when it is. -/
theorem admits_timedOut {frame : Outgoing} (hphase : s.phase = .writing frame) :
    s.admits .timedOut = decide (s.since + Writer.budget frame ≤ s.now) := by
  unfold admits
  rw [hphase]
  cases frame <;> rfl

/-- Any frame may fail. -/
theorem admits_failed {frame : Outgoing} (hphase : s.phase = .writing frame) :
    s.admits .failed = true := by
  unfold admits
  rw [hphase]
  cases frame <;> rfl

/-- What is possible for a writer is one of the ways in which it goes on. -/
theorem proceeds_of_admits {event : Writer.Event} (hadmits : s.admits event = true) :
    ∃ next, Writer.Proceeds s.phase event next := by
  unfold admits at hadmits
  generalize s.phase = phase at hadmits ⊢
  split at hadmits
  · exact ⟨_, .parts⟩
  · exact ⟨_, .takes _⟩
  · exact ⟨_, .givesUp _⟩
  · next frame =>
    by_cases hframe : frame = .close
    · subst hframe
      exact ⟨_, .closes⟩
    · exact ⟨_, .writes hframe⟩
  · exact ⟨_, .fails _⟩
  · exact ⟨_, .isLate _⟩
  · exact absurd hadmits (by simp)

/-- **What an event does** that can happen to the writer. -/
theorem effect_occur (hc : s.connection? = some c) (hat : s.stopped = false) {event : Writer.Event}
    (hadmits : s.admits event = true) :
    ∃ c', (s.occur event).connection? = some c' ∧ s.Effect c [] (s.occur event) c' := by
  obtain ⟨next, hproceeds⟩ := proceeds_of_admits hadmits
  have hstep := hproceeds.step_eq
  have hfound : ∀ c', (s.found event).connection? s.id = some c' →
      (s.occur event).connection? = some (if next = .finished then c'.close.abandon else c') := by
    intro c' hc'
    rw [← hstep]
    exact Writer.connection?_advance hc' s.phase event
  have hoccur : s.occur event = { s with
      board := (Writer.advance s.id s.phase event (s.found event)).2, phase := next, since := s.now,
      log := s.log ++ [⟨s.phase, event, s.since, s.now⟩] } := by
    rw [← hstep]
    rfl
  by_cases htook : ∃ frame, event = .took frame
  · obtain ⟨frame, rfl⟩ := htook
    obtain ⟨hphase, rfl⟩ : s.phase = .waiting ∧ next = .writing frame := by
      generalize s.phase = phase at hproceeds
      cases hproceeds
      exact ⟨rfl, rfl⟩
    have hhead : c.queue.head? = some frame := by
      unfold admits queue at hadmits
      rw [hphase, hc] at hadmits
      exact beq_iff_eq.1 hadmits
    obtain ⟨rest, hqueue⟩ := List.head?_eq_some_iff.1 hhead
    obtain ⟨h', htake, hc'⟩ := Switchboard.connection?_take? hc hqueue
    have hboard : (s.found (.took frame)).connection? s.id = some { c with queue := rest } := by
      unfold found
      rw [htake]
      exact hc'
    have hc' := hfound _ hboard
    rw [hoccur, hphase] at hc' ⊢
    exact ⟨_, hc', .took hat hphase hqueue⟩
  · have hboard : (s.found event).connection? s.id = some c := by
      cases event with
      | took frame => exact absurd ⟨frame, rfl⟩ htook
      | _ => exact hc
    have hc' := hfound c hboard
    rw [hoccur] at hc' ⊢
    by_cases hnext : next = .finished
    · subst hnext
      exact ⟨_, hc', .ended hat hadmits hproceeds⟩
    · rw [if_neg hnext] at hc'
      exact ⟨c, hc', .went hat hadmits hproceeds hnext fun frame he => htook ⟨frame, he⟩⟩

/-- **Every move has one of these effects.** -/
theorem effect (hc : s.connection? = some c) (m : Move) :
    ∃ c' extra, (s.step m).connection? = some c' ∧ s.Effect c extra (s.step m) c' ∧
      (m.Asks = false → extra = []) := by
  cases m with
  | push content =>
    obtain ⟨htaken, hc'⟩ := Switchboard.connection?_push hc content
    have haccepted : (s.push content).accepted =
        if c.hasRoom then s.accepted ++ Outgoing.texts [.text content] else s.accepted := by
      unfold push
      rw [htaken]
      unfold Connection.push Connection.offer
      cases c.hasRoom <;> rfl
    obtain ⟨extra, heffect⟩ := effect_offer c (.text content) _ (fun h => h) rfl rfl haccepted
    exact ⟨_, extra, hc', heffect, by simp [Move.Asks]⟩
  | probe wait =>
    have haccepted : s.accepted = if c.hasRoom then
        s.accepted ++ Outgoing.texts [.probe s.board.probes.size] else s.accepted := by
      simp [Outgoing.texts, Outgoing.text?]
    obtain ⟨extra, heffect⟩ := effect_offer c (.probe s.board.probes.size)
      (s.board.probe s.id s.now wait).2 (fun h => h) rfl rfl haccepted
    exact ⟨_, extra, Switchboard.connection?_probe hc s.now wait, heffect, by simp [Move.Asks]⟩
  | call call =>
    have hc' : (s.board.perform call).connection? s.id = _ := s.board.connection?_perform call s.id
    rw [show s.board.connection? s.id = some c from hc] at hc'
    split at hc'
    · obtain ⟨extra, heffect⟩ := effect_close (s := s) c (s.board.perform call)
      exact ⟨c.close, extra, hc', heffect, by simp [Move.Asks]⟩
    · exact ⟨c, [], hc', effect_still _ s.now rfl rfl fun h => h, fun _ => rfl⟩
  | disturb event =>
    change ∃ c' extra, (s.disturb event).connection? = some c' ∧
      s.Effect c extra (s.disturb event) c' ∧ _
    unfold disturb
    split
    · next hspares =>
      unfold Spares at hspares
      rw [show s.board.connection? s.id = some c from hc] at hspares
      obtain ⟨c', hc', hsame⟩ := Option.map_eq_some_iff.1 hspares
      obtain ⟨hqueue, hgone, hclosed⟩ : c'.queue = c.queue ∧ c'.writerGone = c.writerGone ∧
        c'.closed = c.closed := by simpa using hsame
      exact ⟨c', [], hc', effect_still _ s.now hqueue hgone fun h => hclosed.trans h, fun _ => rfl⟩
    · exact ⟨c, [], hc, effect_idle s c, fun _ => rfl⟩
  | write event =>
    change ∃ c' extra, (s.write event).connection? = some c' ∧
      s.Effect c extra (s.write event) c' ∧ _
    unfold write
    split
    · next hcan =>
      obtain ⟨c', hc', heffect⟩ := effect_occur hc hcan.1 hcan.2
      exact ⟨c', [], hc', heffect, fun _ => rfl⟩
    · exact ⟨c, [], hc, effect_idle s c, fun _ => rfl⟩
  | stop =>
    change ∃ c' extra, s.stop.connection? = some c' ∧ s.Effect c extra s.stop c' ∧ _
    unfold stop
    split
    · next hcan =>
      exact ⟨c.abandon, [], Switchboard.connection?_abandon hc, .stopped hcan.1 hcan.2,
        fun _ => rfl⟩
    · exact ⟨c, [], hc, effect_idle s c, fun _ => rfl⟩
  | wait span => exact ⟨c, [], hc, effect_still s.board _ rfl rfl fun h => h, fun _ => rfl⟩

/-! ### What can be read off the record -/

/-- The frames with which the writer began. -/
def begun (s : Shift) : List Outgoing :=
  s.log.filterMap Writer.Incident.begun?

/-- The frames that are written. -/
def written (s : Shift) : List Outgoing :=
  s.log.filterMap Writer.Incident.written?

/-- The frames that the writer has lost. -/
def lost (s : Shift) : List Outgoing :=
  s.log.filterMap Writer.Incident.lost?

/-- What was told about pings. -/
def told (s : Shift) : List (Nat × Bool) :=
  s.log.filterMap Writer.Incident.told?

/-- The writer is neither done nor stopped. -/
def AtWork (s : Shift) : Prop :=
  s.stopped = false ∧ s.phase ≠ .finished

/-- **How a writer ends**: with a closing frame, the last one that it has written, or with a frame
that it has lost, and then without a closing frame. -/
def Ended (s : Shift) : Prop :=
  (s.lost = [] ∧ ∃ frames, s.written = frames ++ [.close] ∧ .close ∉ frames) ∨
    ∃ frame, s.lost = [frame] ∧ .close ∉ s.written

/-- **The record of a shift is in order.** -/
structure Recorded (s : Shift) : Prop where
  /-- The writer has written, lost, or in hand whatever it began with, in this order. -/
  begun : s.begun = s.written ++ s.lost ++ s.phase.inHand
  /-- About each ping that is written or lost something was told, in their order. -/
  told : s.told.map (·.1) = Outgoing.tickets (s.written ++ s.lost)
  /-- A writer that is not done has lost nothing and has not written a closing frame. -/
  going : s.phase ≠ .finished → s.lost = [] ∧ .close ∉ s.written
  /-- A writer that is done has ended in one of two ways. -/
  done : s.phase = .finished → s.Ended

/-- **The queue of a shift fits to the record.** -/
structure Stocked (s : Shift) (c : Connection) : Prop where
  /-- As long as the writer is at work, the texts that the queue took are those with which the
  writer began, and behind them those in the queue. -/
  accepted : s.AtWork → Outgoing.texts s.begun ++ Outgoing.texts c.queue = s.accepted
  /-- Afterwards nothing is in the queue, and nothing will be. -/
  gone : ¬s.AtWork → c.writerGone = true ∧ c.queue = [] ∧ Outgoing.texts s.begun <+: s.accepted

/-- The lists that are read off a record with one more incident. -/
theorem lists_of_log {i : Writer.Incident} (h : s'.log = s.log ++ [i]) :
    s'.begun = s.begun ++ i.begun?.toList ∧ s'.written = s.written ++ i.written?.toList ∧
      s'.lost = s.lost ++ i.lost?.toList ∧ s'.told = s.told ++ i.told?.toList := by
  have hone : ∀ {α : Type} (f : Writer.Incident → Option α),
      s'.log.filterMap f = s.log.filterMap f ++ (f i).toList := by
    intro α f
    rw [h, List.filterMap_append]
    cases hf : f i <;> simp [hf]
  exact ⟨hone _, hone _, hone _, hone _⟩

/-- The record depends on the log and on what the writer is doing. -/
theorem Recorded.congr (h : s.Recorded) (hlog : s'.log = s.log) (hphase : s'.phase = s.phase) :
    s'.Recorded := by
  have hbegun : s'.begun = s.begun := by unfold Shift.begun; rw [hlog]
  have hwritten : s'.written = s.written := by unfold Shift.written; rw [hlog]
  have hlost : s'.lost = s.lost := by unfold Shift.lost; rw [hlog]
  have htold : s'.told = s.told := by unfold Shift.told; rw [hlog]
  constructor
  case begun => rw [hbegun, hwritten, hlost, hphase, h.begun]
  case told => rw [htold, hwritten, hlost, h.told]
  case going => rw [hphase, hlost, hwritten]; exact h.going
  case done =>
    unfold Ended
    rw [hphase, hlost, hwritten]
    exact h.done

/-- **An incident is recorded.** -/
theorem Recorded.incident (h : s.Recorded) {event : Writer.Event} {next : Writer.Phase}
    (hproceeds : Writer.Proceeds s.phase event next)
    (hlog : s'.log = s.log ++ [⟨s.phase, event, s.since, s.now⟩]) (hphase : s'.phase = next) :
    s'.Recorded := by
  obtain ⟨hbegun, hwritten, hlost, htold⟩ := lists_of_log hlog
  -- nothing is lost so far, so that the list of what is lost does not come between
  obtain ⟨hnone, hopen⟩ := h.going hproceeds.ne_finished
  have hb := h.begun
  have ht := h.told
  rw [hnone, List.append_nil] at hb ht
  rw [hnone, List.nil_append] at hlost
  constructor
  case begun =>
    rw [hbegun, hb, List.append_assoc, hproceeds.balance, hwritten, hlost, hphase]
    simp only [List.append_assoc]
  case told =>
    rw [htold, List.map_append, ht, hproceeds.told, hwritten, hlost]
    simp only [Outgoing.tickets_append, List.append_assoc]
  case going =>
    intro hnot
    obtain ⟨hlost', hwritten'⟩ := hproceeds.going (hphase ▸ hnot) s.since s.now
    refine ⟨by rw [hlost, hlost']; rfl, ?_⟩
    rw [hwritten, List.mem_append, Option.mem_toList]
    exact fun hclose => hclose.elim hopen hwritten'
  case done =>
    intro hdone
    obtain rfl : next = .finished := hphase.symm.trans hdone
    rcases hproceeds.done s.since s.now with
      ⟨hlost', hwritten'⟩ | ⟨frame, hlost', hwritten'⟩
    · exact Or.inl ⟨by rw [hlost, hlost']; rfl, s.written, by rw [hwritten, hwritten']; rfl, hopen⟩
    · refine Or.inr ⟨frame, by rw [hlost, hlost']; rfl, ?_⟩
      rw [hwritten, hwritten', Option.toList, List.append_nil]
      exact hopen

theorem recorded_start (h : Switchboard) (user : UserId) (now : Nanos) :
    (start h user now).Recorded where
  begun := rfl
  told := rfl
  going _ := ⟨rfl, List.not_mem_nil⟩
  done hdone := absurd hdone (by simp [start])

theorem stocked_start (h : Switchboard) (user : UserId) (now : Nanos) :
    (start h user now).Stocked (.opened user now) where
  accepted _ := rfl
  gone hnot := absurd ⟨rfl, by simp [start]⟩ hnot

theorem Recorded.effect {extra : List Outgoing} (h : s.Recorded)
    (heffect : s.Effect c extra s' c') : s'.Recorded := by
  cases heffect with
  | asked => exact h.congr rfl rfl
  | took hat hphase hqueue =>
    refine h.incident ?_ (by rw [hphase]) rfl
    rw [hphase]
    exact .takes _
  | went hat hadmits hproceeds => exact h.incident hproceeds rfl rfl
  | ended hat hadmits hproceeds => exact h.incident hproceeds rfl rfl
  | stopped => exact h.congr rfl rfl

theorem Stocked.effect {extra : List Outgoing} (h : s.Stocked c)
    (heffect : s.Effect c extra s' c') : s'.Stocked c' := by
  cases heffect with
  | asked hone hroom hqueue hgone hclosed =>
    constructor
    case accepted =>
      intro hat
      rw [hqueue, Outgoing.texts_append, ← List.append_assoc]
      exact congrArg (· ++ _) (h.accepted hat)
    case gone =>
      intro hnot
      obtain ⟨hgone', hnil, hprefix⟩ := h.gone hnot
      -- a queue whose writer is gone takes no frame
      obtain rfl : extra = [] := by
        by_contra hne
        exact absurd ((hroom hne).symm.trans hgone') (by simp)
      exact ⟨hgone.trans hgone', by rw [hqueue, hnil]; rfl, hprefix.trans (List.prefix_append ..)⟩
  | @took board frame rest hat hphase hqueue =>
    have haccepted := h.accepted ⟨hat, by simp [hphase]⟩
    constructor
    case accepted =>
      intro _
      rw [(lists_of_log rfl).1, ← haccepted, hqueue, Outgoing.texts_append, List.append_assoc]
      exact congrArg _ (Outgoing.texts_append [frame] rest).symm
    case gone => exact fun hnot => absurd ⟨hat, by simp⟩ hnot
  | @went board event next hat hadmits hproceeds hnext htook =>
    have haccepted := h.accepted ⟨hat, hproceeds.ne_finished⟩
    constructor
    case accepted =>
      intro _
      rw [(lists_of_log rfl).1, ← haccepted, Outgoing.texts_append, hproceeds.texts_begun htook,
        List.append_nil]
    case gone => exact fun hnot => absurd ⟨hat, hnext⟩ hnot
  | @ended board event hat hadmits hproceeds =>
    have haccepted := h.accepted ⟨hat, hproceeds.ne_finished⟩
    constructor
    case accepted => exact fun hat' => absurd rfl hat'.2
    case gone =>
      -- what waited in the queue was taken by it, and is never begun
      intro _
      refine ⟨rfl, rfl, ?_⟩
      rw [(lists_of_log rfl).1, ← haccepted, Outgoing.texts_append,
        hproceeds.texts_begun hproceeds.not_took, List.append_nil]
      exact List.prefix_append ..
  | stopped hat hphase =>
    constructor
    case accepted => exact fun hat' => absurd hat'.1 (by simp)
    case gone => exact fun _ => ⟨rfl, rfl, h.accepted ⟨hat, hphase⟩ ▸ List.prefix_append ..⟩

/-- **A shift is orderly**: its record is in order, and its queue fits to it. -/
def Orderly (s : Shift) : Prop :=
  ∃ c, s.connection? = some c ∧ s.Recorded ∧ s.Stocked c

theorem orderly_start (h : Switchboard) (user : UserId) (now : Nanos) :
    (start h user now).Orderly :=
  ⟨.opened user now, (Switchboard.connection?_open h user now _).trans (if_pos rfl),
    recorded_start h user now, stocked_start h user now⟩

theorem Orderly.step (h : s.Orderly) (m : Move) : (s.step m).Orderly := by
  obtain ⟨c, hc, hrecorded, hstocked⟩ := h
  obtain ⟨c', extra, hc', heffect, -⟩ := s.effect hc m
  exact ⟨c', hc', hrecorded.effect heffect, hstocked.effect heffect⟩

/-- **A shift stays orderly.** -/
theorem Orderly.after (h : s.Orderly) (moves : List Move) : (s.after moves).Orderly := by
  induction moves generalizing s with
  | nil => exact h
  | cons m moves ih => exact ih (h.step m)

theorem orderly_after (h : Switchboard) (user : UserId) (now : Nanos) (moves : List Move) :
    ((start h user now).after moves).Orderly :=
  (orderly_start h user now).after moves

end Shift

end Rendezvous
