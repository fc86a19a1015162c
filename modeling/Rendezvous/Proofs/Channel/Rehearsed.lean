import Rendezvous.Proofs.Channel.Shift
import Rendezvous.Rehearsal.Socket

/-!
# The writer of a rehearsal

In a rehearsal the writer of a connection does at one turn what it does in a shift in one move or
several: it takes a frame, and the frame is written at once if the pipe has room for it. A shift
that shows the writer of a rehearsal (`Shift.Shows`) shows it still after each of its turns, by
events that can happen to the writer (`Shift.Shows.turn`), unless time went by over the end of what
it is doing. So what is said about all shifts is said about the writers of all rehearsals.
-/

namespace Rendezvous.Shift

open Rehearsal

variable {s : Shift} {socket socket' : Socket} {h h' : Switchboard}

/-- **A shift mirrors a socket**: it is the same writer. -/
structure Mirrors (s : Shift) (socket : Socket) (h : Switchboard) : Prop where
  /-- It is the same connection. -/
  id : socket.serving.id = s.id
  /-- The same connections are there. -/
  board : s.board = h
  /-- The writer is doing the same. -/
  phase : s.phase = socket.writer
  /-- It was not stopped. -/
  running : s.stopped = false

/-- **A shift shows the writer of a rehearsal**, with the time that it has for what it is doing. -/
structure Shows (s : Shift) (socket : Socket) (h : Switchboard) : Prop extends
    s.Mirrors socket h where
  /-- The time for a frame is over at the same moment. -/
  deadline : ∀ frame, s.phase = .writing frame → socket.deadline = s.since + Writer.budget frame

/-- A connection that is promoted, and its writer. -/
theorem shows_start (h : Switchboard) (user : UserId) (now : Nanos) {serving : Serving}
    (hid : serving.id = (h.open user now).1) :
    (start h user now).Shows (.start serving) (h.open user now).2 :=
  ⟨⟨hid, rfl, rfl, rfl⟩, fun frame hphase => absurd hphase (by simp [start])⟩

/-- The shift after some events that happen to the writer. -/
def serve (s : Shift) (events : List Writer.Event) : Shift :=
  s.after (events.map .write)

/-- Something happens to the writer of a rehearsal. -/
theorem Mirrors.event (hmirrors : s.Mirrors socket h) {event : Writer.Event}
    (hadmits : s.admits event = true) :
    (s.serve [event]).Mirrors (socket.writerEvent event (s.found event)).1
        (socket.writerEvent event (s.found event)).2 ∧
      (s.serve [event]).now = s.now ∧ (s.serve [event]).since = s.now ∧
      (s.serve [event]).phase = Writer.step s.phase event := by
  have hserve : s.serve [event] = s.occur event :=
    if_pos ⟨hmirrors.running, hadmits⟩
  have hadvance : socket.writerEvent event (s.found event) =
      ({ socket with writer := (s.occur event).phase }, (s.occur event).board) := by
    unfold Socket.writerEvent occur
    rw [hmirrors.id, ← hmirrors.phase]
  rw [hserve, hadvance]
  exact ⟨⟨hmirrors.id, rfl, rfl, hmirrors.running⟩, rfl, rfl, rfl⟩

/-- What the writer has done is over, and it does nothing that takes time. -/
theorem Mirrors.shows (hmirrors : s.Mirrors socket h) (hidle : s.phase.inHand = []) :
    s.Shows socket h :=
  ⟨hmirrors, fun frame hphase => absurd hidle (by rw [hphase]; exact List.cons_ne_nil _ _)⟩

/-- The writer is done with a frame, or with everything. -/
theorem Mirrors.finish (hmirrors : s.Mirrors socket h) {event : Writer.Event}
    (hadmits : s.admits event = true) (hfound : s.found event = s.board)
    (hidle : (Writer.step s.phase event).inHand = []) :
    (s.serve [event]).Shows (socket.writerEvent event h).1 (socket.writerEvent event h).2 := by
  obtain ⟨hevent, -, -, hphase⟩ := hmirrors.event hadmits
  rw [hfound, hmirrors.board] at hevent
  exact hevent.shows (hphase ▸ hidle)

/-! ### A frame that is written -/

variable {frame : Outgoing}

/-- The bytes of a frame go out as far as they can. -/
theorem Shows.pour (hshows : s.Shows socket h) (hphase : s.phase = .writing frame)
    (htime : s.now ≤ s.since + Writer.budget frame) :
    ∃ events, (s.serve events).Shows (socket.pour h).1 (socket.pour h).2 := by
  have hwritten : s.admits .written = true := (admits_written hphase).trans (decide_eq_true htime)
  have hidle : (Writer.step s.phase .written).inHand = [] := by rw [hphase]; cases frame <;> rfl
  have hdrained : s.Shows socket.drain h :=
    ⟨⟨hshows.id, hshows.board, hshows.phase, hshows.running⟩, hshows.deadline⟩
  unfold Socket.pour
  split
  · exact ⟨_, hshows.finish hwritten rfl hidle⟩
  · split
    · refine ⟨_, hshows.finish (admits_failed hphase) rfl ?_⟩
      rw [hphase]
      cases frame <;> rfl
    · dsimp only
      split
      · exact ⟨_, hdrained.finish hwritten rfl hidle⟩
      · exact ⟨[], hdrained⟩

/-- The writer begins with a frame. -/
theorem Mirrors.beginFrame (hmirrors : s.Mirrors socket h) (hphase : s.phase = .writing frame)
    (hsince : s.since = s.now) :
    ∃ events, (s.serve events).Shows (socket.beginFrame s.now frame h).1
      (socket.beginFrame s.now frame h).2 := by
  unfold Socket.beginFrame
  cases socket.encode? frame with
  | none =>
    refine ⟨_, hmirrors.finish (admits_failed hphase) rfl ?_⟩
    rw [hphase]
    cases frame <;> rfl
  | some endpoint =>
    have hshows : s.Shows
        { socket with endpoint, deadline := s.now + Writer.budget frame } h := by
      refine ⟨⟨hmirrors.id, hmirrors.board, hmirrors.phase, hmirrors.running⟩, ?_⟩
      intro frame' hphase'
      rw [hphase] at hphase'
      cases hphase'
      rw [hsince]
    exact hshows.pour hphase (hsince ▸ Nat.le_add_right ..)

/-- A frame that is being written. -/
theorem Shows.go (hshows : s.Shows socket h) (hphase : s.phase = .writing frame)
    (htime : s.now ≤ s.since + Writer.budget frame)
    (hturn : Socket.writerTurn?.go s.now h socket frame = some (socket', h')) :
    ∃ events, (s.serve events).Shows socket' h' := by
  unfold Socket.writerTurn?.go at hturn
  split at hturn
  · have hpour := hshows.pour hphase htime
    rwa [Option.some.inj hturn] at hpour
  · split at hturn
    · next hlate =>
      rw [hshows.deadline frame hphase] at hlate
      have hfinish := hshows.finish ((admits_timedOut hphase).trans (decide_eq_true hlate)) rfl
        (by rw [hphase]; cases frame <;> rfl)
      rw [Option.some.inj hturn] at hfinish
      exact ⟨_, hfinish⟩
    · exact absurd hturn (by simp)

/-! ### A turn -/

theorem serve_append (s : Shift) (events later : List Writer.Event) :
    s.serve (events ++ later) = (s.serve events).serve later := by
  unfold serve
  rw [List.map_append, after_append]

/-- The flag is up for both. -/
theorem Mirrors.isEnding (hmirrors : s.Mirrors socket h) : socket.isEnding h = s.isEnding := by
  unfold Socket.isEnding Shift.isEnding connection?
  rw [hmirrors.id, hmirrors.board]
  cases h.connection? s.id <;> rfl

/-- A frame that the writer can take is the first one in the queue. -/
theorem Mirrors.took (hmirrors : s.Mirrors socket h) (hphase : s.phase = .waiting)
    (htake : h.take? s.id = some (frame, h')) :
    s.admits (.took frame) = true ∧ s.found (.took frame) = h' := by
  constructor
  · unfold Switchboard.take? at htake
    unfold admits queue connection?
    rw [hphase, hmirrors.board]
    dsimp only
    cases hc : h.connection? s.id with
    | none => simp [hc] at htake
    | some c =>
      rw [hc, Option.bind_some] at htake
      unfold Connection.take? at htake
      cases hqueue : c.queue with
      | nil => simp [hqueue] at htake
      | cons first rest =>
        rw [hqueue] at htake
        obtain ⟨rfl, -⟩ : first = frame ∧ _ := Prod.mk.inj (Option.some.inj htake)
        simp [hqueue]
  · unfold found
    rw [hmirrors.board, htake]
    rfl

/-- The writer begins with a frame, after the event by which it came to it. -/
theorem Mirrors.begin (hmirrors : s.Mirrors socket h) (frame : Outgoing) {event : Writer.Event}
    (hadmits : s.admits event = true) (hbegins : Writer.step s.phase event = .writing frame) :
    ∃ events, (s.serve events).Shows
      ((socket.writerEvent event (s.found event)).1.beginFrame s.now frame
        (socket.writerEvent event (s.found event)).2).1
      ((socket.writerEvent event (s.found event)).1.beginFrame s.now frame
        (socket.writerEvent event (s.found event)).2).2 := by
  obtain ⟨hevent, hnow, hsince, hphase⟩ := hmirrors.event hadmits
  obtain ⟨events, hshows⟩ := hevent.beginFrame (hphase.trans hbegins) (hsince.trans hnow.symm)
  rw [hnow] at hshows
  exact ⟨[event] ++ events, (s.serve_append [event] events).symm ▸ hshows⟩

/-- **A shift goes on showing the writer of a rehearsal** at each of its turns, by events that can
happen to the writer. -/
theorem Shows.turn (hshows : s.Shows socket h)
    (htime : ∀ frame, s.phase = .writing frame → s.now ≤ s.since + Writer.budget frame)
    (hturn : socket.writerTurn? s.now h = some (socket', h')) :
    ∃ events, (s.serve events).Shows socket' h' := by
  unfold Socket.writerTurn? at hturn
  rw [← hshows.phase, hshows.toMirrors.isEnding, hshows.id] at hturn
  cases hphase : s.phase with
  | finished =>
    rw [hphase] at hturn
    exact absurd hturn (by simp)
  | waiting =>
    -- in a rehearsal the flag comes before the queue
    rw [hphase] at hturn
    dsimp only at hturn
    split at hturn
    · next hending =>
      have hadmits : s.admits .sawClosed = true := by
        unfold admits
        rw [hphase]
        exact hending
      have hbegin := hshows.begin .close hadmits (by rw [hphase]; rfl)
      rw [show s.found .sawClosed = h from hshows.board, Option.some.inj hturn] at hbegin
      exact hbegin
    · cases htake : h.take? s.id with
      | none =>
        rw [htake] at hturn
        exact absurd hturn (by simp)
      | some taken =>
        obtain ⟨frame, h₁⟩ := taken
        obtain ⟨hadmits, hfound⟩ := hshows.took hphase htake
        have hbegin := hshows.begin frame hadmits (by rw [hphase]; rfl)
        rw [htake] at hturn
        rw [hfound, Option.some.inj hturn] at hbegin
        exact hbegin
  | writing frame =>
    rw [hphase] at hturn
    cases frame with
    | text content =>
      -- only a text is given up at sight of the flag
      dsimp only at hturn
      split at hturn
      · next hending =>
        have hadmits : s.admits .sawClosed = true := by
          unfold admits
          rw [hphase]
          exact hending
        have hfinish := hshows.finish hadmits rfl (by rw [hphase]; rfl)
        rw [Option.some.inj hturn] at hfinish
        exact ⟨_, hfinish⟩
      · exact hshows.go hphase (htime _ hphase) hturn
    | probe ticket => exact hshows.go hphase (htime _ hphase) hturn
    | close => exact hshows.go hphase (htime _ hphase) hturn

end Rendezvous.Shift
