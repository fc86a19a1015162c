import Rendezvous.Proofs.Heartbeat.Watch
import Rendezvous.Rehearsal.Turns

/-!
# The heartbeat of a rehearsal

In a rehearsal the heartbeat does at one instant what a watch does in several moves: a round that is
due begins and looks at its connections, and is over if there are none; a round whose connections
are judged ends. What a watch says about the heartbeat is nevertheless said about that of a
rehearsal, too: a watch that shows it (`Watch.Shows`) goes on showing it when anything happens and
when time goes by, and at every turn of the heartbeat by moves that are all its own
(`Watch.Shows.turn`).
-/

namespace Rendezvous.Watch

open Rehearsal

variable {x : Watch} {w w' : World} {j j' : Job}

/-- What there is after some moves. -/
def after (x : Watch) (moves : List Move) : Watch :=
  moves.foldl step x

theorem after_nil (x : Watch) : x.after [] = x := rfl

theorem after_cons (x : Watch) (m : Move) (moves : List Move) :
    x.after (m :: moves) = (x.step m).after moves := rfl

/-- What the heartbeat does by itself. -/
def Move.IsOwn (m : Move) : Prop :=
  m = .begin ∨ m = .check ∨ m = .judge ∨ m = .conclude

/-- **A watch shows the heartbeat of a rehearsal.** -/
structure Shows (x : Watch) (w : World) (j : Job) : Prop where
  /-- It is the heartbeat. -/
  work : j.work = .heartbeat
  /-- It does nothing else. -/
  idle : j.busyUntil = none
  /-- It is the same time. -/
  now : x.now = w.now
  /-- The same connections are there. -/
  board : x.board = w.board
  /-- It is the same task. -/
  task : x.task = j.task
  /-- The same round is under way. -/
  round : x.round = j.round

theorem shows_start (w : World) (period : Nanos) :
    (start w.now period w.board).Shows w (.start w.now period .heartbeat) :=
  ⟨rfl, rfl, rfl, rfl, rfl, rfl⟩

/-- Whatever happens to the switchboard of a rehearsal. -/
theorem Shows.event (hshows : x.Shows w j) (e : Event) :
    (x.step (.event e)).Shows { w with board := e.perform w.now w.board } j :=
  { hshows with board := by rw [← hshows.now, ← hshows.board]; rfl }

/-- Time goes by in a rehearsal. -/
theorem Shows.wait (hshows : x.Shows w j) (span : Nanos) :
    (x.step (.wait span)).Shows { w with now := w.now + span } j :=
  { hshows with now := congrArg (· + span) hshows.now }

/-- A round that begins and looks at its connections. -/
theorem begin_check {r : Round} (hdue : x.task.isDue x.now = true)
    (hr : .start Limit.probeWrite Limit.liveness x.board = r) :
    x.begin.check = { x with
      board := (r.checkAll x.now x.board).2
      task := x.task.begin x.now
      round := some (r.checkAll x.now x.board).1
      begunAt := x.now
      checkedAt := some x.now } := by
  rw [begin, if_pos hdue, hr]
  rfl

/-- A round without connections is over as soon as it has looked at them. -/
theorem conclude_of_isEmpty {r : Round} (hr : x.round = some r) (hempty : r.candidates = []) :
    x.conclude = { x with task := x.task.finish, round := none, endedAt := x.now } := by
  have hjudged : r.isJudged = true := by simp [Round.isJudged, hempty]
  have hdead : r.dead = [] := by simp [Round.dead, hempty]
  simp [conclude, hr, hjudged, Round.conclude, hdead, Round.evictAll]

/-- And it does nothing to the switchboard. -/
theorem checkAll_of_isEmpty {r : Round} {now : Nanos} {h : Switchboard}
    (hempty : (r.checkAll now h).1.candidates = []) : (r.checkAll now h).2 = h := by
  have hkeys := r.map_fst_checkFrom now r.candidates h
  have hnone : r.candidates = [] := by
    rw [show (r.checkFrom now r.candidates h).1 = [] from hempty] at hkeys
    simpa using hkeys.symm
  simp [Round.checkAll, hnone, Round.checkFrom]

/-- **A round begins in a rehearsal.** -/
theorem Shows.begin (hshows : x.Shows w j) (hdue : x.task.isDue x.now = true) :
    ∃ moves : List Move, (∀ m ∈ moves, m.IsOwn) ∧
      (x.after moves).Shows (j.begin w).2 (j.begin w).1 := by
  obtain ⟨hwork, hidle, hnow, hboard, htask, hround⟩ := hshows
  obtain ⟨r, hr⟩ : ∃ r, Round.start Limit.probeWrite Limit.liveness x.board = r := ⟨_, rfl⟩
  have hbegin := begin_check hdue hr
  rw [hboard] at hr
  simp only [Job.begin, hwork, hr]
  split
  · next hempty =>
    rw [List.isEmpty_iff, ← hnow, ← hboard] at hempty
    refine ⟨[.begin, .check, .conclude], by simp [Move.IsOwn], ?_⟩
    simp only [after_cons, after_nil, step]
    rw [hbegin, conclude_of_isEmpty rfl hempty, checkAll_of_isEmpty hempty]
    exact ⟨rfl, rfl, hnow, hboard, by simp only [Job.finish, htask, hnow], rfl⟩
  · refine ⟨[.begin, .check], by simp [Move.IsOwn], ?_⟩
    simp only [after_cons, after_nil, step]
    rw [hbegin, hboard, hnow, htask]
    exact ⟨rfl, hidle, rfl, rfl, rfl, rfl⟩

/-- **A round ends in a rehearsal.** -/
theorem Shows.conclude {r : Round} (hshows : x.Shows w j) (hr : j.round = some r)
    (hjudged : (r.judgeAll w.board).isJudged = true) :
    (x.after [.judge, .conclude]).Shows
      { w with board := ((r.judgeAll w.board).conclude w.board).2 } j.finish := by
  obtain ⟨hwork, hidle, hnow, hboard, htask, hround⟩ := hshows
  have hjudge : x.judge = { x with round := some (r.judgeAll w.board) } := by
    simp [judge, hround, hr, hboard]
  simp only [after_cons, after_nil, step]
  rw [hjudge]
  simp only [Watch.conclude, hjudged, if_true, hboard, htask]
  exact ⟨hwork, rfl, hnow, rfl, rfl, rfl⟩

/-- **A watch goes on showing the heartbeat of a rehearsal.** -/
theorem Shows.turn (hshows : x.Shows w j) (hturn : j.turn? w = some (j', w')) :
    ∃ moves : List Move, (∀ m ∈ moves, m.IsOwn) ∧ (x.after moves).Shows w' j' := by
  unfold Job.turn? at hturn
  split at hturn
  · next hdue =>
    rw [← hshows.task, ← hshows.now] at hdue
    obtain ⟨rfl, rfl⟩ : (j.begin w).1 = j' ∧ (j.begin w).2 = w' := by
      simpa [Prod.ext_iff] using hturn
    exact hshows.begin hdue
  · rw [hshows.idle] at hturn
    cases hr : j.round with
    | none => simp [hr] at hturn
    | some r =>
      simp only [hr, Option.ite_none_right_eq_some, Option.some.injEq, Prod.mk.injEq] at hturn
      obtain ⟨hjudged, rfl, rfl⟩ := hturn
      exact ⟨[.judge, .conclude], by simp [Move.IsOwn], hshows.conclude hr hjudged⟩

end Rendezvous.Watch
