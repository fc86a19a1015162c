import Rendezvous.Proofs.Recurrence.Rota
import Rendezvous.Rehearsal.Turns

/-!
# Periodic tasks of a rehearsal

In a rehearsal a periodic task does at one instant what a rota does in several moves, and where a
rota may take up either of two things, it takes up that it was told to stop. What is said of every
rota is nevertheless said of the tasks of a rehearsal, too: a rota that shows one (`Rota.Shows`)
goes on showing it when time goes by, when the task is told to stop, and at every turn of the task
by moves that are all its own (`Rota.Shows.turn`). So every task of a rehearsal is shown by a rota at
every moment since it started (`Rota.Rehearses.exists_shows`).
-/

namespace Rendezvous.Rota

open Rehearsal

variable {x : Rota} {w w' : World} {j j' : Job}

theorem after_append (x : Rota) (moves later : List Move) :
    x.after (moves ++ later) = (x.after moves).after later :=
  List.foldl_append

/-- What the task does by itself. -/
def Move.IsOwn (m : Move) : Prop :=
  m = .begin ∨ m = .finish ∨ m = .leave

/-- **A rota shows a task of a rehearsal.** -/
structure Shows (x : Rota) (w : World) (j : Job) : Prop where
  /-- It is the same time. -/
  now : x.now = w.now
  /-- It is the same task. -/
  task : x.task = j.task
  /-- A task that is in the middle of something is at work. -/
  working : j.round ≠ none ∨ j.busyUntil ≠ none → j.task.phase = .working

theorem shows_start (w : World) (period : Nanos) (work : Work) :
    (spawn w.now 0 period).Shows w (.start w.now period work) :=
  ⟨rfl, rfl, by simp [Job.start]⟩

/-- Time goes by in a rehearsal. -/
theorem Shows.wait (hshows : x.Shows w j) (span : Nanos) :
    (x.step (.wait span)).Shows { w with now := w.now + span } j :=
  { hshows with now := congrArg (· + span) hshows.now }

/-- Anything else happens that takes no time. -/
theorem Shows.elsewhere (hshows : x.Shows w j) (hnow : w'.now = w.now) : x.Shows w' j :=
  { hshows with now := hshows.now.trans hnow.symm }

/-- **A task of a rehearsal is told to stop**, which it takes up at once unless it is at work. -/
theorem Shows.cancel (hshows : x.Shows w j) :
    (x.after [.drop, .leave]).Shows w { j with task := j.task.cancel } := by
  obtain ⟨hnow, htask, hworking⟩ := hshows
  have hleave : (x.after [.drop, .leave]).task = x.task.cancel ∧
      (x.after [.drop, .leave]).now = x.now := by
    cases hphase : x.task.phase <;> simp [after, step, Recurrence.cancel, hphase]
  refine ⟨hleave.2.trans hnow, by rw [hleave.1, htask], fun hbusy => ?_⟩
  simp [Recurrence.cancel, hworking hbusy]

/-- Work that is under way is done, and the task ends then if it was told to stop. -/
theorem after_finish (hphase : x.task.phase = .working) :
    (x.after [.finish, .leave]).task = x.task.finish ∧
      (x.after [.finish, .leave]).now = x.now := by
  cases htold : x.task.cancelled <;>
    simp [after, step, Recurrence.finish, hphase, htold]

/-- **Work of a rehearsal is done.** -/
theorem Shows.finish (hshows : x.Shows w j) (hphase : j.task.phase = .working) :
    (x.after [.finish, .leave]).Shows w j.finish := by
  obtain ⟨hnow, htask, -⟩ := hshows
  obtain ⟨hfinish, hthen⟩ := after_finish (x := x) (htask ▸ hphase)
  exact ⟨hthen.trans hnow, by rw [hfinish, htask]; rfl, by simp [Job.finish]⟩

/-- Work begins that is due. -/
theorem step_begin (hdue : x.task.isDue x.now = true) :
    (x.step .begin).task = x.task.begin x.now ∧ (x.step .begin).now = x.now := by
  simp only [Recurrence.isDue, Bool.and_eq_true, beq_iff_eq, decide_eq_true_eq] at hdue
  rw [step, if_pos ⟨hdue.1.1, hdue.2⟩]
  exact ⟨rfl, rfl⟩

/-- **Work of a rehearsal begins**, and may be done with that. -/
theorem Shows.begin (hshows : x.Shows w j) (hdue : j.task.isDue w.now = true) :
    ∃ moves : List Move, (∀ m ∈ moves, m.IsOwn) ∧
      (x.after moves).Shows (j.begin w).2 (j.begin w).1 := by
  obtain ⟨hnow, htask, -⟩ := hshows
  obtain ⟨hbegin, hthen⟩ := step_begin (x := x) (by rwa [htask, hnow])
  -- whatever the work is, the task is at work now
  have hshows' : ∀ (w' : World) (j' : Job), w'.now = w.now → j'.task = j.task.begin w.now →
      (x.step .begin).Shows w' j' := fun w' j' hnow' htask' =>
    ⟨hthen.trans (hnow.trans hnow'.symm), by rw [hbegin, htask', htask, hnow],
      fun _ => by rw [htask']; unfold Recurrence.begin; rfl⟩
  have hworking : ∀ t : Recurrence, (t.begin w.now).phase = .working := fun t => by
    unfold Recurrence.begin
    rfl
  have hown : ∀ m ∈ [Move.begin, .finish, .leave], m.IsOwn := by simp [Move.IsOwn]
  have hgoing : ∀ m ∈ [Move.begin], m.IsOwn := by simp [Move.IsOwn]
  unfold Job.begin
  dsimp only
  split
  · exact ⟨_, hown, (hshows' { w with ledger := (w.ledger.sweep w.now).2 }
      { j with task := j.task.begin w.now } rfl rfl).finish (hworking _)⟩
  · split
    · exact ⟨_, hown, (hshows' w { j with task := j.task.begin w.now, ticks := j.ticks + 1 } rfl
        rfl).finish (hworking _)⟩
    · exact ⟨_, hgoing, hshows' _ _ rfl rfl⟩
  · split
    · exact ⟨_, hown, (hshows' w { j with task := j.task.begin w.now } rfl rfl).finish (hworking _)⟩
    · exact ⟨_, hgoing, hshows' _ _ rfl rfl⟩

/-- **A turn of a task of a rehearsal** is some moves of its rota. -/
theorem Shows.turn (hshows : x.Shows w j) (hturn : j.turn? w = some (j', w')) :
    ∃ moves : List Move, (∀ m ∈ moves, m.IsOwn) ∧ (x.after moves).Shows w' j' := by
  have hown : ∀ m ∈ [Move.finish, .leave], m.IsOwn := by simp [Move.IsOwn]
  unfold Job.turn? at hturn
  split at hturn
  · next hdue =>
    obtain ⟨moves, hmoves, hafter⟩ := hshows.begin hdue
    rw [Option.some.inj hturn] at hafter
    exact ⟨moves, hmoves, hafter⟩
  · split at hturn
    · next round hround =>
      dsimp only at hturn
      split at hturn
      · have hphase := hshows.working (Or.inl (by simp [hround]))
        obtain ⟨rfl, rfl⟩ := Prod.mk.inj (Option.some.inj hturn)
        exact ⟨_, hown, (hshows.finish hphase).elsewhere rfl⟩
      · exact absurd hturn nofun
    · next time hround hbusy =>
      split at hturn
      · have hphase := hshows.working (Or.inr (by simp [hbusy]))
        obtain ⟨rfl, rfl⟩ := Prod.mk.inj (Option.some.inj hturn)
        have hcounted : x.Shows w { j with ticks := j.ticks + 1 } := { hshows with }
        exact ⟨_, hown, hcounted.finish hphase⟩
      · exact absurd hturn nofun
    · exact absurd hturn nofun

/-- **A task of a rehearsal at some moment** since it started: it takes its turns, is told to stop,
and the rehearsal goes on. -/
inductive Rehearses (made : World) (period : Nanos) (work : Work) : World → Job → Prop where
  /-- The task starts. -/
  | started : Rehearses made period work made (.start made.now period work)
  /-- It takes a turn. -/
  | turned {w w' : World} {j j' : Job} (hthen : Rehearses made period work w j)
      (hturn : j.turn? w = some (j', w')) : Rehearses made period work w' j'
  /-- It is told to stop. -/
  | cancelled {w : World} {j : Job} (hthen : Rehearses made period work w j) :
      Rehearses made period work w { j with task := j.task.cancel }
  /-- The rehearsal goes on, by this span. -/
  | passed {w w' : World} {j : Job} (hthen : Rehearses made period work w j) (span : Nanos)
      (hnow : w'.now = w.now + span) : Rehearses made period work w' j

/-- **Every task of a rehearsal is shown by a rota**, so all that is said of rotas is said of it. -/
theorem Rehearses.exists_shows {made : World} {period : Nanos} {work : Work}
    (h : Rehearses made period work w j) :
    ∃ moves, ((spawn made.now 0 period).after moves).Shows w j := by
  induction h with
  | started => exact ⟨[], shows_start made period work⟩
  | turned _ hturn ih =>
    obtain ⟨moves, hshows⟩ := ih
    obtain ⟨later, -, hafter⟩ := hshows.turn hturn
    exact ⟨moves ++ later, after_append .. ▸ hafter⟩
  | cancelled _ ih =>
    obtain ⟨moves, hshows⟩ := ih
    exact ⟨moves ++ [.drop, .leave], after_append .. ▸ hshows.cancel⟩
  | passed _ span hnow ih =>
    obtain ⟨moves, hshows⟩ := ih
    exact ⟨moves ++ [.wait span], after_append .. ▸ (hshows.wait span).elsewhere hnow⟩

end Rendezvous.Rota
