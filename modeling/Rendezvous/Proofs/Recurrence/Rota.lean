import Mathlib.Data.List.Basic
import Rendezvous.Recurrence

/-!
# Periodic tasks at work

A periodic task waits for two things at once: for its next time, and to be told to stop. When both
have come, it may take up either of them, so a task that was told to stop may still work once more,
or more often. Meanwhile nothing is waited for: work that has begun goes on until it is done. A
*rota* is the task at one moment, with a record of its times of work (`Bout`), and what becomes of
it from its start on is told by moves in any order (`Rota.Move`), each of which does something only
where it can. All that a move does is said once, by `Rota.Effect`.

## The times of work

A task starts when it comes to run for the first time, which is at some moment after it was made,
and its times are counted from there. After each time of work the next one is fixed at once, when
the work begins (`nextAfter`): it is the next multiple of the period, or, if the task has come late,
the first multiple that is not over. To be late by no more than `Recurrence.tolerance` does not
count. So multiples that the task has missed are passed over, but with a period that is shorter than
the tolerance it also makes up for some of them (`Rota.not_passesOver`).

## The record

The record is read from its end: each bout fits what is behind it (`Bout.Fits`), and this is all
that has to be kept (`Rota.Sound`). The rest of what is claimed of periodic tasks follows from it
for every run (`Rota.wellKept`): bouts do not overlap, they come not too early and at most one for
each multiple, none is cut short, and there are no more of them when whoever stops the task has been
told that it has ended.
-/

namespace Rendezvous

/-! ### The next time -/

namespace Recurrence

variable {now due period : Nanos}

/-- A task that is not late goes on with the next multiple. -/
theorem nextDue_of_le (h : now ≤ due + tolerance) : nextDue now due period = due + period :=
  if_neg (Nat.not_lt.2 h)

/-- **A task that is late** passes over the multiples that are over. -/
theorem nextDue_of_lt (h : due + tolerance < now) :
    nextDue now due period = due + ((now - due) / period + 1) * period := by
  have hdue : due ≤ now := Nat.le_of_lt (Nat.lt_of_le_of_lt (Nat.le_add_right ..) h)
  have hdiv : period * ((now - due) / period) + (now - due) % period = now - due :=
    Nat.div_add_mod ..
  rw [nextDue, if_pos h, Nat.add_mul, Nat.one_mul, Nat.mul_comm]
  grind

theorem lt_nextDue (h : due + tolerance < now) (hpos : 0 < period) :
    now < nextDue now due period := by
  have hrest : (now - due) % period < period := Nat.mod_lt _ hpos
  rw [nextDue, if_pos h]
  grind

/-- A task that comes to its work has its next time after a period at the latest. -/
theorem nextDue_le (hdue : due ≤ now) : nextDue now due period ≤ now + period := by
  unfold nextDue
  split
  · exact Nat.sub_le ..
  · exact Nat.add_le_add_right hdue period

/-- In any case the next time is some periods later. -/
theorem exists_nextDue_eq (now due period : Nanos) :
    ∃ k, 0 < k ∧ nextDue now due period = due + k * period := by
  by_cases h : due + tolerance < now
  · exact ⟨_, Nat.succ_pos _, nextDue_of_lt h⟩
  · exact ⟨1, Nat.one_pos, by rw [nextDue_of_le (Nat.not_lt.1 h), Nat.one_mul]⟩

theorem due_lt_nextDue (now due : Nanos) (hpos : 0 < period) : due < nextDue now due period := by
  obtain ⟨k, hk, he⟩ := exists_nextDue_eq now due period
  have hlater : 0 < k * period := Nat.mul_pos hk hpos
  rw [he]
  exact Nat.lt_add_of_pos_right hlater

/-- A task has its period for ever. -/
theorem period_begin (t : Recurrence) (now : Nanos) : (t.begin now).period = t.period := by
  unfold begin
  rfl

theorem cancelled_begin (t : Recurrence) (now : Nanos) :
    (t.begin now).cancelled = t.cancelled := by
  unfold begin
  rfl

end Recurrence

/-! ### The record -/

/-- **One time of work.** -/
structure Bout where
  /-- For what time it was. -/
  due : Nanos
  /-- When it began. -/
  begunAt : Nanos
  /-- When it ended; `none` while it is under way. -/
  endedAt : Option Nanos
  deriving DecidableEq, Repr

variable {start period now : Nanos} {b b' : Bout} {bouts earlier : List Bout}

/-- **The next time after some bouts**, the last of which stands first. -/
def nextAfter (start period : Nanos) : List Bout → Nanos
  | [] => start + period
  | b :: _ => Recurrence.nextDue b.begunAt b.due period

namespace Bout

/-- **A bout fits the record behind it.** -/
structure Fits (start period : Nanos) (b : Bout) (earlier : List Bout) : Prop where
  /-- It was for the time that was next. -/
  next : b.due = nextAfter start period earlier
  /-- It did not begin before that. -/
  due_le : b.due ≤ b.begunAt
  /-- All earlier ones had ended. -/
  alone : ∀ b' ∈ earlier, ∃ t, b'.endedAt = some t ∧ t ≤ b.begunAt
  /-- It did not end before it began. -/
  begun_le : ∀ t, b.endedAt = some t → b.begunAt ≤ t

end Bout

/-- **A record of bouts**, the last one first. -/
inductive Record (start period : Nanos) : List Bout → Prop where
  /-- Nothing is entered. -/
  | blank : Record start period []
  /-- A bout is entered. -/
  | entered {b : Bout} {earlier : List Bout} (hearlier : Record start period earlier)
      (hfits : b.Fits start period earlier) : Record start period (b :: earlier)

namespace Record

/-- The next time is always a multiple of the period after the start. -/
theorem exists_nextAfter_eq (h : Record start period bouts) :
    ∃ k, 0 < k ∧ nextAfter start period bouts = start + k * period := by
  induction h with
  | blank => exact ⟨1, Nat.one_pos, by rw [nextAfter, Nat.one_mul]⟩
  | @entered b earlier _ hfits ih =>
    obtain ⟨k, hk, hnext⟩ := ih
    obtain ⟨l, hl, hlater⟩ := Recurrence.exists_nextDue_eq b.begunAt b.due period
    refine ⟨k + l, Nat.add_pos_left hk l, ?_⟩
    rw [nextAfter, hlater, hfits.next, hnext, Nat.add_mul, Nat.add_assoc]

/-- Every bout fitted the record behind it. -/
theorem exists_fits (h : Record start period bouts) (hb : b ∈ bouts) :
    ∃ earlier, Record start period earlier ∧ b.Fits start period earlier := by
  induction h with
  | blank => exact absurd hb (by simp)
  | entered hearlier hfits ih =>
    rcases List.mem_cons.1 hb with rfl | hb
    · exact ⟨_, hearlier, hfits⟩
    · exact ih hb

/-- **Every bout is for a multiple** of the period after the start. -/
theorem exists_due_eq (h : Record start period bouts) (hb : b ∈ bouts) :
    ∃ k, 0 < k ∧ b.due = start + k * period := by
  obtain ⟨earlier, hearlier, hfits⟩ := h.exists_fits hb
  rw [hfits.next]
  exact hearlier.exists_nextAfter_eq

theorem due_le (h : Record start period bouts) (hb : b ∈ bouts) : b.due ≤ b.begunAt := by
  obtain ⟨earlier, -, hfits⟩ := h.exists_fits hb
  exact hfits.due_le

theorem begun_le (h : Record start period bouts) (hb : b ∈ bouts) {t : Nanos}
    (ht : b.endedAt = some t) : b.begunAt ≤ t := by
  obtain ⟨earlier, -, hfits⟩ := h.exists_fits hb
  exact hfits.begun_le t ht

/-- **The next time is one that no bout was for.** -/
theorem due_lt_nextAfter (h : Record start period bouts) (hpos : 0 < period) (hb : b ∈ bouts) :
    b.due < nextAfter start period bouts := by
  induction h with
  | blank => exact absurd hb (by simp)
  | @entered last earlier _ hfits ih =>
    have hlast : last.due < nextAfter start period (last :: earlier) :=
      Recurrence.due_lt_nextDue _ _ hpos
    rcases List.mem_cons.1 hb with rfl | hb
    · exact hlast
    · exact Nat.lt_trans (hfits.next ▸ ih hb) hlast

theorem pairwise_due_lt (h : Record start period bouts) (hpos : 0 < period) :
    bouts.Pairwise fun b b' => b'.due < b.due := by
  induction h with
  | blank => exact .nil
  | entered hearlier hfits ih =>
    exact .cons (fun b' hb' => hfits.next ▸ hearlier.due_lt_nextAfter hpos hb') ih

/-- **No two bouts overlap.** -/
theorem pairwise_apart (h : Record start period bouts) : bouts.Pairwise fun b b' =>
    ∃ t, b'.endedAt = some t ∧ b'.begunAt ≤ t ∧ t ≤ b.begunAt := by
  induction h with
  | blank => exact .nil
  | entered hearlier hfits ih =>
    refine .cons (fun b' hb' => ?_) ih
    obtain ⟨t, ht, hle⟩ := hfits.alone b' hb'
    exact ⟨t, ht, hearlier.begun_le hb' ht, hle⟩

theorem of_suffix (h : Record start period bouts) (hsuffix : earlier <:+ bouts) :
    Record start period earlier := by
  induction h with
  | blank => exact List.suffix_nil.1 hsuffix ▸ .blank
  | entered hearlier hfits ih =>
    rcases List.suffix_cons_iff.1 hsuffix with rfl | hsuffix
    · exact .entered hearlier hfits
    · exact ih hsuffix

end Record

/-! ### What happens -/

/-- **A periodic task at one moment**, with the record of its work. -/
structure Rota where
  /-- What time it is. -/
  now : Nanos
  /-- The task. -/
  task : Recurrence
  /-- Its times of work, the last one first. -/
  bouts : List Bout
  /-- Somebody stops the task and waits for its end. -/
  isAwaited : Bool
  /-- Who has waited is told that the task has ended. -/
  isReleased : Bool
  deriving DecidableEq, Repr

namespace Rota

/-- What happens next. -/
inductive Move where
  /-- The task takes up the work that is due. -/
  | begin
  /-- The work that is under way is done. -/
  | finish
  /-- The task takes up that it was told to stop. -/
  | leave
  /-- The task is told to stop, by somebody who waits for its end. -/
  | stop
  /-- The task is told to stop. -/
  | drop
  /-- Who waits is told that the task has ended. -/
  | release
  /-- Time goes by. -/
  | wait (span : Nanos)
  deriving DecidableEq, Repr

/-- A task is made, and starts after a delay. -/
def spawn (now delay period : Nanos) : Rota :=
  ⟨now, .start (now + delay) period, [], false, false⟩

/-- The last bout ends. -/
def close (now : Nanos) : List Bout → List Bout
  | [] => []
  | b :: earlier => { b with endedAt := some now } :: earlier

/-- What there is after a move. -/
def step (r : Rota) : Move → Rota
  | .begin =>
    if r.task.phase = .waiting ∧ r.task.due ≤ r.now then
      { r with task := r.task.begin r.now, bouts := ⟨r.task.due, r.now, none⟩ :: r.bouts }
    else r
  | .finish =>
    if r.task.phase = .working then
      { r with task := { r.task with phase := .waiting }, bouts := close r.now r.bouts }
    else r
  | .leave =>
    if r.task.phase = .waiting ∧ r.task.cancelled = true then
      { r with task := { r.task with phase := .ended } }
    else r
  | .stop => { r with task := { r.task with cancelled := true }, isAwaited := true }
  | .drop => { r with task := { r.task with cancelled := true } }
  | .release =>
    if r.isAwaited = true ∧ r.task.phase = .ended then { r with isReleased := true } else r
  | .wait span => { r with now := r.now + span }

/-- What there is after some moves. -/
def after (r : Rota) (moves : List Move) : Rota :=
  moves.foldl step r

/-- **What a move does.** -/
inductive Effect (r : Rota) : Move → Rota → Prop where
  /-- Nothing. -/
  | idle {m : Move} : Effect r m r
  /-- Work has begun. -/
  | begun (hphase : r.task.phase = .waiting) (hdue : r.task.due ≤ r.now) : Effect r .begin
      { r with task := r.task.begin r.now, bouts := ⟨r.task.due, r.now, none⟩ :: r.bouts }
  /-- Work is done. -/
  | finished (hphase : r.task.phase = .working) : Effect r .finish
      { r with task := { r.task with phase := .waiting }, bouts := close r.now r.bouts }
  /-- The task has ended. -/
  | left (hphase : r.task.phase = .waiting) (htold : r.task.cancelled = true) :
      Effect r .leave { r with task := { r.task with phase := .ended } }
  /-- The task was told to stop, by somebody who waits. -/
  | stopped : Effect r .stop { r with task := { r.task with cancelled := true }, isAwaited := true }
  /-- The task was told to stop. -/
  | dropped : Effect r .drop { r with task := { r.task with cancelled := true } }
  /-- Who waits was told that the task has ended. -/
  | released (hawaited : r.isAwaited = true) (hphase : r.task.phase = .ended) :
      Effect r .release { r with isReleased := true }
  /-- Time has gone by. -/
  | waited {span : Nanos} : Effect r (.wait span) { r with now := r.now + span }

/-- **Every move has one of these effects.** -/
theorem effect (r : Rota) (m : Move) : r.Effect m (r.step m) := by
  cases m with
  | begin =>
    rw [step]
    split
    · next h => exact .begun h.1 h.2
    · exact .idle
  | finish =>
    rw [step]
    split
    · next h => exact .finished h
    · exact .idle
  | leave =>
    rw [step]
    split
    · next h => exact .left h.1 h.2
    · exact .idle
  | stop => exact .stopped
  | drop => exact .dropped
  | release =>
    rw [step]
    split
    · next h => exact .released h.1 h.2
    · exact .idle
  | wait span => exact .waited

variable {r r' : Rota} {m : Move}

/-! ### What is always so -/

/-- **The record is kept.** -/
structure Sound (start period : Nanos) (r : Rota) : Prop where
  /-- The task has its period. -/
  regular : r.task.period = period
  /-- As long as it goes on, it waits for the time that is next. -/
  next : r.task.phase ≠ .ended → 0 < period ∧ r.task.due = nextAfter start period r.bouts
  /-- A task without a period never works. -/
  idle : period = 0 → r.bouts = []
  /-- The bouts fit each other. -/
  record : Record start period r.bouts
  /-- They have begun and ended by now. -/
  past : ∀ b ∈ r.bouts, b.begunAt ≤ r.now ∧ ∀ t, b.endedAt = some t → t ≤ r.now
  /-- While the task is at work, the last bout is under way. -/
  working : r.task.phase = .working → ∃ b earlier, r.bouts = b :: earlier ∧ b.endedAt = none ∧
    ∀ b' ∈ earlier, b'.endedAt ≠ none
  /-- And else none is. -/
  rested : r.task.phase ≠ .working → ∀ b ∈ r.bouts, b.endedAt ≠ none
  /-- Who waits for the end of the task has told it to stop. -/
  told : r.isAwaited = true → r.task.cancelled = true
  /-- Nobody is told that the task has ended before it has. -/
  released : r.isReleased = true → r.task.phase = .ended

theorem sound_spawn (now delay period : Nanos) :
    (spawn now delay period).Sound (now + delay) period := by
  have hperiod : (Recurrence.start (now + delay) period).period = period := by
    unfold Recurrence.start
    split <;> rfl
  have hphase : (Recurrence.start (now + delay) period).phase ≠ .working := by
    unfold Recurrence.start
    split <;> nofun
  refine ⟨hperiod, fun halive => ?_, fun _ => rfl, .blank, nofun, fun h => absurd h hphase, nofun,
    nofun, nofun⟩
  simp only [spawn, Recurrence.start] at halive ⊢
  split at halive
  · exact absurd rfl halive
  · next hgood =>
    simp only [Bool.or_eq_true, decide_eq_true_eq, not_or] at hgood
    rw [if_neg (by simpa using hgood)]
    exact ⟨Nat.pos_of_ne_zero hgood.1, rfl⟩

/-- The last bout ends now. -/
theorem Sound.close (hs : r.Sound start period) (hphase : r.task.phase = .working) :
    Record start period (Rota.close r.now r.bouts) ∧
      ∀ b ∈ Rota.close r.now r.bouts, b.begunAt ≤ r.now ∧ (∀ t, b.endedAt = some t → t ≤ r.now) ∧
        b.endedAt ≠ none := by
  obtain ⟨b, earlier, hbouts, -, hearlier⟩ := hs.working hphase
  have hrecord := hs.record
  have hpast := hs.past
  rw [hbouts] at hrecord hpast ⊢
  obtain ⟨hbegun, -⟩ := hpast b List.mem_cons_self
  constructor
  · cases hrecord with
    | entered hrest hfits =>
      refine .entered hrest ⟨hfits.next, hfits.due_le, hfits.alone, fun t ht => ?_⟩
      exact Option.some.inj ht ▸ hbegun
  · intro b' hb'
    rcases List.mem_cons.1 hb' with rfl | hb'
    · exact ⟨hbegun, fun t ht => Nat.le_of_eq (Option.some.inj ht).symm, nofun⟩
    · obtain ⟨hbegun', hended'⟩ := hpast b' (List.mem_cons_of_mem _ hb')
      exact ⟨hbegun', hended', hearlier b' hb'⟩

/-- Work begins now. -/
theorem Sound.begin (hs : r.Sound start period) (hphase : r.task.phase = .waiting)
    (hdue : r.task.due ≤ r.now) : Bout.Fits start period ⟨r.task.due, r.now, none⟩ r.bouts := by
  obtain ⟨-, hnext⟩ := hs.next (by simp [hphase])
  refine ⟨hnext, hdue, fun b hb => ?_, nofun⟩
  obtain ⟨t, ht⟩ := Option.ne_none_iff_exists'.1 (hs.rested (by simp [hphase]) b hb)
  exact ⟨t, ht, (hs.past b hb).2 t ht⟩

/-- **The record is kept by every move.** -/
theorem Sound.effect (hs : r.Sound start period) (he : r.Effect m r') : r'.Sound start period := by
  cases he with
  | idle => exact hs
  | begun hphase hdue =>
    -- the next time is fixed here, with the bout that begins as the last one
    have hfits := hs.begin hphase hdue
    obtain ⟨hpos, hnext⟩ := hs.next (by simp [hphase])
    have hended := hs.rested (by simp [hphase])
    exact {
      regular := (r.task.period_begin r.now).trans hs.regular
      next := fun _ => ⟨hpos, by simp only [Recurrence.begin, nextAfter, hs.regular]⟩
      idle := fun hzero => absurd hpos (by simp [hzero])
      record := .entered hs.record hfits
      past := List.forall_mem_cons.2 ⟨⟨Nat.le_refl _, nofun⟩, hs.past⟩
      working := fun _ => ⟨_, r.bouts, rfl, rfl, hended⟩
      rested := fun hno => absurd rfl hno
      told := fun h => (r.task.cancelled_begin r.now).trans (hs.told h)
      released := fun h => absurd ((hs.released h).symm.trans hphase) nofun }
  | finished hphase =>
    -- the end of a bout is not looked at by what is next, so that stays as it was
    obtain ⟨hrecord, hclosed⟩ := hs.close hphase
    obtain ⟨b, earlier, hbouts, -⟩ := hs.working hphase
    obtain ⟨hpos, hnext⟩ := hs.next (by simp [hphase])
    exact {
      regular := hs.regular
      next := fun _ => ⟨hpos, by rw [hnext, hbouts]; rfl⟩
      idle := fun hzero => absurd hpos (by simp [hzero])
      record := hrecord
      past := fun b hb => ⟨(hclosed b hb).1, (hclosed b hb).2.1⟩
      working := nofun
      rested := fun _ b hb => (hclosed b hb).2.2
      told := hs.told
      released := fun h => absurd ((hs.released h).symm.trans hphase) nofun }
  | left hphase htold =>
    exact { hs with
      next := fun halive => absurd rfl halive
      working := nofun
      rested := fun _ => hs.rested (by simp [hphase])
      released := fun _ => rfl }
  | stopped => exact { hs with told := fun _ => rfl }
  | dropped => exact { hs with told := fun _ => rfl }
  | released hawaited hphase => exact { hs with released := fun _ => hphase }
  | waited =>
    exact { hs with
      past := fun b hb => ⟨Nat.le_add_right_of_le (hs.past b hb).1,
        fun t ht => Nat.le_add_right_of_le ((hs.past b hb).2 t ht)⟩ }

theorem Sound.after (hs : r.Sound start period) (moves : List Move) :
    (r.after moves).Sound start period := by
  induction moves generalizing r with
  | nil => exact hs
  | cons m moves ih => exact ih (hs.effect (r.effect m))

/-! ### What becomes of a bout -/

/-- **A task that has ended** works no more. -/
theorem bouts_of_ended (hended : r.task.phase = .ended) (moves : List Move) :
    (r.after moves).bouts = r.bouts := by
  induction moves generalizing r with
  | nil => rfl
  | cons m moves ih =>
    have hstep : (r.step m).task.phase = .ended ∧ (r.step m).bouts = r.bouts := by
      have he := r.effect m
      generalize r.step m = r' at he ⊢
      cases he with
      | begun hphase => exact absurd (hended.symm.trans hphase) nofun
      | finished hphase => exact absurd (hended.symm.trans hphase) nofun
      | left hphase => exact absurd (hended.symm.trans hphase) nofun
      | _ => exact ⟨hended, rfl⟩
    exact (ih hstep.1).trans hstep.2

/-- **These bouts are in the record**, and none of them is under way. -/
def Holds (r : Rota) (bouts : List Bout) : Prop :=
  ∃ recent, r.bouts = recent ++ bouts ∧ (r.task.phase = .working → recent ≠ [])

/-- **What is over stays in the record** as it is. -/
theorem Holds.after (h : r.Holds bouts) (moves : List Move) : (r.after moves).Holds bouts := by
  induction moves generalizing r with
  | nil => exact h
  | cons m moves ih =>
    refine ih ?_
    obtain ⟨recent, hbouts, hworking⟩ := h
    have he := r.effect m
    generalize r.step m = r' at he ⊢
    cases he with
    | begun => exact ⟨_ :: recent, congrArg (List.cons _) hbouts, fun _ => nofun⟩
    | finished hphase =>
      obtain ⟨b, rest, rfl⟩ := List.exists_cons_of_ne_nil (hworking hphase)
      exact ⟨{ b with endedAt := some r.now } :: rest, by rw [hbouts]; rfl, nofun⟩
    | left => exact ⟨recent, hbouts, nofun⟩
    | _ => exact ⟨recent, hbouts, hworking⟩

/-- **Work that is under way is done by nothing but itself**: it goes on until it is finished, and
what is told to the task meanwhile makes no difference. -/
theorem underway_after (hphase : r.task.phase = .working) (hbouts : r.bouts = b :: earlier)
    (moves : List Move) :
    (.finish ∉ moves ∧ (r.after moves).bouts = b :: earlier) ∨
    ∃ before behind recent, moves = before ++ .finish :: behind ∧ .finish ∉ before ∧
      (r.after moves).bouts =
        recent ++ { b with endedAt := some (r.after before).now } :: earlier := by
  induction moves generalizing r with
  | nil => exact Or.inl ⟨by simp, hbouts⟩
  | cons m moves ih =>
    by_cases hm : m = .finish
    · subst hm
      have hstep : r.step .finish = { r with
          task := { r.task with phase := .waiting }
          bouts := { b with endedAt := some r.now } :: earlier } := by
        rw [step, if_pos hphase, hbouts]
        rfl
      -- from now on the bout is one of those that are over
      have hholds : (r.step .finish).Holds ({ b with endedAt := some r.now } :: earlier) := by
        rw [hstep]
        exact ⟨[], rfl, nofun⟩
      obtain ⟨recent, hafter, -⟩ := hholds.after moves
      exact Or.inr ⟨[], moves, recent, rfl, by simp, hafter⟩
    · have hstep : (r.step m).task.phase = .working ∧ (r.step m).bouts = b :: earlier := by
        have he := r.effect m
        generalize r.step m = r' at he ⊢
        cases he with
        | begun hwaiting => exact absurd (hphase.symm.trans hwaiting) nofun
        | finished => exact absurd rfl hm
        | left hwaiting => exact absurd (hphase.symm.trans hwaiting) nofun
        | _ => exact ⟨hphase, hbouts⟩
      rcases ih hstep.1 hstep.2 with
        ⟨hno, hafter⟩ | ⟨before, behind, recent, rfl, hno, hafter⟩
      · exact Or.inl ⟨by simp [hno, Ne.symm hm], hafter⟩
      · exact Or.inr ⟨m :: before, behind, recent, rfl, by simp [hno, Ne.symm hm], hafter⟩

/-- **Who stops a task can be told that it has ended**, as soon as the work that is under way is
done. -/
theorem isReleased_after (htold : r.task.cancelled = true) (hawaited : r.isAwaited = true) :
    (r.after [.finish, .leave, .release]).isReleased = true := by
  cases hphase : r.task.phase <;> simp [after, step, hphase, htold, hawaited]

/-! ### Every run -/

/-- **The record of a task is well kept**: this is so after any moves. -/
structure WellKept (now delay period : Nanos) (r : Rota) : Prop where
  /-- Bouts do not overlap. -/
  apart : r.bouts.Pairwise fun b b' => ∃ t, b'.endedAt = some t ∧ b'.begunAt ≤ t ∧ t ≤ b.begunAt
  /-- None begins earlier than one period after the task was made. -/
  patient : ∀ b ∈ r.bouts, now + period ≤ b.begunAt
  /-- Each is for a multiple of the period after the start, and begins at this time or later. -/
  regular : ∀ b ∈ r.bouts, b.due ≤ b.begunAt ∧ ∃ k, 0 < k ∧ b.due = now + delay + k * period
  /-- The first one is for the first multiple. -/
  first : ∀ b, [b] <:+ r.bouts → b.due = now + delay + period
  /-- No two are for the same one. -/
  once : r.bouts.Pairwise fun b b' => b'.due < b.due
  /-- After a bout that came late, the multiples that were over are passed over, and no other is. -/
  passing : ∀ b b' earlier, (b :: b' :: earlier) <:+ r.bouts →
    b'.due + Recurrence.tolerance < b'.begunAt →
      b'.begunAt < b.due ∧ b.due ≤ b'.begunAt + period
  /-- After one that did not, the next multiple is the next time. -/
  going : ∀ b b' earlier, (b :: b' :: earlier) <:+ r.bouts →
    b'.begunAt ≤ b'.due + Recurrence.tolerance → b.due = b'.due + period
  /-- So all multiples that were over are passed over, with a period that is not shorter than the
  tolerance. -/
  skipping : Recurrence.tolerance ≤ period → ∀ b b' earlier, (b :: b' :: earlier) <:+ r.bouts →
    b'.begunAt ≤ b.due
  /-- A bout that is under way goes on until it is finished, whatever happens before that, and stays
  in the record as it is then. -/
  uncut : ∀ b earlier, r.bouts = b :: earlier → b.endedAt = none → ∀ moves,
    (.finish ∉ moves ∧ (r.after moves).bouts = b :: earlier) ∨
    ∃ before behind recent, moves = before ++ .finish :: behind ∧ .finish ∉ before ∧
      (r.after moves).bouts =
        recent ++ { b with endedAt := some (r.after before).now } :: earlier
  /-- Who stops the task can be told that it has ended, as soon as the work that is under way is
  done. -/
  stoppable : r.isAwaited = true → (r.after [.finish, .leave, .release]).isReleased = true
  /-- When that is told, no work is under way, and there is none from then on. -/
  released : r.isReleased = true →
    (∀ b ∈ r.bouts, b.endedAt ≠ none) ∧ ∀ moves, (r.after moves).bouts = r.bouts

/-- A task with bouts has a period. -/
theorem Sound.period_pos (hs : r.Sound start period) (hsuffix : (b :: earlier) <:+ r.bouts) :
    0 < period := by
  refine Nat.pos_of_ne_zero fun hzero => ?_
  rw [hs.idle hzero] at hsuffix
  exact absurd (List.suffix_nil.1 hsuffix) (by simp)

/-- After a bout that came late, the next one is for the first multiple that was not over. -/
theorem Sound.passing (hs : r.Sound start period) (hsuffix : (b :: b' :: earlier) <:+ r.bouts)
    (hlate : b'.due + Recurrence.tolerance < b'.begunAt) :
    b'.begunAt < b.due ∧ b.due ≤ b'.begunAt + period := by
  cases hs.record.of_suffix hsuffix with
  | entered hearlier hfits =>
    rw [hfits.next]
    exact ⟨Recurrence.lt_nextDue hlate (hs.period_pos hsuffix),
      Recurrence.nextDue_le (hearlier.due_le List.mem_cons_self)⟩

/-- After one that did not, the next one is for the next multiple. -/
theorem Sound.going (hs : r.Sound start period) (hsuffix : (b :: b' :: earlier) <:+ r.bouts)
    (hsoon : b'.begunAt ≤ b'.due + Recurrence.tolerance) : b.due = b'.due + period := by
  cases hs.record.of_suffix hsuffix with
  | entered _ hfits => rw [hfits.next, nextAfter, Recurrence.nextDue_of_le hsoon]

/-- A record that is kept so far is well kept. -/
theorem Sound.isWellKept {now delay : Nanos} (hs : r.Sound (now + delay) period) :
    r.WellKept now delay period where
  apart := hs.record.pairwise_apart
  patient b hb := by
    obtain ⟨k, hk, hdue⟩ := hs.record.exists_due_eq hb
    have hle : period ≤ k * period := Nat.le_mul_of_pos_left period hk
    calc now + period ≤ now + delay + k * period := Nat.add_le_add (Nat.le_add_right ..) hle
      _ = b.due := hdue.symm
      _ ≤ b.begunAt := hs.record.due_le hb
  regular b hb := ⟨hs.record.due_le hb, hs.record.exists_due_eq hb⟩
  first b hsuffix := by
    cases hs.record.of_suffix hsuffix with
    | entered _ hfits => exact hfits.next
  once := by
    rcases Nat.eq_zero_or_pos period with hzero | hpos
    · rw [hs.idle hzero]
      exact .nil
    · exact hs.record.pairwise_due_lt hpos
  passing _ _ _ hsuffix hlate := hs.passing hsuffix hlate
  going _ _ _ hsuffix hsoon := hs.going hsuffix hsoon
  skipping htolerance b b' earlier hsuffix := by
    by_cases hlate : b'.due + Recurrence.tolerance < b'.begunAt
    · exact Nat.le_of_lt (hs.passing hsuffix hlate).1
    · rw [hs.going hsuffix (Nat.not_lt.1 hlate)]
      exact Nat.le_trans (Nat.not_lt.1 hlate) (Nat.add_le_add_left htolerance _)
  uncut b earlier hbouts hunder moves := by
    refine underway_after ?_ hbouts moves
    by_contra hphase
    exact hs.rested hphase b (hbouts ▸ List.mem_cons_self) hunder
  stoppable hawaited := isReleased_after (hs.told hawaited) hawaited
  released hreleased := by
    have hended := hs.released hreleased
    exact ⟨hs.rested (by simp [hended]), bouts_of_ended hended⟩

/-- **Periodic tasks work one bout at a time and stop cleanly**, whatever happens in what order. -/
theorem wellKept (now delay period : Nanos) (moves : List Move) :
    ((spawn now delay period).after moves).WellKept now delay period :=
  ((sound_spawn now delay period).after moves).isWellKept

/-- **Multiples that were missed are passed over**: no bout is for one that was over when the bout
before it began. -/
def PassesOver : Prop :=
  ∀ (now delay period : Nanos) (moves : List Move) (b b' : Bout) (earlier : List Bout),
    0 < period → (b :: b' :: earlier) <:+ ((spawn now delay period).after moves).bouts →
      b'.begunAt ≤ b.due

/-- A task with a period of two milliseconds, the first bout of which takes five. -/
def hurried : List Move :=
  [.wait (ofMillis 2), .begin, .wait (ofMillis 5), .finish, .begin, .finish, .begin]

/-- **They are not always**: a task that is late by no more than the tolerance makes up for the next
multiple, which is over as well. -/
theorem not_passesOver : ¬PassesOver := by
  intro hpasses
  have hbouts : ((spawn 0 0 (ofMillis 2)).after hurried).bouts =
      [⟨ofMillis 6, ofMillis 7, none⟩, ⟨ofMillis 4, ofMillis 7, some (ofMillis 7)⟩,
        ⟨ofMillis 2, ofMillis 2, some (ofMillis 7)⟩] := by decide +kernel
  have hle := hpasses 0 0 (ofMillis 2) hurried _ _ _ (by decide) ⟨[], hbouts.symm⟩
  exact absurd hle (by decide +kernel)

end Rota

end Rendezvous
