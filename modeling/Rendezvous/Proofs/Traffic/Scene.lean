import Mathlib.Data.List.Basic
import Rendezvous.Dealings.Correspondence
import Rendezvous.Dealings.Pairing
import Rendezvous.Proofs.Store.Soundness

/-!
# Many errands at once

Users decide about each other, forget what they decided, and write to each other, all at the same
time. Each such *errand* is a flow of calls to the store and pushes to connections; a call is
answered as a whole, and between two calls of one errand any other errand may be served. This module
is about all the ways in which that can go.

## Courses

A *scene* is what there is at one moment: the tables with their past, and the errands that were ever
begun, each with what is left of it (`Traffic.Visit`). A *move* either lets somebody come with a new
errand, or gives a turn to one of those that are there: its next call is answered. What the answer
depends on beside the tables is the *luck* of the turn: what time it is, whether the store fails
before doing anything, and whether a push is taken by a connection. A *course* is any sequence of
moves, and `Traffic.Course.scene` is what it has led to after so many of them. A turn given to
nobody, or to an errand that is over, changes nothing, so every sequence of moves is a course, and a
course that has come to its end is one that goes on with such turns.

## What a move does

`Traffic.Scene.step_cases` says it once. For one visit it means that it stays as it is, has just
begun, or was answered (`Traffic.Scene.visit_step`); for the tables, that they stay as they are or
answer one request of one visit (`Traffic.Scene.annals_step`).
-/

namespace Rendezvous

/-! ### The calls of a flow -/

namespace Flow

variable {α β : Type} {P Q : Call → Prop}

/-- **The calls of a flow are of a kind**, whatever the replies. -/
def Calls (P : Call → Prop) : Flow α → Prop
  | .done _ => True
  | .ask call next => P call ∧ ∀ reply, (next reply).Calls P

theorem Calls.bind {x : Flow α} {f : α → Flow β} (hx : x.Calls P) (hf : ∀ a, (f a).Calls P) :
    (x >>= f).Calls P := by
  induction x with
  | done a => exact hf a
  | ask call next ih => exact ⟨hx.1, fun reply => ih reply (hx.2 reply)⟩

end Flow

namespace Task

variable {α β : Type} {P : Call → Prop}

/-- The calls of a task are of a kind. -/
def Calls (P : Call → Prop) (task : Task α) : Prop :=
  task.run.Calls P

theorem calls_pure (a : α) : (pure a : Task α).Calls P := trivial

theorem calls_throw (e : Refusal) : (throw e : Task α).Calls P := trivial

theorem calls_store {r : StoreRequest} (h : P (.store r)) : (Task.store r).Calls P := by
  refine ⟨h, fun reply => ?_⟩
  cases reply <;> trivial

theorem calls_push {user : UserId} {notice : Notice} (h : P (.push user notice)) :
    (Task.push user notice).Calls P :=
  ⟨h, fun _ => trivial⟩

theorem Calls.bind {x : Task α} {f : α → Task β} (hx : x.Calls P) (hf : ∀ a, (f a).Calls P) :
    (x >>= f).Calls P := by
  refine Flow.Calls.bind hx fun a => ?_
  cases a with
  | ok a => exact hf a
  | error e => trivial

/-- A task that begins by asking the store: it goes on with the answer, or fails with the store. -/
theorem run_store_bind (r : StoreRequest) (f : r.Answer → Task α) :
    (Task.store r >>= f).run = .ask (.store r) fun
      | .ok answer => (f answer).run
      | .error e => .done (.error (.ofStore e)) := by
  refine congrArg (Flow.ask (.store r)) (funext fun reply => ?_)
  cases reply <;> rfl

end Task

namespace Traffic

/-! ### Errands -/

/-- What users come for. -/
inductive Errand where
  /-- To decide about another user. -/
  | decide (actor target : UserId) (action : Decision)
  /-- To forget all decisions. -/
  | reset (actor : UserId)
  /-- To write to another user. -/
  | send (sender : UserId) (letter : Letter)

namespace Errand

/-- What comes of an errand. -/
abbrev Yield : Errand → Type
  | .decide .. => DecisionOutcome
  | .reset _ => Nat
  | .send .. => Message

/-- What has to be done for an errand. -/
def task : (e : Errand) → Task e.Yield
  | .decide actor target action => Pairing.decide actor target action
  | .reset actor => Pairing.reset actor
  | .send sender letter => Correspondence.send sender letter

end Errand

/-- An errand that was begun, and what is left of it. -/
structure Visit where
  /-- What the user has come for. -/
  errand : Errand
  /-- What is left to do. -/
  flow : Flow (Except Refusal errand.Yield)

/-- An errand of which nothing is done yet. -/
def Visit.begun (e : Errand) : Visit :=
  ⟨e, e.task.run⟩

/-! ### Scenes, moves and courses -/

/-- What a turn depends on beside the tables. -/
structure Luck where
  /-- What time it is. -/
  now : Timestamp
  /-- Why the store fails, if it does. -/
  failure : Option StoreError
  /-- Whether a connection takes what is pushed to it. -/
  taken : Bool

/-- The reply to a call. A store that fails does nothing. Nobody here holds session tokens, and no
errand asks for one. -/
def Luck.serve (luck : Luck) : Flow.Server Annals
  | .store r, a =>
    match luck.failure with
    | some e => (.error e, a)
    | none => a.answer luck.now r
  | .authenticate token, a => (.ok (a.records.bearer? token), a)
  | .issue .., a => (.error (.backend "no session tokens"), a)
  | .redeem _, a => (.error (.backend "no session tokens"), a)
  | .revoke _, a => (.error (.backend "no session tokens"), a)
  | .push .., a => (luck.taken, a)
  | .connected, a => (0, a)

/-- **What there is at one moment.** -/
structure Scene where
  /-- The tables with their past. -/
  annals : Annals
  /-- The errands in the order in which they were begun. -/
  visits : List Visit

/-- What happens next. -/
inductive Move where
  /-- Somebody comes with an errand. -/
  | arrive (errand : Errand)
  /-- The next call of an errand is answered. -/
  | turn (n : Nat) (luck : Luck)

namespace Scene

/-- Nobody has come yet. -/
def empty : Scene :=
  ⟨.empty, []⟩

/-- The tables. -/
def records (s : Scene) : Records :=
  s.annals.records

/-- What is there after a move. -/
def step (s : Scene) : Move → Scene
  | .arrive errand => { s with visits := s.visits ++ [.begun errand] }
  | .turn n luck =>
    match s.visits[n]? with
    | none => s
    | some v =>
      match v.flow.step? luck.serve s.annals with
      | none => s
      | some (flow, annals) => ⟨annals, s.visits.set n ⟨v.errand, flow⟩⟩

end Scene

/-- **A course of events**: one move after another. -/
abbrev Course := Nat → Move

/-- What a course has led to after so many moves. -/
def Course.scene (c : Course) : Nat → Scene
  | 0 => .empty
  | k + 1 => (c.scene k).step (c k)

/-- Nothing is wrong with a turn. -/
def Luck.fair : Luck :=
  ⟨⟨0, 0⟩, none, true⟩

/-- A course that begins with some moves and goes on with turns that nobody takes. -/
def Course.ofMoves (moves : List Move) : Course := fun k =>
  moves[k]?.getD (.turn moves.length .fair)

@[simp] theorem Course.scene_zero (c : Course) : c.scene 0 = .empty := rfl

theorem Course.scene_succ (c : Course) (k : Nat) : c.scene (k + 1) = (c.scene k).step (c k) := rfl

/-- The next call of a visit, answered: the call, and its reply. -/
def Scene.Answers (s : Scene) (m : Move) (n : Nat) (call : Call) (reply : call.Reply) : Prop :=
  ∃ luck v next, m = .turn n luck ∧ s.visits[n]? = some v ∧ v.flow = .ask call next ∧
    (luck.serve call s.annals).1 = reply

/-- A call of a visit is answered by this move of a course. -/
def Course.Answers (c : Course) (k n : Nat) (call : Call) (reply : call.Reply) : Prop :=
  (c.scene k).Answers (c k) n call reply

/-! ### What a move does -/

namespace Scene

variable {s : Scene} {m : Move}

/-- **A move** changes nothing, lets an errand begin, or answers the next call of one visit. -/
theorem step_cases (s : Scene) (m : Move) :
    (s.step m = s ∧ ∀ n call reply, ¬s.Answers m n call reply) ∨
    (∃ errand, m = .arrive errand ∧
      s.step m = ⟨s.annals, s.visits ++ [.begun errand]⟩) ∨
    (∃ n luck v call next, m = .turn n luck ∧ s.visits[n]? = some v ∧ v.flow = .ask call next ∧
      s.step m = ⟨(luck.serve call s.annals).2,
        s.visits.set n ⟨v.errand, next (luck.serve call s.annals).1⟩⟩) := by
  cases m with
  | arrive errand => exact Or.inr (Or.inl ⟨errand, rfl, rfl⟩)
  | turn n luck =>
    cases hv : s.visits[n]? with
    | none =>
      refine Or.inl ⟨by simp [step, hv], ?_⟩
      rintro n' call reply ⟨luck', v, next, hm, hv', -⟩
      obtain ⟨rfl, rfl⟩ := Move.turn.inj hm
      rw [hv] at hv'
      exact absurd hv' (by simp)
    | some v =>
      cases hf : v.flow with
      | done result =>
        refine Or.inl ⟨by simp [step, hv, hf, Flow.step?], ?_⟩
        rintro n' call reply ⟨luck', v', next, hm, hv', hask, -⟩
        obtain ⟨rfl, rfl⟩ := Move.turn.inj hm
        obtain rfl : v = v' := by simpa [hv] using hv'
        rw [hf] at hask
        exact absurd hask (by simp)
      | ask call next =>
        exact Or.inr (Or.inr ⟨n, luck, v, call, next, rfl, hv, hf,
          by simp [step, hv, hf, Flow.step?]⟩)

/-- **What becomes of one visit**: it was there before, it has just begun, or its next call was
answered. -/
theorem visit_step {i : Nat} {v' : Visit} (h : (s.step m).visits[i]? = some v') :
    (s.visits[i]? = some v' ∧ ∀ call reply, ¬s.Answers m i call reply) ∨
    (∃ errand, m = .arrive errand ∧ i = s.visits.length ∧ v' = .begun errand) ∨
    (∃ luck v call next, m = .turn i luck ∧ s.visits[i]? = some v ∧ v.flow = .ask call next ∧
      v' = ⟨v.errand, next (luck.serve call s.annals).1⟩ ∧
      (s.step m).annals = (luck.serve call s.annals).2) := by
  rcases s.step_cases m with
    ⟨he, hno⟩ | ⟨errand, rfl, he⟩ | ⟨n, luck, v, call, next, rfl, hv, hf, he⟩
  · rw [he] at h
    exact Or.inl ⟨h, hno i⟩
  · rw [he] at h
    -- the new visit is the last one, and all others keep their places
    rcases Nat.lt_trichotomy i s.visits.length with hi | rfl | hi
    · rw [List.getElem?_append_left hi] at h
      refine Or.inl ⟨h, ?_⟩
      rintro call reply ⟨luck, v, next, hm, -⟩
      exact absurd hm (by simp)
    · refine Or.inr (Or.inl ⟨errand, rfl, rfl, ?_⟩)
      simpa using h.symm
    · rw [List.getElem?_eq_none (by simp; omega)] at h
      exact absurd h (by simp)
  · rw [he] at h ⊢
    by_cases hi : n = i
    · subst hi
      refine Or.inr (Or.inr ⟨luck, v, call, next, rfl, hv, hf, ?_, rfl⟩)
      have hlt : n < s.visits.length := (List.getElem?_eq_some_iff.1 hv).1
      simpa [hlt] using h.symm
    · rw [List.getElem?_set_ne hi] at h
      refine Or.inl ⟨h, ?_⟩
      rintro call' reply ⟨luck', v', next', hm, -⟩
      exact hi (Move.turn.inj hm).1

/-- **What becomes of the tables**: they stay as they are, or one request of one visit is answered
from them. -/
theorem annals_step (s : Scene) (m : Move) :
    (s.step m).annals = s.annals ∨
    ∃ n luck r v next, m = .turn n luck ∧ luck.failure = none ∧ s.visits[n]? = some v ∧
      v.flow = .ask (.store r) next ∧ (s.step m).annals = (s.annals.answer luck.now r).2 := by
  rcases s.step_cases m with ⟨he, -⟩ | ⟨errand, -, he⟩ | ⟨n, luck, v, call, next, hm, hv, hf, he⟩
  · exact Or.inl (by rw [he])
  · exact Or.inl (by rw [he])
  · cases call with
    | store r =>
      cases hl : luck.failure with
      | some e => exact Or.inl (by rw [he]; simp [Luck.serve, hl])
      | none =>
        refine Or.inr ⟨n, luck, r, v, next, hm, hl, hv, hf, ?_⟩
        rw [he]
        simp [Luck.serve, hl]
    | _ => exact Or.inl (by rw [he]; rfl)

/-- **What becomes of the tables**, seen from the request that is answered. -/
theorem annals_cases (s : Scene) (m : Move) :
    (s.step m).annals = s.annals ∨
    ∃ n now r, s.Answers m n (.store r) (s.annals.answer now r).1 ∧
      (s.step m).annals = (s.annals.answer now r).2 := by
  rcases s.annals_step m with he | ⟨n, luck, r, v, next, hm, hl, hv, hf, he⟩
  · exact Or.inl he
  · exact Or.inr ⟨n, luck.now, r, ⟨luck, v, next, hm, hv, hf, by simp [Luck.serve, hl]⟩, he⟩

/-- A request that is not refused was answered from the tables. -/
theorem Answers.of_ok {n : Nat} {r : StoreRequest} {answer : r.Answer}
    (h : s.Answers m n (.store r) (.ok answer)) :
    ∃ now, (s.annals.answer now r).1 = .ok answer ∧
      (s.step m).annals = (s.annals.answer now r).2 := by
  obtain ⟨luck, v, next, rfl, hv, hf, hreply⟩ := h
  have hstep : (s.step (.turn n luck)).annals = (luck.serve (.store r) s.annals).2 := by
    simp [step, hv, hf, Flow.step?]
  cases hl : luck.failure with
  | some e => simp [Luck.serve, hl] at hreply
  | none =>
    rw [hstep]
    exact ⟨luck.now, by simpa [Luck.serve, hl] using hreply, by simp [Luck.serve, hl]⟩

/-- A move answers one call. -/
theorem Answers.unique {n n' : Nat} {call call' : Call} {reply : call.Reply} {reply' : call'.Reply}
    (h : s.Answers m n call reply) (h' : s.Answers m n' call' reply') :
    n = n' ∧ call = call' ∧ reply ≍ reply' := by
  obtain ⟨luck, v, next, rfl, hv, hf, rfl⟩ := h
  obtain ⟨luck', v', next', hm, hv', hf', rfl⟩ := h'
  obtain ⟨rfl, rfl⟩ := Move.turn.inj hm
  obtain rfl : v = v' := by simpa [hv] using hv'
  rw [hf] at hf'
  obtain ⟨rfl, -⟩ := Flow.ask.inj hf'
  exact ⟨rfl, rfl, HEq.rfl⟩

/-- A visit stays what it is for, whatever happens. -/
theorem errand_step {i : Nat} {v : Visit} (h : s.visits[i]? = some v) :
    ∃ v', (s.step m).visits[i]? = some v' ∧ v'.errand = v.errand := by
  have hi : i < s.visits.length := (List.getElem?_eq_some_iff.1 h).1
  rcases s.step_cases m with ⟨he, -⟩ | ⟨errand, -, he⟩ | ⟨n, luck, v', call, next, -, hv, -, he⟩ <;>
    rw [he]
  · exact ⟨v, h, rfl⟩
  · exact ⟨v, by rw [List.getElem?_append_left hi, h], rfl⟩
  · by_cases hn : n = i
    · subst hn
      obtain rfl : v = v' := by simpa [h] using hv
      exact ⟨_, List.getElem?_set_self hi, rfl⟩
    · exact ⟨v, by rw [List.getElem?_set_ne hn, h], rfl⟩

/-- A visit that is not answered stays as it is. -/
theorem visit_stays {i : Nat} {v : Visit} (h : s.visits[i]? = some v)
    (hno : ∀ call reply, ¬s.Answers m i call reply) : (s.step m).visits[i]? = some v := by
  obtain ⟨v', hv', -⟩ := errand_step (m := m) h
  rcases visit_step hv' with ⟨hv, -⟩ | ⟨errand, -, rfl, -⟩ | ⟨luck, w, call, next, hm, hv, hf, -⟩
  · rw [h] at hv
    rw [hv', ← hv]
  · rw [List.getElem?_eq_none (Nat.le_refl _)] at h
    exact absurd h (by simp)
  · exact absurd ⟨luck, w, next, hm, hv, hf, rfl⟩ (hno call _)

/-- An errand that is over stays over. -/
theorem visit_over {i : Nat} {v : Visit} {result : Except Refusal v.errand.Yield}
    (h : s.visits[i]? = some v) (hover : v.flow = .done result) :
    (s.step m).visits[i]? = some v := by
  refine visit_stays h ?_
  rintro call reply ⟨luck, w, next, -, hw, hf, -⟩
  obtain rfl : v = w := by simpa [h] using hw
  rw [hover] at hf
  exact absurd hf (by simp)

end Scene

/-! ### The tables in the course of events -/

namespace Course

variable {c : Course}

/-- Numbers that last until later have lasted until earlier. -/
theorem hasRoom_of_le {j k : Nat} (hjk : j ≤ k) (h : (c.scene k).annals.HasRoom) :
    (c.scene j).annals.HasRoom := by
  induction hjk with
  | refl => exact h
  | @step k _ ih =>
    refine ih ?_
    rw [scene_succ] at h
    rcases (c.scene k).annals_step (c k) with he | ⟨n, luck, r, v, next, -, -, -, -, he⟩
    · rwa [he] at h
    · rw [he] at h
      exact h.of_answer

/-- **The tables fit together at every moment**, as long as the numbers last. -/
theorem kept {k : Nat} (h : (c.scene k).annals.HasRoom) : (c.scene k).annals.Kept := by
  induction k with
  | zero => exact Annals.kept_empty
  | succ k ih =>
    have ih := ih (hasRoom_of_le (Nat.le_succ k) h)
    rw [scene_succ] at h ⊢
    rcases (c.scene k).annals_step (c k) with he | ⟨n, luck, r, v, next, -, -, -, -, he⟩
    · rwa [he]
    · rw [he] at h ⊢
      exact ih.answer r h

/-! ### The end of a course -/

/-- With every move comes one visit at most. -/
theorem length_visits_le (c : Course) (k : Nat) : (c.scene k).visits.length ≤ k := by
  induction k with
  | zero => exact Nat.le_refl 0
  | succ k ih =>
    rw [scene_succ]
    rcases (c.scene k).step_cases (c k) with
      ⟨he, -⟩ | ⟨errand, -, he⟩ | ⟨n, luck, v, call, next, -, -, -, he⟩ <;> rw [he]
    · omega
    · simpa using ih
    · simpa using Nat.le_succ_of_le ih

/-- After its last move a course stands still. -/
theorem scene_ofMoves_of_le {moves : List Move} {k : Nat} (h : moves.length ≤ k) :
    (ofMoves moves).scene k = (ofMoves moves).scene moves.length := by
  induction h with
  | refl => rfl
  | @step k h ih =>
    have hmove : ofMoves moves k = .turn moves.length .fair := by
      simp [ofMoves, List.getElem?_eq_none h]
    have hnobody : ((ofMoves moves).scene moves.length).visits[moves.length]? = none :=
      List.getElem?_eq_none (length_visits_le _ _)
    rw [scene_succ, hmove, ih, Scene.step, hnobody]

end Course

end Traffic

end Rendezvous
