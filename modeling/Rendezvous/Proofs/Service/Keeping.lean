import Rendezvous.Proofs.Service.Course
import Rendezvous.Proofs.Store.Permanence
import Rendezvous.Proofs.Switchboard.Queues

/-!
# What the house keeps

Two things in the house last for as long as there is a course. The tables only grow, as long as
their numbers last, so that an answer of the store is as true at any later moment as it was when it
was given (`Service.Course.Answers.vouches`). And a connection belongs to the same user for ever, a
current connection of a user being one of this user's own (`Service.Course.owned`).

What comes into the queues is traced back to where it comes from: a text that waits for a writer was
put into the queue in a move in which a visit had a notice to push, and it is the text of this
notice (`Service.Course.exists_queues`).
-/

namespace Rendezvous.Service

/-- Writers and the heartbeat put no texts into the queues. -/
theorem Chore.follows {new : ConnectionId → String → Prop} (h : Switchboard) (now : Nanos)
    (chore : Chore) : h.Follows new (chore.perform now h) := by
  cases chore with
  | take id => exact Switchboard.follows_take? id
  | abandon id => exact Switchboard.follows_abandon id
  | close id => exact Switchboard.follows_close id
  | settle ticket written => exact Switchboard.follows_settle ticket written
  | probe id wait => exact Switchboard.follows_probe id now wait
  | expire => exact Switchboard.follows_expire now
  | unregister user id => exact Switchboard.follows_unregister user id

/-- Nor does a connection that takes a step in the switchboard. -/
theorem follows_step? {new : ConnectionId → String → Prop} {s s' : Serving} {h h' : Switchboard}
    (hstep : s.step? h = some (s', h')) : h.Follows new h' := by
  obtain ⟨-, rfl | ⟨id, rfl⟩ | rfl | rfl⟩ := Serving.step?_cases hstep
  · exact Switchboard.follows_enter s.id
  · exact Switchboard.follows_close id
  · exact .refl _
  · exact Switchboard.follows_unregister s.user s.id

namespace Course

variable {c : Course} {j k n : Nat} {luck : Luck} {past : List Exchange}

/-! ### The tables -/

/-- What becomes of the tables in a move: at most one request is answered. -/
theorem annals_cases (c : Course) (k : Nat) :
    (c.scene (k + 1)).house.annals = (c.scene k).house.annals ∨
    ∃ now q, (c.scene (k + 1)).house.annals = ((c.scene k).house.annals.answer now q).2 := by
  have heffect := c.effect k
  generalize c.move k = m, c.scene (k + 1) = s' at heffect
  cases heffect with
  | @answered n luck v call next =>
    rcases (c.scene k).house.serve_cases (c.mint k) luck v.found.join call with
      ⟨ledger, he⟩ | ⟨q, -, -, he⟩ | ⟨user, notice, id, -, -, he⟩ <;> simp only [he]
    · exact Or.inl trivial
    · exact Or.inr ⟨luck.now, q, rfl⟩
    · exact Or.inl trivial
  | @revoked i luck ch =>
    obtain ⟨ledger, he⟩ := (c.scene k).house.revoke_eq luck ch.serving.token
    exact Or.inl (by simp only [he])
  | @heard i m ch =>
    rw [house_hear]
    rcases house_touch (c.scene k) ch.serving.id m with he | he <;> exact Or.inl (by rw [he])
  | _ => exact Or.inl rfl

/-- What lasts has lasted before. -/
theorem hasRoom_of_le (hjk : j ≤ k) (h : (c.scene k).house.annals.HasRoom) :
    (c.scene j).house.annals.HasRoom := by
  induction hjk with
  | refl => exact h
  | @step k _ ih =>
    rcases c.annals_cases k with he | ⟨now, q, he⟩ <;> rw [he] at h
    · exact ih h
    · exact ih h.of_answer

/-- **The tables fit together** in every course, as long as their numbers last. -/
theorem kept (h : (c.scene k).house.annals.HasRoom) : (c.scene k).house.annals.Kept := by
  induction k with
  | zero => exact Annals.kept_empty
  | succ k ih =>
    have hk := ih (hasRoom_of_le (Nat.le_succ k) h)
    rcases c.annals_cases k with he | ⟨now, q, he⟩ <;> rw [he] at h ⊢
    · exact hk
    · exact hk.answer q h

/-- **The tables only grow** in a course, as long as their numbers last. -/
theorem records_extends (hjk : j ≤ k) (h : (c.scene k).house.annals.HasRoom) :
    (c.scene j).house.annals.records.Extends (c.scene k).house.annals.records := by
  induction hjk with
  | refl => exact .refl _
  | @step k _ ih =>
    have hk := hasRoom_of_le (Nat.le_succ k) h
    refine (ih hk).trans ?_
    rcases c.annals_cases k with he | ⟨now, q, he⟩ <;> rw [he] at h ⊢
    · exact .refl _
    · exact (kept hk).answer_extends q h

/-- **What the store has told a visit is true** from then on, as long as the numbers last. -/
theorem Answers.vouches {q : StoreRequest} {answer : q.Answer}
    (h : c.Answers j n luck past (.told q answer)) (hjk : j < k)
    (hroom : (c.scene k).house.annals.HasRoom) :
    q.Vouches (c.scene k).house.annals.records answer := by
  obtain ⟨found, hreply, hhouse⟩ := h.serve_eq
  have hj := hasRoom_of_le (Nat.le_of_lt hjk) hroom
  have hsucc := hasRoom_of_le (Nat.succ_le_of_lt hjk) hroom
  refine StoreRequest.Vouches.later (records_extends (Nat.succ_le_of_lt hjk) hroom) ?_
  rw [hhouse] at hsucc ⊢
  -- a store that has failed has told nothing
  unfold Exchange.told House.serve at hreply
  unfold Exchange.told House.serve at hsucc ⊢
  cases hfailure : luck.storeFailure with
  | some e => exact absurd hreply (by simp [hfailure])
  | none =>
    simp only [hfailure] at hreply hsucc ⊢
    exact (kept hj).vouches hreply hsucc

/-! ### The connections -/

/-- **A text is put into a queue**: a visit has a notice to push, has found a connection for it, and
the queue of this connection takes its text. -/
def Queues (c : Course) (k : Nat) (id : ConnectionId) (receiver : UserId) (notice : Notice) : Prop :=
  ∃ n luck v next, c.move k = .turn n luck ∧ (c.scene k).visits[n]? = some v ∧
    v.flow = .ask (.push receiver notice) next ∧ v.found = some (some id) ∧
    ((c.scene k).house.board.push id notice.encode).1 = true

/-- **What becomes of the switchboard**: a text that is new in a queue was put there. -/
theorem board_follows (k : Nat) (hown : (c.scene k).house.board.Owned) :
    (c.scene k).house.board.Follows
      (fun id s => ∃ receiver notice, c.Queues k id receiver notice ∧ s = notice.encode)
      (c.scene (k + 1)).house.board := by
  have heffect := c.effect k
  generalize hm : c.move k = m at heffect
  generalize c.scene (k + 1) = s' at heffect
  cases heffect with
  | @answered n luck v call next hv hseeks hflow =>
    rcases (c.scene k).house.serve_cases (c.mint k) luck v.found.join call with
      ⟨ledger, he⟩ | ⟨q, -, -, he⟩ | ⟨receiver, notice, id, rfl, hfound, he⟩ <;> simp only [he]
    · exact .refl _
    · exact .refl _
    · have hfound : v.found = some (some id) := Option.join_eq_some_iff.1 hfound
      refine (Switchboard.follows_push id notice.encode).mono ?_
      rintro _ _ ⟨rfl, rfl, htaken⟩
      exact ⟨receiver, notice, ⟨n, luck, v, next, hm, hv, hflow, hfound, htaken⟩, rfl⟩
  | promoted => exact Switchboard.follows_open hown _ _
  | lived hch hstep => exact follows_step? hstep
  | @revoked i luck ch =>
    obtain ⟨ledger, he⟩ := (c.scene k).house.revoke_eq luck ch.serving.token
    simp only [he]
    exact .refl _
  | @heard i m ch =>
    rw [house_hear]
    rcases house_touch (c.scene k) ch.serving.id m with he | he <;> rw [he]
    · exact .refl _
    · exact Switchboard.follows_touch _ _
  | chore => exact Chore.follows _ _ _
  | _ => exact .refl _

/-- **The connections belong to their users.** -/
theorem owned (c : Course) (k : Nat) : (c.scene k).house.board.Owned := by
  induction k with
  | zero => exact Switchboard.owned_empty
  | succ k ih => exact ih.follows (board_follows k ih)

/-- A connection belongs to the same user later. -/
theorem connection_later {id : ConnectionId} {conn : Connection} (hjk : j ≤ k)
    (h : (c.scene j).house.board.connection? id = some conn) :
    ∃ conn', (c.scene k).house.board.connection? id = some conn' ∧ conn'.user = conn.user := by
  induction hjk with
  | refl => exact ⟨conn, h, rfl⟩
  | @step k _ ih =>
    obtain ⟨w, hw, huser⟩ := ih
    obtain ⟨conn', hconn', huser'⟩ := (board_follows k (c.owned k)).user id w hw
    exact ⟨conn', hconn', huser'.trans huser⟩

/-- **What waits in a queue was put there.** -/
theorem exists_queues {id : ConnectionId} {conn : Connection} {s : String}
    (h : (c.scene k).house.board.connection? id = some conn) (hs : .text s ∈ conn.queue) :
    ∃ j < k, ∃ receiver notice, c.Queues j id receiver notice ∧ s = notice.encode := by
  induction k generalizing conn with
  | zero => exact absurd h (by simp [Scene.empty, House.empty, Switchboard.empty,
      Switchboard.connection?])
  | succ k ih =>
    rcases (board_follows k (c.owned k)).text id conn s h hs with ⟨w, hw, hsw⟩ | hnew
    · obtain ⟨j, hj, hqueues⟩ := ih hw hsw
      exact ⟨j, Nat.lt_succ_of_lt hj, hqueues⟩
    · exact ⟨k, Nat.lt_succ_self k, hnew⟩

/-- What was put into a queue is in it. -/
theorem Queues.mem {id : ConnectionId} {receiver : UserId} {notice : Notice}
    (h : c.Queues k id receiver notice) :
    ∃ conn, (c.scene (k + 1)).house.board.connection? id = some conn ∧
      .text notice.encode ∈ conn.queue := by
  obtain ⟨n, luck, v, next, hm, hv, hflow, hfound, htaken⟩ := h
  obtain ⟨conn, hconn, hmem⟩ := Switchboard.mem_queue_push htaken
  refine ⟨conn, ?_, hmem⟩
  have hseeks : v.seeks? = none := by simp [Visit.seeks?, hflow, hfound]
  rw [scene_succ, hm, Scene.step, hv]
  simpa [Visit.turn?, hseeks, hflow, hfound, House.serve, House.hand] using hconn

/-- A connection that was found for what a visit has to push belongs to the receiver. -/
def Matches (c : Course) (k : Nat) (v : Visit) : Prop :=
  ∀ found, v.found = some found →
    ∃ user notice next, v.flow = .ask (.push user notice) next ∧ ∀ id, found = some id →
      ∃ conn, (c.scene k).house.board.connection? id = some conn ∧ conn.user = user

theorem Matches.succ {v : Visit} (h : c.Matches k v) : c.Matches (k + 1) v := by
  intro found hfound
  obtain ⟨user, notice, next, hflow, hconn⟩ := h found hfound
  refine ⟨user, notice, next, hflow, fun id hid => ?_⟩
  obtain ⟨conn, hconn, huser⟩ := hconn id hid
  obtain ⟨conn', hconn', huser'⟩ := c.connection_later (Nat.le_succ k) hconn
  exact ⟨conn', hconn', huser'.trans huser⟩

/-- What is found is the current connection of the receiver, who owns it. -/
theorem matches_sought {v : Visit} {user : UserId} (hseeks : v.seeks? = some user) :
    c.Matches k { v with found := some ((c.scene k).house.board.current? user) } := by
  intro found hfound
  obtain rfl := Option.some.inj hfound
  unfold Visit.seeks? at hseeks
  split at hseeks
  · next user' notice next hflow _ =>
    obtain rfl := Option.some.inj hseeks
    exact ⟨user', notice, next, hflow, fun id hid => (c.owned k).current user' id hid⟩
  · exact absurd hseeks (by simp)

/-- **The connection that a visit has found** for what it has to push belongs to the receiver. -/
theorem user_of_found {v : Visit} (h : (c.scene k).visits[n]? = some v) : c.Matches k v := by
  refine visit_induction (fun k v => c.Matches k v) ?_ ?_ ?_ ?_ ?_ h
  · exact fun k cause _ found hfound => absurd hfound (by simp [Visit.begun])
  · exact fun k v hv => hv.succ
  · exact fun k v user hseeks _ => (matches_sought hseeks).succ
  · exact fun k luck v e next _ _ _ found hfound => absurd hfound (by simp [Visit.answered])
  · exact fun k v user token _ _ hv => hv.succ

/-- **The connection of a channel belongs to its user.** -/
theorem user_of_channel {i : Nat} {ch : Channel} (h : (c.scene k).channels[i]? = some ch) :
    ∃ conn, (c.scene k).house.board.connection? ch.serving.id = some conn ∧
      conn.user = ch.serving.user := by
  induction k generalizing ch with
  | zero => simp [Scene.empty] at h
  | succ k ih =>
    rcases channel_cases h with ⟨w, hw, hid, huser, -⟩ | ⟨n, user, token, ⟨hm, v, hv, hpromise⟩, rfl⟩
    · obtain ⟨conn, hconn, hown⟩ := ih hw
      obtain ⟨conn', hconn', hown'⟩ := c.connection_later (Nat.le_succ k) hconn
      exact ⟨conn', by rw [hid]; exact hconn', by rw [huser, hown', hown]⟩
    · refine ⟨.opened user (c.scene k).house.now, ?_, rfl⟩
      rw [scene_succ, hm, Scene.step, hv]
      simp [hpromise, Scene.promote, Serving.start, Switchboard.open, Switchboard.connection?]

end Course

end Rendezvous.Service
