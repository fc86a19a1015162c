import Mathlib.Data.List.Basic
import Rendezvous.Proofs.Store.Growth
import Rendezvous.Proofs.Traffic.Stages

/-!
# Who opens the chat of a pair

In the course of events the chat of a pair can be opened in two ways: by a decision that makes the
two users a match, and by a message of one of them to the other. This module follows the chat of one
pair through a course. It is opened at one move at most (`Traffic.Course.Opens.unique`); before that
move the pair has no chat, and from then on it has this one
(`Traffic.Course.chatOf_eq_some_iff`).
-/

namespace Rendezvous

namespace Traffic

/-- A pair keeps its chat with every move. -/
theorem Scene.get?_chatOfPair_step {s : Scene} {p : UserId × UserId} {chat : ChatId}
    (h : s.records.chatOfPair.get? p = some chat) (m : Move) :
    (s.step m).records.chatOfPair.get? p = some chat := by
  rcases s.annals_cases m with he | ⟨n, now, r, -, he⟩ <;> rw [Scene.records, he]
  · exact h
  · exact (Records.get?_chatOfPair_answer _ _ _).2 (Or.inl h)

namespace Course

variable {c : Course} {k : Nat} {p : UserId × UserId} {chat : ChatId}

/-- The chat of a pair after so many moves. -/
def chatOf (c : Course) (k : Nat) (p : UserId × UserId) : Option ChatId :=
  (c.scene k).records.chatOfPair.get? p

/-- A visit is told that it has opened the chat of a match. -/
def OpensByMatch (c : Course) (k n : Nat) (actor target : UserId) (chat : ChatId) : Prop :=
  c.Answers k n (.store (.openMatch actor target matchGreeting)) (.ok (chat, true))

/-- A visit is told that it has opened a chat to write to. -/
def OpensByLetter (c : Course) (k n : Nat) (sender receiver : UserId) (chat : ChatId) : Prop :=
  c.Answers k n (.store (.openChat sender receiver)) (.ok (chat, true))

/-- **The chat of a pair is opened** at this move, in one of the two ways. -/
inductive Opens (c : Course) (k : Nat) : UserId × UserId → ChatId → Prop where
  /-- By a match. -/
  | byMatch {n : Nat} {actor target : UserId} {chat : ChatId}
      (h : c.OpensByMatch k n actor target chat) : Opens c k (orderedPair actor target) chat
  /-- By a message. -/
  | byLetter {n : Nat} {sender receiver : UserId} {chat : ChatId}
      (h : c.OpensByLetter k n sender receiver chat) : Opens c k (orderedPair sender receiver) chat

theorem chatOf_zero (c : Course) (p : UserId × UserId) : c.chatOf 0 p = none := rfl

/-- What is opened is a request that says so. -/
theorem Opens.exists_request (h : c.Opens k p chat) :
    ∃ now r, r.opened? ((c.scene k).annals.answer now r).1 = some (p, chat) ∧
      (c.scene (k + 1)).annals = ((c.scene k).annals.answer now r).2 := by
  cases h with
  | byMatch h =>
    obtain ⟨now, hreply, ha⟩ := Scene.Answers.of_ok h
    exact ⟨now, _, StoreRequest.opened?_openMatch.2 ⟨rfl, hreply⟩, ha⟩
  | byLetter h =>
    obtain ⟨now, hreply, ha⟩ := Scene.Answers.of_ok h
    exact ⟨now, _, StoreRequest.opened?_openChat.2 ⟨rfl, hreply⟩, ha⟩

/-- What the answer to a visit says was opened is opened in one of the two ways. -/
theorem opens_of_opened? {n : Nat} {r : StoreRequest} {reply : (Call.store r).Reply}
    (h : c.Answers k n (.store r) reply) (ho : r.opened? reply = some (p, chat)) :
    c.Opens k p chat := by
  cases r with
  | openChat a b =>
    obtain ⟨rfl, rfl⟩ := StoreRequest.opened?_openChat.1 ho
    exact .byLetter h
  | openMatch a b content =>
    obtain ⟨rfl, rfl⟩ := StoreRequest.opened?_openMatch.1 ho
    obtain ⟨-, -, rfl⟩ := (c.mannered k).asks_openMatch h
    exact .byMatch h
  | _ => simp [StoreRequest.opened?] at ho

/-- **The chat of a pair after a move** is the one it had, or the one that the move has opened. -/
theorem chatOf_succ :
    c.chatOf (k + 1) p = some chat ↔ c.chatOf k p = some chat ∨ c.Opens k p chat := by
  constructor
  · intro h
    rcases (c.scene k).annals_cases (c k) with he | ⟨n, now, r, hans, he⟩
    · rw [chatOf, Scene.records, scene_succ, he] at h
      exact Or.inl h
    · rw [chatOf, Scene.records, scene_succ, he] at h
      rcases (Records.get?_chatOfPair_answer _ _ _).1 h with h | h
      · exact Or.inl h
      · exact Or.inr (opens_of_opened? hans h)
  · rintro (h | h)
    · exact Scene.get?_chatOfPair_step h (c k)
    · obtain ⟨now, r, hr, he⟩ := h.exists_request
      rw [chatOf, Scene.records, he]
      exact (Records.get?_chatOfPair_answer _ _ _).2 (Or.inr hr)

/-- A pair whose chat is opened had none. -/
theorem Opens.chatOf_eq_none (h : c.Opens k p chat) : c.chatOf k p = none := by
  obtain ⟨now, r, hr, -⟩ := h.exists_request
  exact Records.get?_of_opened? hr

/-- A pair keeps its chat. -/
theorem chatOf_mono {j : Nat} (hjk : j ≤ k) (h : c.chatOf j p = some chat) :
    c.chatOf k p = some chat := by
  induction hjk with
  | refl => exact h
  | step _ ih => exact chatOf_succ.2 (Or.inl ih)

/-- **The chat of a pair** is the one that was opened. -/
theorem chatOf_eq_some_iff : c.chatOf k p = some chat ↔ ∃ j < k, c.Opens j p chat := by
  constructor
  · intro h
    induction k with
    | zero => exact absurd h (by simp [chatOf_zero])
    | succ k ih =>
      rcases chatOf_succ.1 h with h | h
      · obtain ⟨j, hj, ho⟩ := ih h
        exact ⟨j, by omega, ho⟩
      · exact ⟨k, by omega, h⟩
  · rintro ⟨j, hj, ho⟩
    exact chatOf_mono hj (chatOf_succ.2 (Or.inr ho))

/-- **The chat of a pair is opened once.** -/
theorem Opens.unique {k' : Nat} {chat' : ChatId} (h : c.Opens k p chat) (h' : c.Opens k' p chat') :
    k = k' := by
  -- otherwise the later one would find the chat of the earlier one
  have hlt : ∀ {i j id id'}, c.Opens i p id → c.Opens j p id' → ¬i < j := by
    intro i j id id' hi hj hij
    have hsome : c.chatOf j p = some id := chatOf_eq_some_iff.2 ⟨i, hij, hi⟩
    rw [hj.chatOf_eq_none] at hsome
    exact absurd hsome (by simp)
  exact Nat.le_antisymm (Nat.le_of_not_lt (hlt h' h)) (Nat.le_of_not_lt (hlt h h'))

/-- The chat of a pair is not opened in both ways. -/
theorem OpensByMatch.not_byLetter {k' n n' : Nat} {actor target sender receiver : UserId}
    {chat' : ChatId} (h : c.OpensByMatch k n actor target chat)
    (hp : orderedPair actor target = orderedPair sender receiver) :
    ¬c.OpensByLetter k' n' sender receiver chat' := by
  intro h'
  obtain rfl : k = k' := (Opens.byMatch h).unique (hp ▸ Opens.byLetter h')
  have hcall := (Scene.Answers.unique h h').2.1
  exact absurd hcall (by simp)

/-- The chat of a pair is opened as that of a match by one visit at most. -/
theorem OpensByMatch.unique {k' n n' : Nat} {actor target actor' target' : UserId} {chat' : ChatId}
    (h : c.OpensByMatch k n actor target chat) (h' : c.OpensByMatch k' n' actor' target' chat')
    (hp : orderedPair actor target = orderedPair actor' target') :
    k = k' ∧ n = n' ∧ actor = actor' ∧ target = target' ∧ chat = chat' := by
  obtain rfl : k = k' := (Opens.byMatch h).unique (hp ▸ Opens.byMatch h')
  obtain ⟨rfl, hcall, hreply⟩ := Scene.Answers.unique h h'
  obtain ⟨rfl, rfl⟩ : actor = actor' ∧ target = target' := by simpa using hcall
  exact ⟨rfl, rfl, rfl, rfl, by simpa using eq_of_heq hreply⟩

end Course

end Traffic

end Rendezvous
