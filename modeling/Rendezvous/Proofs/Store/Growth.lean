import Mathlib.Data.List.Basic
import Rendezvous.Proofs.Store.Soundness

/-!
# What stays in the tables

Nobody can take a chat or a message out of the tables. A pair that has a chat keeps it, and the chat
that a pair has not is opened by exactly the request whose answer says so
(`Records.get?_chatOfPair_answer`). A log grows at its end, and what stands in it is at most marked
read (`Records.log_answer_cases`).

Messages of the service come into a log in one way only, with the opening of the chat of a match. So
a log is *plain*, without any such message, or begins with one and is plain after it
(`Records.Plain`, `Records.Greets`). Both survive everything that can be done to a log by users.
-/

namespace Rendezvous

namespace Records

variable {t : Records} {now : Timestamp}

/-! ### The chats of pairs -/

/-- The chat of a pair after a chat was filed. -/
theorem get?_chatOfPair_filed {pair p : UserId × UserId} {id : ChatId}
    (hnew : t.chatOfPair.get? pair = none) :
    (t.filed now pair).chatOfPair.get? p = some id ↔
      t.chatOfPair.get? p = some id ∨ (p = pair ∧ id = t.lastChat + 1) := by
  have hf : (t.filed now pair).chatOfPair = t.chatOfPair.insert pair (t.lastChat + 1) := rfl
  rw [hf, Table.get?_insert]
  by_cases h : p = pair
  · subst h
    simp [hnew, eq_comm]
  · simp [h]

theorem chatOfPair_stored (m : PendingMessage) : (t.stored now m).chatOfPair = t.chatOfPair := rfl

theorem chatOfPair_markWhere (chat : ChatId) (p : Message → Bool) :
    (t.markWhere chat p).2.chatOfPair = t.chatOfPair := by
  obtain ⟨logs, he, -⟩ := markWhere_eq t chat p
  rw [he]

/-- **Which pairs have a chat after a request**: those that had one, and the one for which the
answer says that a chat was opened. -/
theorem get?_chatOfPair_answer (t : Records) (now : Timestamp) (r : StoreRequest)
    {p : UserId × UserId} {id : ChatId} :
    (t.answer now r).2.chatOfPair.get? p = some id ↔
      t.chatOfPair.get? p = some id ∨ r.opened? (t.answer now r).1 = some (p, id) := by
  have heffect := t.answer_effect now r
  generalize t.answer now r = out at heffect ⊢
  cases heffect with
  | idle hquiet => simp [hquiet.1]
  | decided => simp [StoreRequest.opened?, recordSwipe]
  | forgotten => simp [StoreRequest.opened?, forgetSwipes]
  | marked hquiet chat q => simp [hquiet.1, chatOfPair_markWhere]
  | opened hne hnew => simp [get?_chatOfPair_filed hnew, StoreRequest.opened?, eq_comm]
  | matched hne hnew =>
    simp [chatOfPair_stored, get?_chatOfPair_filed hnew, StoreRequest.opened?, eq_comm]
  | appended hchat hne hof => simp [StoreRequest.opened?, chatOfPair_stored]

/-- A pair for which a chat is opened had none. -/
theorem get?_of_opened? {r : StoreRequest} {p : UserId × UserId} {id : ChatId}
    (h : r.opened? (t.answer now r).1 = some (p, id)) : t.chatOfPair.get? p = none := by
  have heffect := t.answer_effect now r
  generalize t.answer now r = out at heffect h
  cases heffect with
  | idle hquiet => exact absurd (hquiet.1.symm.trans h) (by simp)
  | marked hquiet => exact absurd (hquiet.1.symm.trans h) (by simp)
  | opened hne hnew =>
    obtain ⟨rfl, -⟩ := StoreRequest.opened?_openChat.1 h
    exact hnew
  | matched hne hnew =>
    obtain ⟨rfl, -⟩ := StoreRequest.opened?_openMatch.1 h
    exact hnew
  | _ => simp [StoreRequest.opened?] at h

/-- The chat that is found or opened for a match is the chat of the pair from then on. -/
theorem get?_chatOfPair_openMatch {a b : UserId} {content : String} {id : ChatId} {created : Bool}
    (h : (t.openMatch now a b content).1 = .ok (id, created)) :
    (t.openMatch now a b content).2.chatOfPair.get? (orderedPair a b) = some id := by
  rcases t.openMatch_cases now a b content with ⟨-, ho⟩ | ⟨-, id', hid, ho⟩ | ⟨-, hnew, ho⟩ <;>
    rw [ho] at h ⊢
  · exact absurd h (by simp)
  · obtain ⟨rfl, -⟩ : id' = id ∧ _ := by simpa using h
    exact hid
  · obtain ⟨rfl, -⟩ : t.lastChat + 1 = id ∧ _ := by simpa using h
    rw [chatOfPair_stored]
    exact (get?_chatOfPair_filed hnew).2 (Or.inr ⟨rfl, rfl⟩)

/-! ### Logs -/

/-- The chat of a match that is opened has the next number, and a greeting at the end of its log. -/
theorem log_openMatch {a b : UserId} {content : String} {id : ChatId}
    (h : (t.openMatch now a b content).1 = .ok (id, true)) :
    id = t.lastChat + 1 ∧ (t.openMatch now a b content).2.log id =
      t.log id ++ [(t.filed now (orderedPair a b)).nextMessage now (t.greeting a b content)] := by
  rcases t.openMatch_cases now a b content with ⟨-, ho⟩ | ⟨-, id', -, ho⟩ | ⟨-, -, ho⟩ <;>
    rw [ho] at h ⊢
  · exact absurd h (by simp)
  · exact absurd h (by simp)
  · obtain rfl : t.lastChat + 1 = id := by simpa using h
    exact ⟨rfl, log_stored_self (t.greeting a b content)⟩

theorem log_markWhere_cases (chat id : ChatId) (p : Message → Bool) :
    (t.markWhere chat p).2.log id = t.log id ∨
      ∃ q, (t.markWhere chat p).2.log id = (t.log id).map (marked q) := by
  rw [log_markWhere]
  split
  · exact Or.inr ⟨p, rfl⟩
  · exact Or.inl rfl

/-- **What becomes of a log**: nothing, some of its messages are marked read, a message is put at
its end by a request to do so, or its chat is opened as that of a match. -/
theorem log_answer_cases (t : Records) (now : Timestamp) (r : StoreRequest) (id : ChatId) :
    (t.answer now r).2.log id = t.log id ∨
    (∃ p, (t.answer now r).2.log id = (t.log id).map (marked p)) ∨
    (∃ m, r = .append m ∧ (t.answer now r).2.log id = t.log id ++ [t.nextMessage now m]) ∨
    (∃ a b content, r = .openMatch a b content ∧
      r.opened? (t.answer now r).1 = some (orderedPair a b, id)) := by
  have heffect := t.answer_effect now r
  generalize t.answer now r = out at heffect ⊢
  cases heffect with
  | marked hquiet chat q => exact (log_markWhere_cases chat id q).imp_right Or.inl
  | @matched a b content hne hnew =>
    by_cases hid : id = t.lastChat + 1
    · subst hid
      refine Or.inr (Or.inr (Or.inr ⟨a, b, content, rfl, ?_⟩))
      exact StoreRequest.opened?_openMatch.2 ⟨rfl, rfl⟩
    · exact Or.inl (log_stored_of_ne hid)
  | @appended m chat hchat hne hof =>
    by_cases hid : id = m.chat
    · subst hid
      exact Or.inr (Or.inr (Or.inl ⟨m, rfl, log_stored_self m⟩))
    · exact Or.inl (log_stored_of_ne hid)
  | _ => exact Or.inl rfl

/-! ### Messages of the service -/

/-- The messages of a log are all from users. -/
def Plain (l : List Message) : Prop :=
  ∀ m ∈ l, m.kind = .text

/-- A log begins with the greeting of a match from the one user to the other, and no other message
in it is from the service. -/
def Greets (actor target : UserId) (l : List Message) : Prop :=
  ∃ seed rest, l = seed :: rest ∧ seed.kind = .system ∧ seed.content = matchGreeting ∧
    seed.sender = actor ∧ seed.receiver = target ∧ Plain rest

variable {l : List Message} {m : Message} {actor target : UserId}

theorem Plain.map_marked (h : Plain l) (p : Message → Bool) : Plain (l.map (marked p)) := by
  intro m hm
  obtain ⟨m', hm', rfl⟩ := List.mem_map.1 hm
  exact h m' hm'

theorem Plain.concat (h : Plain l) (hm : m.kind = .text) : Plain (l ++ [m]) := by
  intro m' hm'
  rcases List.mem_append.1 hm' with hm' | hm'
  · exact h m' hm'
  · obtain rfl : m' = m := by simpa using hm'
    exact hm

theorem Greets.map_marked (h : Greets actor target l) (p : Message → Bool) :
    Greets actor target (l.map (marked p)) := by
  obtain ⟨seed, rest, rfl, hkind, hcontent, hsender, hreceiver, hrest⟩ := h
  exact ⟨marked p seed, rest.map (marked p), rfl, hkind, hcontent, hsender, hreceiver,
    hrest.map_marked p⟩

theorem Greets.concat (h : Greets actor target l) (hm : m.kind = .text) :
    Greets actor target (l ++ [m]) := by
  obtain ⟨seed, rest, rfl, hkind, hcontent, hsender, hreceiver, hrest⟩ := h
  exact ⟨seed, rest ++ [m], rfl, hkind, hcontent, hsender, hreceiver, hrest.concat hm⟩

theorem Greets.ne_nil (h : Greets actor target l) : l ≠ [] := by
  obtain ⟨seed, rest, rfl, -⟩ := h
  exact List.cons_ne_nil _ _

/-- The only message of the service in a log is the first one. -/
theorem Greets.head? (h : Greets actor target l) (hm : m ∈ l) (hkind : m.kind = .system) :
    l.head? = some m := by
  obtain ⟨seed, rest, rfl, -, -, -, -, hrest⟩ := h
  rcases List.mem_cons.1 hm with rfl | hm
  · rfl
  · rw [hrest m hm] at hkind
    exact absurd hkind (by simp)

end Records

end Rendezvous
