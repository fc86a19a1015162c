import Mathlib.Algebra.Group.Nat.Defs
import Mathlib.Data.List.Basic
import Rendezvous.Store.Records

/-!
# What the requests to a store do

Every request to the tables changes them in one of a few ways: a decision is put in or a user's
decisions are taken out, a chat is filed, a message is put at the end of a log, or messages are
marked read. This module says for each request which of these happens and when, so that nothing
proved about the tables later has to look into the requests again.

## Filing and storing

`Records.filed` and `Records.stored` are the two ways in which the tables grow. Opening a chat
(`Records.openChat_cases`) refuses two equal users, finds the chat of the pair, or files a new one;
putting a message into a chat (`Records.append_cases`) is refused, or stores it. The greeting of a
match can always be stored, since the chat was filed for exactly its two users a moment before
(`Records.openMatch_cases`). All that a request can do is one of seven effects
(`Records.answer_effect`).

## Annals

The *annals* are the tables together with two counts: how many chats were opened and how many
messages stored since the tables were empty. The counters of the tables are numbers of 64 bits, the
counts are not, so that "as long as the numbers last" can be said: `Annals.HasRoom`.
-/

namespace Rendezvous

/-! ### What an answer says -/

namespace StoreRequest

/-- The pair whose chat was opened, and the number of the chat, if an answer says that one was. -/
def opened? :
    (r : StoreRequest) → Except StoreError r.Answer → Option ((UserId × UserId) × ChatId)
  | .openChat a b, .ok (id, true) => some (orderedPair a b, id)
  | .openMatch a b _, .ok (id, true) => some (orderedPair a b, id)
  | _, _ => none

/-- How many chats an answer says were opened. -/
def chatsOpened (r : StoreRequest) (reply : Except StoreError r.Answer) : Nat :=
  (r.opened? reply).toList.length

/-- How many messages an answer says were stored. -/
def messagesStored : (r : StoreRequest) → Except StoreError r.Answer → Nat
  | .append _, .ok _ => 1
  | .openMatch .., .ok (_, true) => 1
  | _, _ => 0

/-- An answer that speaks of no new chat and no new message. -/
def Quiet (r : StoreRequest) (reply : Except StoreError r.Answer) : Prop :=
  r.opened? reply = none ∧ r.messagesStored reply = 0

variable {a b : UserId} {p : UserId × UserId} {id : ChatId}

theorem opened?_openChat {reply : Except StoreError (ChatId × Bool)} :
    opened? (.openChat a b) reply = some (p, id) ↔
      p = orderedPair a b ∧ reply = .ok (id, true) := by
  rcases reply with e | ⟨id', _ | _⟩ <;> simp [opened?, eq_comm]

theorem opened?_openMatch {content : String} {reply : Except StoreError (ChatId × Bool)} :
    opened? (.openMatch a b content) reply = some (p, id) ↔
      p = orderedPair a b ∧ reply = .ok (id, true) := by
  rcases reply with e | ⟨id', _ | _⟩ <;> simp [opened?, eq_comm]

end StoreRequest

namespace Records

variable {t : Records} {now : Timestamp}

/-! ### The ways in which the tables change -/

/-- The tables with a new chat filed for a pair. -/
def filed (t : Records) (now : Timestamp) (pair : UserId × UserId) : Records :=
  { t with
    lastChat := t.lastChat + 1
    chatOfPair := t.chatOfPair.insert pair (t.lastChat + 1)
    chats := t.chats.insert (t.lastChat + 1) ⟨t.lastChat + 1, pair.1, pair.2, now⟩ }

/-- The message that is stored next. -/
def nextMessage (t : Records) (now : Timestamp) (m : PendingMessage) : Message :=
  ⟨t.lastMessage + 1, m.chat, m.sender, m.receiver, m.content, m.kind, false, now⟩

/-- The tables with a message put at the end of its log. -/
def stored (t : Records) (now : Timestamp) (m : PendingMessage) : Records :=
  { t with
    lastMessage := t.lastMessage + 1
    logs := t.logs.insert m.chat (t.log m.chat ++ [t.nextMessage now m]) }

/-- A message as it is after its reader has looked at the messages of a kind. -/
def marked (p : Message → Bool) (m : Message) : Message :=
  { m with isRead := m.isRead || p m }

theorem marked_eq (p : Message → Bool) (m : Message) :
    (if p m then { m with isRead := true } else m) = marked p m := by
  unfold marked
  cases p m <;> simp

theorem get?_filed_self (t : Records) (now : Timestamp) (pair : UserId × UserId) :
    (t.filed now pair).chats.get? (t.lastChat + 1) =
      some ⟨t.lastChat + 1, pair.1, pair.2, now⟩ := by
  simp [filed]

/-! ### Logs -/

@[simp] theorem log_empty (c : ChatId) : empty.log c = [] := rfl

theorem log_stored (m : PendingMessage) (c : ChatId) :
    (t.stored now m).log c =
      if c = m.chat then t.log m.chat ++ [t.nextMessage now m] else t.log c := by
  by_cases h : c = m.chat
  · simp [log, stored, h]
  · simp [log, stored, h, Table.get?_insert_of_ne]

theorem log_stored_self (m : PendingMessage) :
    (t.stored now m).log m.chat = t.log m.chat ++ [t.nextMessage now m] := by
  simp [log_stored]

theorem log_stored_of_ne {m : PendingMessage} {c : ChatId} (h : c ≠ m.chat) :
    (t.stored now m).log c = t.log c := by
  simp [log_stored, h]

/-- Which messages are marked depends only on the log. -/
theorem markWhere_fst (t : Records) (id : ChatId) (p : Message → Bool) :
    (t.markWhere id p).1 = ((t.log id).filter p).map (·.id) := by
  unfold markWhere log
  cases t.logs.get? id <;> rfl

/-- Marking the messages of a chat changes its log message by message, and no other log. -/
theorem log_markWhere (chat c : ChatId) (p : Message → Bool) :
    (t.markWhere chat p).2.log c = if c = chat then (t.log c).map (marked p) else t.log c := by
  unfold markWhere
  cases hl : t.logs.get? chat with
  | none =>
    by_cases h : c = chat
    · simp [h, log, hl]
    · simp [h]
  | some l =>
    simp only [marked_eq]
    by_cases h : c = chat
    · subst h
      simp [log, hl]
    · simp [log, h, Table.get?_insert_of_ne]

theorem markWhere_eq (t : Records) (chat : ChatId) (p : Message → Bool) :
    ∃ logs, (t.markWhere chat p).2 = { t with logs := logs } ∧
      ∀ id l, logs.get? id = some l → ∃ l', t.logs.get? id = some l' := by
  unfold markWhere
  cases hl : t.logs.get? chat with
  | none => exact ⟨t.logs, rfl, fun id l h => ⟨l, h⟩⟩
  | some log =>
    refine ⟨_, rfl, fun id l h => ?_⟩
    by_cases he : id = chat
    · subst he
      exact ⟨log, hl⟩
    · rw [Table.get?_insert_of_ne _ _ he] at h
      exact ⟨l, h⟩

theorem lastChat_markWhere (t : Records) (chat : ChatId) (p : Message → Bool) :
    (t.markWhere chat p).2.lastChat = t.lastChat := by
  obtain ⟨logs, he, -⟩ := markWhere_eq t chat p
  rw [he]

theorem lastMessage_markWhere (t : Records) (chat : ChatId) (p : Message → Bool) :
    (t.markWhere chat p).2.lastMessage = t.lastMessage := by
  obtain ⟨logs, he, -⟩ := markWhere_eq t chat p
  rw [he]

/-! ### What a request comes to -/

/-- **Opening a chat**: two equal users are refused, a chat that is there is found, and one that is
not there is filed under the next number. -/
theorem openChat_cases (t : Records) (now : Timestamp) (a b : UserId) :
    (a = b ∧ t.openChat now a b = (.error (.selfChat a), t)) ∨
    (a ≠ b ∧ ∃ id, t.chatOfPair.get? (orderedPair a b) = some id ∧
      t.openChat now a b = (.ok (id, false), t)) ∨
    (a ≠ b ∧ t.chatOfPair.get? (orderedPair a b) = none ∧
      t.openChat now a b = (.ok (t.lastChat + 1, true), t.filed now (orderedPair a b))) := by
  unfold openChat
  by_cases h : a = b
  · exact Or.inl ⟨h, if_pos (orderedPair_fst_eq_snd.2 h)⟩
  have hp : ¬(orderedPair a b).1 = (orderedPair a b).2 := fun e => h (orderedPair_fst_eq_snd.1 e)
  simp only [if_neg hp]
  cases hc : t.chatOfPair.get? (orderedPair a b) with
  | some id => exact Or.inr (Or.inl ⟨h, id, rfl, rfl⟩)
  | none => exact Or.inr (Or.inr ⟨h, rfl, rfl⟩)

/-- **Putting a message into a chat**: it is refused when the chat is not there or is not the one of
sender and receiver, and stored otherwise. -/
theorem append_cases (t : Records) (now : Timestamp) (m : PendingMessage) :
    (t.chats.get? m.chat = none ∧ t.append now m = (.error (.noChat m.chat), t)) ∨
    (∃ chat, t.chats.get? m.chat = some chat ∧
      (m.sender = m.receiver ∨ chat.isOf m.sender m.receiver = false) ∧
      t.append now m = (.error (.notConnected m.chat m.sender m.receiver), t)) ∨
    (∃ chat, t.chats.get? m.chat = some chat ∧ m.sender ≠ m.receiver ∧
      chat.isOf m.sender m.receiver = true ∧
      t.append now m = (.ok (t.nextMessage now m), t.stored now m)) := by
  unfold append
  cases hc : t.chats.get? m.chat with
  | none => exact Or.inl ⟨rfl, rfl⟩
  | some chat =>
    by_cases h : m.sender = m.receiver ∨ chat.isOf m.sender m.receiver = false
    · exact Or.inr (Or.inl ⟨chat, rfl, h, if_pos (by simpa using h)⟩)
    · have hne : m.sender ≠ m.receiver := fun e => h (Or.inl e)
      have hof : chat.isOf m.sender m.receiver = true := by
        cases ho : chat.isOf m.sender m.receiver with
        | true => rfl
        | false => exact absurd (Or.inr ho) h
      exact Or.inr (Or.inr ⟨chat, rfl, hne, hof, if_neg (by simpa using h)⟩)

/-- A chat that was filed for two users takes a message of the one to the other. -/
theorem append_filed {a b : UserId} (hne : a ≠ b) (t : Records) (since now : Timestamp)
    (content : String) (kind : Authorship) :
    (t.filed since (orderedPair a b)).append now ⟨t.lastChat + 1, a, b, content, kind⟩ =
      (.ok ((t.filed since (orderedPair a b)).nextMessage now ⟨t.lastChat + 1, a, b, content, kind⟩),
        (t.filed since (orderedPair a b)).stored now ⟨t.lastChat + 1, a, b, content, kind⟩) := by
  have hfiled := t.get?_filed_self since (orderedPair a b)
  rcases (t.filed since (orderedPair a b)).append_cases now
      ⟨t.lastChat + 1, a, b, content, kind⟩ with
    ⟨hn, -⟩ | ⟨chat, hs, hbad, -⟩ | ⟨chat, -, -, -, happ⟩
  · rw [hfiled] at hn
    exact absurd hn (by simp)
  · rw [hfiled, Option.some.injEq] at hs
    subst hs
    rcases hbad with hbad | hbad
    · exact absurd hbad hne
    · simp [Chat.isOf] at hbad
  · exact happ

/-- The message that opens the chat of a match. -/
def greeting (t : Records) (actor target : UserId) (content : String) : PendingMessage :=
  ⟨t.lastChat + 1, actor, target, content, .system⟩

/-- **Opening the chat of a match** differs from opening a chat only in that a chat that is filed
now gets a message of the service. That message is never refused. -/
theorem openMatch_cases (t : Records) (now : Timestamp) (a b : UserId) (content : String) :
    (a = b ∧ t.openMatch now a b content = (.error (.selfChat a), t)) ∨
    (a ≠ b ∧ ∃ id, t.chatOfPair.get? (orderedPair a b) = some id ∧
      t.openMatch now a b content = (.ok (id, false), t)) ∨
    (a ≠ b ∧ t.chatOfPair.get? (orderedPair a b) = none ∧
      t.openMatch now a b content = (.ok (t.lastChat + 1, true),
        (t.filed now (orderedPair a b)).stored now (t.greeting a b content))) := by
  unfold openMatch
  rcases t.openChat_cases now a b with ⟨h, ho⟩ | ⟨h, id, hc, ho⟩ | ⟨h, hc, ho⟩
  · exact Or.inl ⟨h, by rw [ho]⟩
  · exact Or.inr (Or.inl ⟨h, id, hc, by rw [ho]⟩)
  · refine Or.inr (Or.inr ⟨h, hc, ?_⟩)
    rw [ho]
    -- the chat was filed for exactly these two users, so the message belongs there
    simp only [append_filed h, greeting]

/-- **What a request does**, with its answer and the tables after it. -/
inductive Effect (t : Records) (now : Timestamp) :
    (r : StoreRequest) → Except StoreError r.Answer × Records → Prop where
  /-- Nothing. -/
  | idle {r : StoreRequest} {reply : Except StoreError r.Answer} (hquiet : r.Quiet reply) :
      Effect t now r (reply, t)
  /-- A decision is put in. -/
  | decided {actor target : UserId} {action : Decision} :
      Effect t now (.recordSwipe actor target action)
        (.ok (), t.recordSwipe now actor target action)
  /-- The decisions of a user are taken out. -/
  | forgotten {actor : UserId} :
      Effect t now (.forgetSwipes actor) (.ok (t.forgetSwipes actor).1, (t.forgetSwipes actor).2)
  /-- Messages are marked read. -/
  | marked {r : StoreRequest} {reply : Except StoreError r.Answer} (hquiet : r.Quiet reply)
      (chat : ChatId) (p : Message → Bool) : Effect t now r (reply, (t.markWhere chat p).2)
  /-- A chat is opened to write to. -/
  | opened {a b : UserId} (hne : a ≠ b) (hnew : t.chatOfPair.get? (orderedPair a b) = none) :
      Effect t now (.openChat a b) (.ok (t.lastChat + 1, true), t.filed now (orderedPair a b))
  /-- The chat of a match is opened, with a greeting. -/
  | matched {a b : UserId} {content : String} (hne : a ≠ b)
      (hnew : t.chatOfPair.get? (orderedPair a b) = none) :
      Effect t now (.openMatch a b content) (.ok (t.lastChat + 1, true),
        (t.filed now (orderedPair a b)).stored now (t.greeting a b content))
  /-- A message is put into its chat. -/
  | appended {m : PendingMessage} {chat : Chat} (hchat : t.chats.get? m.chat = some chat)
      (hne : m.sender ≠ m.receiver) (hof : chat.isOf m.sender m.receiver = true) :
      Effect t now (.append m) (.ok (t.nextMessage now m), t.stored now m)

/-- **Every request has one of these effects.** -/
theorem answer_effect (t : Records) (now : Timestamp) (r : StoreRequest) :
    t.Effect now r (t.answer now r) := by
  cases r with
  | recordSwipe actor target action => exact .decided
  | forgetSwipes actor => exact .forgotten
  | openChat a b =>
    rw [answer]
    rcases t.openChat_cases now a b with ⟨-, ho⟩ | ⟨-, id, -, ho⟩ | ⟨hne, hnew, ho⟩ <;> rw [ho]
    · exact .idle ⟨rfl, rfl⟩
    · exact .idle ⟨rfl, rfl⟩
    · exact .opened hne hnew
  | openMatch a b content =>
    rw [answer]
    rcases t.openMatch_cases now a b content with ⟨-, ho⟩ | ⟨-, id, -, ho⟩ | ⟨hne, hnew, ho⟩ <;>
      rw [ho]
    · exact .idle ⟨rfl, rfl⟩
    · exact .idle ⟨rfl, rfl⟩
    · exact .matched hne hnew
  | append m =>
    rw [answer]
    rcases t.append_cases now m with ⟨-, ho⟩ | ⟨chat, -, -, ho⟩ | ⟨chat, hchat, hne, hof, ho⟩ <;>
      rw [ho]
    · exact .idle ⟨rfl, rfl⟩
    · exact .idle ⟨rfl, rfl⟩
    · exact .appended hchat hne hof
  | markAllRead chat reader => exact .marked ⟨rfl, rfl⟩ chat _
  | markSomeRead chat reader ids => exact .marked ⟨rfl, rfl⟩ chat _
  | _ => exact .idle ⟨rfl, rfl⟩

end Records

/-! ### Annals -/

/-- A request to the store and the time at which it is answered. -/
structure Deed where
  /-- When it is answered. -/
  now : Timestamp
  /-- What is asked. -/
  request : StoreRequest

/-- **The tables with their past**: how many chats were opened and how many messages stored since
they were empty. -/
structure Annals where
  /-- The tables. -/
  records : Records
  /-- How many chats were opened. -/
  opened : Nat
  /-- How many messages were stored. -/
  stored : Nat

namespace Annals

/-- Nothing has happened yet. -/
def empty : Annals :=
  ⟨.empty, 0, 0⟩

/-- The answer to a request, and the annals after it. -/
def answer (a : Annals) (now : Timestamp) (r : StoreRequest) :
    Except StoreError r.Answer × Annals :=
  let (reply, records) := a.records.answer now r
  (reply, ⟨records, a.opened + r.chatsOpened reply, a.stored + r.messagesStored reply⟩)

/-- The annals after requests that were answered one after another. -/
def after (a : Annals) (deeds : List Deed) : Annals :=
  deeds.foldl (fun a d => (a.answer d.now d.request).2) a

/-- The numbers of 64 bits have lasted so far. -/
def HasRoom (a : Annals) : Prop :=
  a.opened < 2 ^ 63 ∧ a.stored < 2 ^ 63

instance (a : Annals) : Decidable a.HasRoom :=
  inferInstanceAs (Decidable (_ ∧ _))

theorem after_append_singleton (a : Annals) (deeds : List Deed) (d : Deed) :
    a.after (deeds ++ [d]) = ((a.after deeds).answer d.now d.request).2 := by
  simp [after]

@[simp] theorem answer_records (a : Annals) (now : Timestamp) (r : StoreRequest) :
    (a.answer now r).2.records = (a.records.answer now r).2 := rfl

/-- What lasts after a request has lasted before it. -/
theorem HasRoom.of_answer {a : Annals} {now : Timestamp} {r : StoreRequest}
    (h : (a.answer now r).2.HasRoom) : a.HasRoom :=
  ⟨Nat.lt_of_le_of_lt (Nat.le_add_right ..) h.1, Nat.lt_of_le_of_lt (Nat.le_add_right ..) h.2⟩

end Annals

end Rendezvous
