import Mathlib.Data.List.Basic
import Rendezvous.Proofs.Store.Chronicle

/-!
# When the store refuses

The store refuses three things: to open a chat for one user alone, because of a match or not, and to
put a message into a chat that is not there or does not join its sender and its receiver
(`StoreRequest.Faulty`). Everything else is done. What is refused leaves the tables as they were,
with all their counters (`Annals.all_or_nothing`).

## Opening the chat of a match

A request that opens the chat of a match does two things, one after the other: the chat is filed,
and its first message is put into it. If the second one could be refused, a chat without its first
message would stay behind. It never is: a chat that was filed for two different users joins exactly
these two, whichever of them comes first (`Records.openMatch_of_openChat`). So whenever the answer
says that a chat was opened, the message is there, and it stays (`Annals.exists_seed`).

## How a chat joins two users

Whether a chat is that of two users is worked out with the two put in order. That is right because
every chat has its lesser user first, which is so in all tables that can come about, whether or not
the numbers of chats have lasted (`Annals.inOrder_through`).
-/

namespace Rendezvous

/-! ### The two users of a chat -/

namespace Chat

variable {chat : Chat} {a b : UserId}

/-- **A chat joins two users**: they are different, and they are its two users. -/
def Joins (chat : Chat) (a b : UserId) : Prop :=
  a ≠ b ∧ ((chat.user1 = a ∧ chat.user2 = b) ∨ (chat.user1 = b ∧ chat.user2 = a))

theorem orderedPair_users (h : chat.user1 < chat.user2) :
    orderedPair chat.user1 chat.user2 = (chat.user1, chat.user2) :=
  if_pos (Int64.le_of_lt h)

/-- A chat with its lesser user first is that of the two users whom it joins. -/
theorem joins_iff (h : chat.user1 < chat.user2) :
    chat.Joins a b ↔ a ≠ b ∧ chat.isOf a b = true := by
  refine and_congr_right fun _ => ?_
  rw [isOf, beq_iff_eq, ← orderedPair_users h, orderedPair_eq_iff]
  constructor
  · rintro (⟨rfl, rfl⟩ | ⟨rfl, rfl⟩)
    · exact Or.inl ⟨rfl, rfl⟩
    · exact Or.inr ⟨rfl, rfl⟩
  · rintro (⟨rfl, rfl⟩ | ⟨rfl, rfl⟩)
    · exact Or.inl ⟨rfl, rfl⟩
    · exact Or.inr ⟨rfl, rfl⟩

/-- A user faces another one in a chat that joins the two. -/
theorem other?_eq_some_iff (h : chat.user1 < chat.user2) :
    chat.other? a = some b ↔ chat.Joins a b := by
  have hne : chat.user1 ≠ chat.user2 := Int64.ne_of_lt h
  unfold other? Joins
  constructor
  · intro hother
    split at hother
    · next he =>
      obtain rfl := Option.some.inj hother
      exact ⟨he ▸ hne, Or.inl ⟨he, rfl⟩⟩
    · split at hother
      · next he =>
        obtain rfl := Option.some.inj hother
        exact ⟨he ▸ hne.symm, Or.inr ⟨rfl, he⟩⟩
      · exact absurd hother (by simp)
  · rintro ⟨-, ⟨rfl, rfl⟩ | ⟨rfl, rfl⟩⟩
    · exact if_pos rfl
    · exact (if_neg hne).trans (if_pos rfl)

theorem Joins.hasMember (h : chat.Joins a b) : chat.hasMember a = true := by
  unfold Chat.hasMember
  rcases h.2 with ⟨rfl, -⟩ | ⟨-, rfl⟩
  · rw [beq_self_eq_true, Bool.true_or]
  · rw [beq_self_eq_true, Bool.or_true]

/-- Whoever takes part in a chat faces somebody there. -/
theorem exists_joins (h : chat.user1 < chat.user2) (ha : chat.hasMember a = true) :
    ∃ b, chat.Joins a b := by
  rw [← isSome_other?, Option.isSome_iff_exists] at ha
  obtain ⟨b, hb⟩ := ha
  exact ⟨b, (other?_eq_some_iff h).1 hb⟩

end Chat

/-! ### Refusals -/

/-- **What the store refuses, and why.** -/
inductive StoreRequest.Faulty (t : Records) : StoreRequest → StoreError → Prop where
  /-- A chat for one user alone. -/
  | openChat (a : UserId) : Faulty t (.openChat a a) (.selfChat a)
  /-- The chat of a match of one user alone. -/
  | openMatch (a : UserId) (content : String) : Faulty t (.openMatch a a content) (.selfChat a)
  /-- A message to a chat that is not there. -/
  | noChat {m : PendingMessage} (hnone : t.chats.get? m.chat = none) :
      Faulty t (.append m) (.noChat m.chat)
  /-- A message to a chat that does not join its sender and its receiver. -/
  | notJoined {m : PendingMessage} {chat : Chat} (hchat : t.chats.get? m.chat = some chat)
      (hjoins : ¬chat.Joins m.sender m.receiver) :
      Faulty t (.append m) (.notConnected m.chat m.sender m.receiver)

namespace Records

variable {t : Records} {now : Timestamp} {r : StoreRequest} {e : StoreError}
variable {a b : UserId} {id : ChatId}

/-- Every chat has its lesser user first. -/
def InOrder (t : Records) : Prop :=
  ∀ id chat, t.chats.get? id = some chat → chat.user1 < chat.user2

theorem InOrder.filed (h : t.InOrder) (hne : a ≠ b) : (t.filed now (orderedPair a b)).InOrder := by
  intro id chat hchat
  rw [Records.filed, Table.get?_insert] at hchat
  split at hchat
  · obtain rfl := Option.some.inj hchat
    exact orderedPair_lt hne
  · exact h id chat hchat

/-- **Every request keeps the users of chats in order.** -/
theorem InOrder.answer (h : t.InOrder) (now : Timestamp) (r : StoreRequest) :
    (t.answer now r).2.InOrder := by
  have heffect := t.answer_effect now r
  generalize t.answer now r = out at heffect ⊢
  cases heffect with
  | marked hquiet chat p =>
    obtain ⟨logs, he, -⟩ := markWhere_eq t chat p
    rw [he]
    exact h
  | opened hne hnew => exact h.filed hne
  | matched hne hnew => exact h.filed hne
  | _ => exact h

/-- **What is refused** leaves the tables as they are. -/
theorem answer_of_faulty (h : t.InOrder) (hfault : r.Faulty t e) (now : Timestamp) :
    t.answer now r = (.error e, t) := by
  cases hfault with
  | openChat a =>
    rcases t.openChat_cases now a a with ⟨-, ho⟩ | ⟨hne, -⟩ | ⟨hne, -⟩
    · exact ho
    · exact absurd rfl hne
    · exact absurd rfl hne
  | openMatch a content =>
    rcases t.openMatch_cases now a a content with ⟨-, ho⟩ | ⟨hne, -⟩ | ⟨hne, -⟩
    · exact ho
    · exact absurd rfl hne
    · exact absurd rfl hne
  | @noChat m hnone =>
    rcases t.append_cases now m with ⟨-, ho⟩ | ⟨chat, hchat, -⟩ | ⟨chat, hchat, -⟩
    · exact ho
    · exact absurd (hnone.symm.trans hchat) (by simp)
    · exact absurd (hnone.symm.trans hchat) (by simp)
  | @notJoined m chat hchat hjoins =>
    rcases t.append_cases now m with ⟨hnone, -⟩ | ⟨_, -, -, ho⟩ | ⟨chat', hchat', hne, hof, -⟩
    · exact absurd (hnone.symm.trans hchat) (by simp)
    · exact ho
    · obtain rfl : chat = chat' := Option.some.inj (hchat.symm.trans hchat')
      exact absurd ((Chat.joins_iff (h _ _ hchat)).2 ⟨hne, hof⟩) hjoins

/-- **What is not refused is done.** -/
theorem answered_or_faulty (h : t.InOrder) (now : Timestamp) (r : StoreRequest) :
    (∃ answer, (t.answer now r).1 = .ok answer) ∨ ∃ e, r.Faulty t e := by
  cases r with
  | openChat a b =>
    rcases t.openChat_cases now a b with ⟨rfl, -⟩ | ⟨-, id, -, ho⟩ | ⟨-, -, ho⟩
    · exact Or.inr ⟨_, .openChat a⟩
    · exact Or.inl ⟨_, congrArg Prod.fst ho⟩
    · exact Or.inl ⟨_, congrArg Prod.fst ho⟩
  | openMatch a b content =>
    rcases t.openMatch_cases now a b content with ⟨rfl, -⟩ | ⟨-, id, -, ho⟩ | ⟨-, -, ho⟩
    · exact Or.inr ⟨_, .openMatch a content⟩
    · exact Or.inl ⟨_, congrArg Prod.fst ho⟩
    · exact Or.inl ⟨_, congrArg Prod.fst ho⟩
  | append m =>
    rcases t.append_cases now m with ⟨hnone, -⟩ | ⟨chat, hchat, hbad, -⟩ | ⟨chat, -, -, -, ho⟩
    · exact Or.inr ⟨_, .noChat hnone⟩
    · refine Or.inr ⟨_, .notJoined hchat fun hjoins => ?_⟩
      obtain ⟨hne, hof⟩ := (Chat.joins_iff (h _ _ hchat)).1 hjoins
      rcases hbad with he | hnot
      · exact hne he
      · exact absurd (hof.symm.trans hnot) (by simp)
    · exact Or.inl ⟨_, congrArg Prod.fst ho⟩
  | _ => exact Or.inl ⟨_, rfl⟩

/-- **The store refuses exactly what is faulty**, and says why. -/
theorem answer_eq_error_iff (h : t.InOrder) : (t.answer now r).1 = .error e ↔ r.Faulty t e := by
  refine ⟨fun herror => ?_, fun hfault => congrArg Prod.fst (answer_of_faulty h hfault now)⟩
  rcases answered_or_faulty h now r with ⟨answer, hok⟩ | ⟨e', hfault⟩
  · exact absurd (hok.symm.trans herror) (by simp)
  · have he := congrArg Prod.fst (answer_of_faulty h hfault now)
    obtain rfl : e' = e := Except.error.inj (he.symm.trans herror)
    exact hfault

/-! ### The first message of a match -/

/-- **A chat that is opened because of a match gets its first message**, in whichever order its two
users are named. -/
theorem openMatch_of_openChat (h : (t.openChat now a b).1 = .ok (id, true)) (content : String) :
    ∃ seed, (t.openChat now a b).2.append now ⟨id, a, b, content, .system⟩ =
        (.ok seed, (t.openMatch now a b content).2) ∧
      (t.openMatch now a b content).1 = .ok (id, true) := by
  rcases t.openChat_cases now a b with ⟨-, ho⟩ | ⟨-, id', -, ho⟩ | ⟨hne, hnew, ho⟩ <;> rw [ho] at h
  · exact absurd h (by simp)
  · exact absurd h (by simp)
  · obtain rfl : t.lastChat + 1 = id := by simpa using h
    rcases t.openMatch_cases now a b content with ⟨he, -⟩ | ⟨-, id, hid, -⟩ | ⟨-, -, hm⟩
    · exact absurd he hne
    · exact absurd (hnew.symm.trans hid) (by simp)
    · rw [ho, hm]
      exact ⟨_, t.append_filed hne now now content .system, rfl⟩

end Records

namespace Annals

variable {events : List StoreEvent}

/-- **In every history the users of chats are in order.** -/
theorem inOrder_through (events : List StoreEvent) : (empty.through events).records.InOrder := by
  induction events using List.reverseRecOn with
  | nil => exact fun id chat h => absurd h (by simp [empty, Records.empty])
  | append_singleton events e ih =>
    rw [through_concat]
    cases e with
    | asked d => exact ih.answer d.now d.request
    | granted token user => exact ih

/-- The message is the first one of a chat that was opened because of a match. -/
structure IsSeed (id : ChatId) (actor target : UserId) (content : String) (seed : Message) :
    Prop where
  /-- It belongs to the chat. -/
  chat : seed.chat = id
  /-- It goes from the user who decided last. -/
  sender : seed.sender = actor
  /-- It goes to the other one. -/
  receiver : seed.receiver = target
  /-- It says what was asked for. -/
  content : seed.content = content
  /-- It is from the service. -/
  kind : seed.kind = .system

/-- **The first message of a match is there**, from the moment when the chat is opened on; as long
as the numbers last, it is the first one of its log. -/
theorem exists_seed {a : Annals} {now : Timestamp} {actor target : UserId} {content : String}
    {id : ChatId} (h : (a.answer now (.openMatch actor target content)).1 = .ok (id, true))
    (later : List StoreEvent) :
    ∃ seed ∈ ((a.answer now (.openMatch actor target content)).2.through later).records.log id,
      IsSeed id actor target content seed ∧
      (a.Kept → ((a.answer now (.openMatch actor target content)).2.through later).HasRoom →
        (((a.answer now (.openMatch actor target content)).2.through later).records.log id).head? =
          some seed) := by
  obtain ⟨hid, hlog⟩ := Records.log_openMatch h
  have hopened : (a.answer now (.openMatch actor target content)).2.opened = a.opened + 1 := by
    change a.opened + StoreRequest.chatsOpened _
      (a.answer now (.openMatch actor target content)).1 = a.opened + 1
    rw [h]
    rfl
  generalize hnext : (a.answer now (.openMatch actor target content)).2 = next at hopened
  rw [show (a.records.openMatch now actor target content).2 = next.records from
    congrArg Annals.records hnext] at hlog
  -- what stood in the log, with the message at its end, is at most marked read later
  obtain ⟨p, rest, hafter, -⟩ := continues_through next later id
  rw [hlog, List.map_append, List.map_singleton] at hafter
  refine ⟨_, hafter ▸ List.mem_append_left _ (List.mem_append_right _ List.mem_cons_self),
    ⟨hid.symm, rfl, rfl, rfl, rfl⟩, fun hkept hroom => ?_⟩
  have hfree : a.opened + 1 < 2 ^ 63 := hopened ▸ hroom.of_through.1
  have hempty : a.records.log id = [] := hid ▸ hkept.sound.log_next hkept.chats hfree
  rw [hafter, hempty]
  rfl

/-- **The store does a thing as a whole or not at all.** -/
structure AllOrNothing (events : List StoreEvent) : Prop where
  /-- It refuses exactly what is faulty: a chat for one user alone, and a message to a chat that is
  not there or does not join the two. -/
  refuses : ∀ now r e,
    ((empty.through events).records.answer now r).1 = .error e ↔
      r.Faulty (empty.through events).records e
  /-- What is refused leaves all tables and counters as they are. -/
  untouched : ∀ now r e, ((empty.through events).records.answer now r).1 = .error e →
    ((empty.through events).records.answer now r).2 = (empty.through events).records
  /-- Where a chat can be opened, the chat of a match can be: its first message is not refused. -/
  seeded : ∀ now a b content id,
    ((empty.through events).records.answer now (.openChat a b)).1 = .ok (id, true) →
    ((empty.through events).records.answer now (.openMatch a b content)).1 = .ok (id, true) ∧
      ∃ seed, ((empty.through events).records.answer now (.openChat a b)).2.answer now
          (.append ⟨id, a, b, content, .system⟩) =
        (.ok seed, ((empty.through events).records.answer now (.openMatch a b content)).2)
  /-- Every chat that was opened because of a match has its first message. -/
  seed : ∀ before later now a b content id,
    events = before ++ .asked ⟨now, .openMatch a b content⟩ :: later →
    ((empty.through before).records.answer now (.openMatch a b content)).1 = .ok (id, true) →
    ∃ seed ∈ (empty.through events).records.log id, IsSeed id a b content seed ∧
      ((empty.through events).HasRoom →
        ((empty.through events).records.log id).head? = some seed)

/-- **After every history, the store does each thing as a whole or not at all.** -/
theorem all_or_nothing (events : List StoreEvent) : AllOrNothing events where
  refuses now r e := Records.answer_eq_error_iff (inOrder_through events)
  untouched now r e h := by
    have hin := inOrder_through events
    have hfault := (Records.answer_eq_error_iff hin).1 h
    rw [Records.answer_of_faulty hin hfault]
  seeded now a b content id h := by
    obtain ⟨seed, happ, hopen⟩ := Records.openMatch_of_openChat h content
    exact ⟨hopen, seed, happ⟩
  seed before later now a b content id he h := by
    subst he
    rw [through_append]
    obtain ⟨seed, hmem, hseed, hfirst⟩ := exists_seed (a := empty.through before) h later
    exact ⟨seed, hmem, hseed, fun hroom => hfirst (kept_through (HasRoom.of_through hroom)) hroom⟩

end Annals

end Rendezvous
