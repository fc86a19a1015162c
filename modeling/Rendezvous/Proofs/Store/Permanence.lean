import Rendezvous.Proofs.Store.Growth

/-!
# What an answer of the store stands for

An answer says something about the tables: a message was stored, the chat of a match was opened,
there is a chat, these messages were unread and are read now. Each of these was true when the store
answered, and each stays true, since nothing is ever taken out of the tables or put in the place of
something else: a chat stays as it is, and of a log there remains all that stood in it, at most
marked read (`Records.Extends`).

`StoreRequest.Vouches` says for each request what its answer stands for. It is true right after the
answer (`Annals.Kept.vouches`), and in all tables to which these can grow
(`StoreRequest.Vouches.later`).
-/

namespace Rendezvous

namespace Records

variable {t t' t'' : Records} {now : Timestamp}

/-! ### Tables that have grown -/

/-- **The tables have grown**: the chats are as they were, and the logs begin with what stood in
them, some of it marked read. -/
structure Extends (t t' : Records) : Prop where
  /-- A chat stays as it is. -/
  chat : ∀ id chat, t.chats.get? id = some chat → t'.chats.get? id = some chat
  /-- A log begins with what stood in it. -/
  log : ∀ id, ∃ p, (t.log id).map (marked p) <+: t'.log id

theorem map_marked_false (l : List Message) : l.map (marked fun _ => false) = l := by
  have hid : (marked fun _ => false) = id := funext fun m => by simp [marked]
  rw [hid, List.map_id]

theorem marked_marked (p q : Message → Bool) (m : Message) :
    marked q (marked p m) = marked (fun m => p m || q (marked p m)) m := by
  simp [marked, Bool.or_assoc]

theorem Extends.refl (t : Records) : t.Extends t where
  chat _ _ h := h
  log id := ⟨fun _ => false, [], by rw [List.append_nil, map_marked_false]⟩

theorem Extends.trans (h : t.Extends t') (h' : t'.Extends t'') : t.Extends t'' where
  chat id chat hc := h'.chat id chat (h.chat id chat hc)
  log id := by
    obtain ⟨p, hp⟩ := h.log id
    obtain ⟨q, hq⟩ := h'.log id
    refine ⟨fun m => p m || q (marked p m), ?_⟩
    have he : (t.log id).map (marked fun m => p m || q (marked p m)) =
        ((t.log id).map (marked p)).map (marked q) := by
      simp [marked_marked]
    rw [he]
    exact (hp.map (marked q)).trans hq

/-- A message stays, and so does everything that it says. -/
theorem Extends.mem (h : t.Extends t') {id : ChatId} {m : Message} (hm : m ∈ t.log id) :
    ∃ p, marked p m ∈ t'.log id := by
  obtain ⟨p, hp⟩ := h.log id
  exact ⟨p, hp.subset (List.mem_map_of_mem hm)⟩

/-- The first message of a log stays the first one. -/
theorem Extends.head? (h : t.Extends t') {id : ChatId} {m : Message}
    (hm : (t.log id).head? = some m) : ∃ p, (t'.log id).head? = some (marked p m) := by
  obtain ⟨p, rest, he⟩ := h.log id
  refine ⟨p, ?_⟩
  rw [← he, List.head?_append, List.head?_map, hm]
  rfl

/-! ### The ways in which the tables grow -/

theorem extends_withSwipes (swipes : Table (UserId × UserId) Swipe) :
    t.Extends { t with swipes := swipes } :=
  ⟨fun _ _ hc => hc, (Extends.refl t).log⟩

theorem extends_filed (hnext : t.chats.get? (t.lastChat + 1) = none) (pair : UserId × UserId) :
    t.Extends (t.filed now pair) where
  chat id chat hc := by
    rwa [Sound.chats_filed_of_ne]
    rintro rfl
    rw [hnext] at hc
    exact absurd hc (by simp)
  log := (Extends.refl t).log

theorem extends_stored (m : PendingMessage) : t.Extends (t.stored now m) where
  chat _ _ hc := hc
  log id := by
    refine ⟨fun _ => false, ?_⟩
    rw [map_marked_false, log_stored]
    split
    · next he =>
      subst he
      exact List.prefix_append ..
    · exact List.prefix_rfl

theorem extends_markWhere (chat : ChatId) (p : Message → Bool) :
    t.Extends (t.markWhere chat p).2 where
  chat id c hc := by
    obtain ⟨logs, he, -⟩ := markWhere_eq t chat p
    rwa [he]
  log id := by
    rcases log_markWhere_cases (t := t) chat id p with he | ⟨q, he⟩ <;> rw [he]
    · exact (Extends.refl t).log id
    · exact ⟨q, List.prefix_rfl⟩

end Records

namespace Annals

variable {a : Annals} {now : Timestamp}

/-- **Every request only makes the tables grow**, as long as the numbers last. -/
theorem Kept.answer_extends (h : a.Kept) (r : StoreRequest) (hroom : (a.answer now r).2.HasRoom) :
    a.records.Extends (a.answer now r).2.records := by
  have heffect := a.records.answer_effect now r
  unfold Annals.answer at hroom ⊢
  generalize a.records.answer now r = out at heffect hroom ⊢
  cases heffect with
  | idle hquiet => exact .refl _
  | decided => exact Records.extends_withSwipes _
  | forgotten => exact Records.extends_withSwipes _
  | marked hquiet chat p => exact Records.extends_markWhere chat p
  | opened hne hnew => exact Records.extends_filed (h.sound.get?_next h.chats hroom.1) _
  | matched hne hnew =>
    exact (Records.extends_filed (h.sound.get?_next h.chats hroom.1) _).trans
      (Records.extends_stored _)
  | appended hchat hne hof => exact Records.extends_stored _

end Annals

/-! ### What an answer stands for -/

namespace StoreRequest

/-- **What an answer stands for.** -/
def Vouches (t : Records) : (r : StoreRequest) → r.Answer → Prop
  | .append m, stored =>
    stored.sender = m.sender ∧ stored.receiver = m.receiver ∧ stored.kind = m.kind ∧
      ∃ p, Records.marked p stored ∈ t.log m.chat
  | .openMatch actor target content, (id, created) =>
    created = true → (∃ chat, t.chats.get? id = some chat ∧ chat.isOf actor target = true) ∧
      ∃ seed, (t.log id).head? = some seed ∧ seed.kind = .system ∧ seed.content = content
  | .chat id, found => ∀ chat, found = some chat → t.chats.get? id = some chat
  | .markSomeRead id reader _, numbers =>
    ∀ n ∈ numbers, ∃ m ∈ t.log id, m.id = n ∧ m.receiver = reader ∧ m.isRead = true
  | _, _ => True

/-- **What an answer stands for stays true.** -/
theorem Vouches.later {t t' : Records} (hext : t.Extends t') {r : StoreRequest} {answer : r.Answer}
    (h : r.Vouches t answer) : r.Vouches t' answer := by
  cases r with
  | append m =>
    obtain ⟨hsender, hreceiver, hkind, p, hp⟩ := h
    obtain ⟨q, hq⟩ := hext.mem hp
    rw [Records.marked_marked] at hq
    exact ⟨hsender, hreceiver, hkind, _, hq⟩
  | openMatch actor target content =>
    intro hcreated
    obtain ⟨⟨chat, hchat, hof⟩, seed, hseed, hkind, hcontent⟩ := h hcreated
    obtain ⟨p, hp⟩ := hext.head? hseed
    exact ⟨⟨chat, hext.chat _ chat hchat, hof⟩, _, hp, hkind, hcontent⟩
  | chat id => exact fun chat hfound => hext.chat id chat (h chat hfound)
  | markSomeRead id reader ids =>
    intro n hn
    obtain ⟨m, hm, hid, hreceiver, hread⟩ := h n hn
    obtain ⟨p, hp⟩ := hext.mem hm
    exact ⟨_, hp, hid, hreceiver, by simp [Records.marked, hread]⟩
  | _ => trivial

end StoreRequest

namespace Records

variable {t : Records} {now : Timestamp}

/-- A message that was stored stands at the end of the log. -/
theorem vouches_append {m : PendingMessage} {stored : Message}
    (hok : (t.append now m).1 = .ok stored) :
    StoreRequest.Vouches (t.append now m).2 (.append m) stored := by
  rcases t.append_cases now m with ⟨-, ho⟩ | ⟨_, -, -, ho⟩ | ⟨_, -, -, -, ho⟩ <;> rw [ho] at hok ⊢
  · exact absurd hok (by simp)
  · exact absurd hok (by simp)
  · obtain rfl := Except.ok.inj hok
    refine ⟨rfl, rfl, rfl, fun _ => false, ?_⟩
    rw [log_stored_self]
    simp [marked]

/-- The chat of a match that was opened belongs to its two users, and begins with the greeting. -/
theorem vouches_openMatch (h : t.Sound) {n : Nat} (hn : t.lastChat.toInt = n)
    (hroom : n + 1 < 2 ^ 63) {a b : UserId} {content : String} {id : ChatId}
    (hok : (t.openMatch now a b content).1 = .ok (id, true)) :
    StoreRequest.Vouches (t.openMatch now a b content).2 (.openMatch a b content) (id, true) := by
  intro _
  rcases t.openMatch_cases now a b content with ⟨-, ho⟩ | ⟨-, _, -, ho⟩ | ⟨-, -, ho⟩ <;>
    rw [ho] at hok ⊢
  · exact absurd hok (by simp)
  · exact absurd hok (by simp)
  · obtain rfl : t.lastChat + 1 = id := by simpa using hok
    refine ⟨⟨_, get?_filed_self t now (orderedPair a b), by simp [Chat.isOf]⟩, ?_⟩
    -- the log is empty before the greeting, since the number of the chat is a new one
    have hlog : (t.filed now (orderedPair a b)).log (t.lastChat + 1) = [] := h.log_next hn hroom
    rw [show t.lastChat + 1 = (t.greeting a b content).chat from rfl, log_stored_self]
    exact ⟨_, congrArg List.head? (congrArg (· ++ [_]) hlog), rfl, rfl⟩

/-- The messages that are marked read are read afterwards. -/
theorem mem_log_markWhere_of_mem {chat : ChatId} {p : Message → Bool} {n : MessageId}
    (hn : n ∈ (t.markWhere chat p).1) :
    ∃ m, marked p m ∈ (t.markWhere chat p).2.log chat ∧ m.id = n ∧ p m = true := by
  have hlog := log_markWhere (t := t) chat chat p
  rw [if_pos rfl] at hlog
  rw [hlog]
  unfold markWhere at hn
  cases hl : t.logs.get? chat with
  | none => simp [hl] at hn
  | some l =>
    simp only [hl] at hn
    obtain ⟨m, hm, rfl⟩ := List.mem_map.1 hn
    obtain ⟨hm, hp⟩ := List.mem_filter.1 hm
    have hm' : m ∈ t.log chat := by simpa [log, hl] using hm
    exact ⟨m, List.mem_map_of_mem hm', rfl, hp⟩

/-- The messages that a reader was told to have read are read, and were sent to this reader. -/
theorem vouches_markSomeRead {id : ChatId} {reader : UserId} {ids : List MessageId} :
    StoreRequest.Vouches (t.markSomeRead id reader ids).2 (.markSomeRead id reader ids)
      (t.markSomeRead id reader ids).1 := by
  intro n hn
  obtain ⟨m, hm, hid, hp⟩ := mem_log_markWhere_of_mem hn
  have hreceiver : m.receiver = reader := by
    simp only [isUnreadBy, Bool.and_eq_true, beq_iff_eq] at hp
    exact hp.1.1
  exact ⟨_, hm, hid, hreceiver, by simp only [marked, hp, Bool.or_true]⟩

end Records

namespace Annals

variable {a : Annals} {now : Timestamp}

/-- **An answer is true when it is given**, as long as the numbers last. -/
theorem Kept.vouches (h : a.Kept) {r : StoreRequest} {answer : r.Answer}
    (hanswer : (a.answer now r).1 = .ok answer) (hroom : (a.answer now r).2.HasRoom) :
    r.Vouches (a.answer now r).2.records answer := by
  change (a.records.answer now r).1 = .ok answer at hanswer
  rw [answer_records]
  cases r with
  | append m => exact Records.vouches_append hanswer
  | openMatch actor target content =>
    obtain ⟨id, created⟩ := answer
    cases created with
    | false => exact fun hcreated => absurd hcreated (by simp)
    | true =>
      have hnext : a.opened + 1 < 2 ^ 63 := by
        have hopened := hroom.1
        change a.opened + StoreRequest.chatsOpened _ (a.records.answer now _).1 < 2 ^ 63 at hopened
        rwa [hanswer] at hopened
      exact Records.vouches_openMatch h.sound h.chats hnext hanswer
  | chat id =>
    obtain rfl := Except.ok.inj hanswer
    exact fun chat hchat => hchat
  | markSomeRead id reader ids =>
    obtain rfl := Except.ok.inj hanswer
    exact Records.vouches_markSomeRead
  | _ => trivial

end Annals

end Rendezvous
