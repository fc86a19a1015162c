import Rendezvous.Proofs.Store.ChatList

/-!
# What a user can see of the tables

A user can see the chats in which the user takes part, and the counters, in so far as a chat or a
message that is made by the user gets the next number. Two states of the tables that agree in this
(`Records.Agree`) are the same to the user: every request that the user may make is answered alike,
and they agree again afterwards (`Records.Agree.answer`). What there is beside, the chats of others
with their logs, stays exactly as it was (`Records.Leaves`, `Records.leaves_answer`).

The requests that a user may make are those that speak of the user's own chats (`Records.Own`). To
ask for a chat by its number is not always one of them, since the store shows a chat to everybody who
knows its number.
-/

namespace Rendezvous.Records

variable {t t' t'' : Records} {user : UserId} {now : Timestamp}

/-- The user takes part in a chat of this number. -/
def HasChat (t : Records) (user : UserId) (id : ChatId) : Prop :=
  ∃ chat, t.chats.get? id = some chat ∧ chat.hasMember user = true

/-- **Two states of the tables are the same to a user**: they agree on the counters, and on the chats
of the user with their pairs and logs. -/
structure Agree (user : UserId) (t t' : Records) : Prop where
  /-- The next chat gets the same number. -/
  lastChat : t.lastChat = t'.lastChat
  /-- The next message gets the same number. -/
  lastMessage : t.lastMessage = t'.lastMessage
  /-- The chats of the user are the same. -/
  chat : ∀ id chat, chat.hasMember user = true →
    (t.chats.get? id = some chat ↔ t'.chats.get? id = some chat)
  /-- The pairs of the user have the same chats. -/
  pair : ∀ other, t.chatOfPair.get? (orderedPair user other) =
    t'.chatOfPair.get? (orderedPair user other)
  /-- The chats of the user have the same logs. -/
  log : ∀ id, t.HasChat user id → t.log id = t'.log id

/-- **The chats of others are left alone**: there are the same ones, with the same pairs and logs. -/
structure Leaves (user : UserId) (t t' : Records) : Prop where
  /-- The chats of others are the same. -/
  chat : ∀ id chat, chat.hasMember user = false →
    (t.chats.get? id = some chat ↔ t'.chats.get? id = some chat)
  /-- The pairs of others have the same chats. -/
  pair : ∀ x y, x ≠ user → y ≠ user →
    t.chatOfPair.get? (x, y) = t'.chatOfPair.get? (x, y)
  /-- The chats of others have the same logs. -/
  log : ∀ id chat, t.chats.get? id = some chat → chat.hasMember user = false → t.log id = t'.log id

theorem Agree.refl (user : UserId) (t : Records) : t.Agree user t :=
  ⟨rfl, rfl, fun _ _ _ => Iff.rfl, fun _ => rfl, fun _ _ => rfl⟩

theorem Leaves.refl (user : UserId) (t : Records) : t.Leaves user t :=
  ⟨fun _ _ _ => Iff.rfl, fun _ _ _ _ => rfl, fun _ _ _ _ => rfl⟩

theorem Leaves.trans (h : t.Leaves user t') (h' : t'.Leaves user t'') : t.Leaves user t'' where
  chat id chat huser := (h.chat id chat huser).trans (h'.chat id chat huser)
  pair x y hx hy := (h.pair x y hx hy).trans (h'.pair x y hx hy)
  log id chat hc huser :=
    (h.log id chat hc huser).trans (h'.log id chat ((h.chat id chat huser).1 hc) huser)

/-- A chat of the user is not one of others. -/
theorem HasChat.hasMember {id : ChatId} {chat : Chat} (h : t.HasChat user id)
    (hc : t.chats.get? id = some chat) : chat.hasMember user = true := by
  obtain ⟨chat', hc', huser⟩ := h
  obtain rfl := Option.some.inj (hc.symm.trans hc')
  exact huser

/-! ### A chat is filed -/

theorem hasMember_orderedPair (id : ChatId) (user other : UserId) (since : Timestamp) :
    Chat.hasMember ⟨id, (orderedPair user other).1, (orderedPair user other).2, since⟩ user = true := by
  unfold Chat.hasMember orderedPair
  split <;> simp

theorem orderedPair_ne {x y other : UserId} (hx : x ≠ user) (hy : y ≠ user) :
    (x, y) ≠ orderedPair user other := by
  unfold orderedPair
  split <;> simp [hx, hy]

theorem Agree.filed (h : t.Agree user t') (hlog : t.log (t.lastChat + 1) = [])
    (hlog' : t'.log (t'.lastChat + 1) = []) (other : UserId) :
    (t.filed now (orderedPair user other)).Agree user (t'.filed now (orderedPair user other)) where
  lastChat := congrArg (· + 1) h.lastChat
  lastMessage := h.lastMessage
  chat id chat huser := by
    simp only [Records.filed, Table.get?_insert, h.lastChat]
    split
    · exact Iff.rfl
    · exact h.chat id chat huser
  pair other' := by
    simp only [Records.filed, Table.get?_insert, h.lastChat]
    split
    · rfl
    · exact h.pair other'
  log id hid := by
    change t.log id = t'.log id
    by_cases he : id = t.lastChat + 1
    · rw [he, hlog, h.lastChat, hlog']
    · obtain ⟨chat, hc, huser⟩ := hid
      rw [Sound.chats_filed_of_ne he] at hc
      exact h.log id ⟨chat, hc, huser⟩

theorem leaves_filed (hnext : t.chats.get? (t.lastChat + 1) = none) (other : UserId) :
    t.Leaves user (t.filed now (orderedPair user other)) where
  chat id chat huser := by
    by_cases he : id = t.lastChat + 1
    · subst he
      rw [hnext, get?_filed_self]
      refine ⟨fun h => absurd h (by simp), fun h => ?_⟩
      obtain rfl := Option.some.inj h
      exact absurd huser (by simp [hasMember_orderedPair])
    · rw [Sound.chats_filed_of_ne he]
  pair x y hx hy := by
    simp only [Records.filed, Table.get?_insert, if_neg (orderedPair_ne hx hy)]
  log _ _ _ _ := rfl

/-! ### A log is changed -/

/-- A log may become another one, if it becomes the same in both. -/
theorem Agree.withLogs (h : t.Agree user t') {n n' : MessageId}
    {logs logs' : Table ChatId (List Message)} (hn : n = n') (id : ChatId)
    (f : List Message → List Message)
    (hlog : ∀ c, ({ t with lastMessage := n, logs := logs } : Records).log c =
      if c = id then f (t.log c) else t.log c)
    (hlog' : ∀ c, ({ t' with lastMessage := n', logs := logs' } : Records).log c =
      if c = id then f (t'.log c) else t'.log c) :
    ({ t with lastMessage := n, logs := logs } : Records).Agree user
      { t' with lastMessage := n', logs := logs' } where
  lastChat := h.lastChat
  lastMessage := hn
  chat := h.chat
  pair := h.pair
  log c hc := by
    have he : t.log c = t'.log c := h.log c hc
    rw [hlog, hlog', he]

/-- Changing the log of a chat of the user leaves the others alone. -/
theorem leaves_withLogs {n : MessageId} {logs : Table ChatId (List Message)} {id : ChatId}
    (hid : t.HasChat user id)
    (hlog : ∀ c, c ≠ id → ({ t with lastMessage := n, logs := logs } : Records).log c = t.log c) :
    t.Leaves user { t with lastMessage := n, logs := logs } where
  chat _ _ _ := Iff.rfl
  pair _ _ _ _ := rfl
  log c chat hc huser := by
    refine (hlog c ?_).symm
    rintro rfl
    exact absurd (hid.hasMember hc) (by simp [huser])

theorem Agree.stored (h : t.Agree user t') (m : PendingMessage) :
    (t.stored now m).Agree user (t'.stored now m) := by
  have hnext : t'.nextMessage now m = t.nextMessage now m := by
    unfold nextMessage
    rw [h.lastMessage]
  have hlog : ∀ c, (t.stored now m).log c = _ := log_stored m
  have hlog' : ∀ c, (t'.stored now m).log c = _ := log_stored m
  refine h.withLogs (congrArg (· + 1) h.lastMessage) m.chat (· ++ [t.nextMessage now m])
    (fun c => (hlog c).trans ?_) fun c => (hlog' c).trans ?_
  · split
    · next he => rw [he]
    · rfl
  · rw [hnext]
    split
    · next he => rw [he]
    · rfl

theorem leaves_stored {m : PendingMessage} (hid : t.HasChat user m.chat) :
    t.Leaves user (t.stored now m) :=
  leaves_withLogs hid fun _ hne => log_stored_of_ne hne

theorem Agree.markWhere (h : t.Agree user t') (id : ChatId) (p : Message → Bool) :
    (t.markWhere id p).2.Agree user (t'.markWhere id p).2 := by
  have hlog := fun c => log_markWhere (t := t) id c p
  have hlog' := fun c => log_markWhere (t := t') id c p
  obtain ⟨logs, he, -⟩ := markWhere_eq t id p
  obtain ⟨logs', he', -⟩ := markWhere_eq t' id p
  rw [he] at hlog ⊢
  rw [he'] at hlog' ⊢
  exact h.withLogs h.lastMessage id (List.map (marked p)) hlog hlog'

theorem leaves_markWhere {id : ChatId} (hid : t.HasChat user id) (p : Message → Bool) :
    t.Leaves user (t.markWhere id p).2 := by
  have hlog := fun c => log_markWhere (t := t) id c p
  obtain ⟨logs, he, -⟩ := markWhere_eq t id p
  rw [he] at hlog ⊢
  exact leaves_withLogs hid fun c hne => (hlog c).trans (if_neg hne)

/-! ### What a user may ask -/

/-- **A user may ask the store** for the user's own chats. -/
def Own (t : Records) (user : UserId) : StoreRequest → Prop
  | .openChat a _ => a = user
  | .chatsOf a => a = user
  | .append m => t.HasChat user m.chat
  | .page id _ => t.HasChat user id
  | .markAllRead id _ => t.HasChat user id
  | .markSomeRead id _ _ => t.HasChat user id
  | _ => False

/-- The chat of a pair, opened if there is none. -/
theorem openChat_eq (t : Records) (now : Timestamp) (a b : UserId) :
    t.openChat now a b = if a = b then (.error (.selfChat a), t) else
      match t.chatOfPair.get? (orderedPair a b) with
      | some id => (.ok (id, false), t)
      | none => (.ok (t.lastChat + 1, true), t.filed now (orderedPair a b)) := by
  rcases t.openChat_cases now a b with ⟨he, ho⟩ | ⟨hne, id, hid, ho⟩ | ⟨hne, hnew, ho⟩
  · rw [ho, if_pos he]
  · rw [ho, if_neg hne, hid]
  · rw [ho, if_neg hne, hnew]

/-- A message to a chat that is there. -/
theorem append_eq {m : PendingMessage} {chat : Chat} (hc : t.chats.get? m.chat = some chat) :
    t.append now m =
      if m.sender = m.receiver ∨ chat.isOf m.sender m.receiver = false then
        (.error (.notConnected m.chat m.sender m.receiver), t)
      else (.ok (t.nextMessage now m), t.stored now m) := by
  rcases t.append_cases now m with ⟨hn, -⟩ | ⟨chat', hc', hbad, ho⟩ | ⟨chat', hc', hne, hof, ho⟩
  · exact absurd (hn.symm.trans hc) (by simp)
  · obtain rfl := Option.some.inj (hc.symm.trans hc')
    rw [ho, if_pos hbad]
  · obtain rfl := Option.some.inj (hc.symm.trans hc')
    rw [ho, if_neg (by simp [hne, hof])]

theorem Agree.openChat (h : t.Agree user t') (other : UserId)
    (hlog : ∀ id, (t.openChat now user other).1 = .ok (id, true) →
      t.log (t.lastChat + 1) = [] ∧ t'.log (t'.lastChat + 1) = []) :
    (t'.openChat now user other).1 = (t.openChat now user other).1 ∧
      (t.openChat now user other).2.Agree user (t'.openChat now user other).2 := by
  rw [openChat_eq] at hlog
  rw [openChat_eq, openChat_eq, ← h.pair other]
  split
  · exact ⟨rfl, h⟩
  · next hne =>
    rw [if_neg hne] at hlog
    cases hpair : t.chatOfPair.get? (orderedPair user other) with
    | some id => exact ⟨rfl, h⟩
    | none =>
      simp only [hpair] at hlog
      obtain ⟨hempty, hempty'⟩ := hlog _ rfl
      exact ⟨by rw [h.lastChat], h.filed hempty hempty' other⟩

theorem Agree.append (h : t.Agree user t') {m : PendingMessage} (hid : t.HasChat user m.chat) :
    (t'.append now m).1 = (t.append now m).1 ∧
      (t.append now m).2.Agree user (t'.append now m).2 := by
  obtain ⟨chat, hc, huser⟩ := hid
  rw [append_eq hc, append_eq ((h.chat _ chat huser).1 hc)]
  split
  · exact ⟨rfl, h⟩
  · refine ⟨?_, h.stored m⟩
    unfold nextMessage
    rw [h.lastMessage]

/-- **What a user may ask is answered alike** in two states that are the same to the user, and they
are the same to the user again. -/
theorem Agree.answer (h : t.Agree user t') (hsound : t.Sound) (hsound' : t'.Sound)
    {q : StoreRequest} (hown : t.Own user q)
    (hlog : ∀ opened, q.opened? (t.answer now q).1 = some opened →
      t.log (t.lastChat + 1) = [] ∧ t'.log (t'.lastChat + 1) = []) :
    (t'.answer now q).1 = (t.answer now q).1 ∧ (t.answer now q).2.Agree user (t'.answer now q).2 := by
  cases q with
  | openChat a other =>
    obtain rfl : a = user := hown
    refine h.openChat other fun id hid => hlog (orderedPair a other, id) ?_
    exact StoreRequest.opened?_openChat.2 ⟨rfl, hid⟩
  | chatsOf a =>
    obtain rfl : a = user := hown
    refine ⟨congrArg Except.ok (chatsOf_congr hsound hsound' h.chat ?_).symm, h⟩
    exact fun id chat hc huser => h.log id ⟨chat, hc, huser⟩
  | append m => exact h.append hown
  | page id request => exact ⟨by simp only [Records.answer, h.log id hown], h⟩
  | markAllRead id reader =>
    refine ⟨?_, h.markWhere id _⟩
    simp only [Records.answer, markAllRead, markWhere_fst, h.log id hown]
  | markSomeRead id reader numbers =>
    refine ⟨?_, h.markWhere id _⟩
    simp only [Records.answer, markSomeRead, markWhere_fst, h.log id hown]
  | _ => exact absurd hown id

/-- **What a user may ask leaves the chats of others alone.** -/
theorem leaves_answer {q : StoreRequest} (hown : t.Own user q)
    (hnext : ∀ opened, q.opened? (t.answer now q).1 = some opened →
      t.chats.get? (t.lastChat + 1) = none) : t.Leaves user (t.answer now q).2 := by
  cases q with
  | openChat a other =>
    obtain rfl : a = user := hown
    rw [Records.answer, openChat_eq] at hnext ⊢
    split
    · exact .refl ..
    · next hne =>
      rw [if_neg hne] at hnext
      cases hpair : t.chatOfPair.get? (orderedPair a other) with
      | some id => exact .refl ..
      | none =>
        simp only [hpair] at hnext
        exact leaves_filed (hnext _ rfl) other
  | append m =>
    obtain ⟨chat, hc, -⟩ := id hown
    rw [Records.answer, append_eq hc]
    split
    · exact .refl ..
    · exact leaves_stored hown
  | markAllRead id reader => exact leaves_markWhere hown _
  | markSomeRead id reader numbers => exact leaves_markWhere hown _
  | chatsOf a => exact .refl ..
  | page id request => exact .refl ..
  | _ => exact absurd hown id

/-! ### A chat of others taken away -/

/-- The tables without a chat, as if it had never been there. -/
def without (t : Records) (chat : Chat) : Records :=
  { t with
    chats := t.chats.erase chat.id
    chatOfPair := t.chatOfPair.erase (chat.user1, chat.user2)
    logs := t.logs.erase chat.id }

theorem log_without (chat : Chat) (id : ChatId) :
    (t.without chat).log id = if id = chat.id then [] else t.log id := by
  by_cases h : id = chat.id
  · simp [log, without, h]
  · simp [log, without, h, Table.get?_erase_of_ne]

theorem get?_chats_without {chat c : Chat} {id : ChatId} :
    (t.without chat).chats.get? id = some c ↔ id ≠ chat.id ∧ t.chats.get? id = some c := by
  by_cases h : id = chat.id
  · simp [without, h]
  · simp [without, h, Table.get?_erase_of_ne]

theorem get?_chatOfPair_without {chat : Chat} {pair : UserId × UserId} {id : ChatId} :
    (t.without chat).chatOfPair.get? pair = some id ↔
      pair ≠ (chat.user1, chat.user2) ∧ t.chatOfPair.get? pair = some id := by
  by_cases h : pair = (chat.user1, chat.user2)
  · simp [without, h]
  · simp [without, h, Table.get?_erase_of_ne]

theorem mem_log_without {chat : Chat} {id : ChatId} {m : Message} :
    m ∈ (t.without chat).log id ↔ id ≠ chat.id ∧ m ∈ t.log id := by
  rw [log_without]
  split <;> simp_all

/-- **The tables fit together** without a chat as well. -/
theorem Sound.without (h : t.Sound) {chat : Chat} (hc : t.chats.get? chat.id = some chat) :
    (t.without chat).Sound where
  swipe_key := h.swipe_key
  chat_of_pair x y id hid := by
    obtain ⟨hne, hid⟩ := get?_chatOfPair_without.1 hid
    obtain ⟨hlt, since, hc'⟩ := h.chat_of_pair x y id hid
    refine ⟨hlt, since, get?_chats_without.2 ⟨?_, hc'⟩⟩
    rintro rfl
    have he := Option.some.inj (hc.symm.trans hc')
    exact hne (Prod.ext (congrArg Chat.user1 he) (congrArg Chat.user2 he)).symm
  pair_of_chat id c hc' := by
    obtain ⟨hne, hc'⟩ := get?_chats_without.1 hc'
    have hpair := h.pair_of_chat id c hc'
    refine get?_chatOfPair_without.2 ⟨fun he => ?_, hpair⟩
    rw [he, h.pair_of_chat _ _ hc] at hpair
    exact hne (Option.some.inj hpair).symm
  chat_range id c hc' := h.chat_range id c (get?_chats_without.1 hc').2
  log_chat id l hl := by
    have hne : id ≠ chat.id := by
      rintro rfl
      simp [Records.without] at hl
    have hl' : t.logs.get? id = some l := by
      simpa [Records.without, Table.get?_erase_of_ne _ hne] using hl
    obtain ⟨c, hc'⟩ := h.log_chat id l hl'
    exact ⟨c, get?_chats_without.2 ⟨hne, hc'⟩⟩
  ascending id := by
    rw [log_without]
    split
    · exact List.Pairwise.nil
    · exact h.ascending id
  message_home id m hm := by
    obtain ⟨hne, hm⟩ := mem_log_without.1 hm
    obtain ⟨hchat, hends, c, hc', hends'⟩ := h.message_home id m hm
    exact ⟨hchat, hends, c, get?_chats_without.2 ⟨hne, hc'⟩, hends'⟩
  message_unique id id' m m' hm hm' he :=
    h.message_unique id id' m m' (mem_log_without.1 hm).2 (mem_log_without.1 hm').2 he
  message_range id m hm := h.message_range id m (mem_log_without.1 hm).2

/-- **A chat of others makes no difference to a user.** -/
theorem agree_without {chat : Chat} (hc : t.chats.get? chat.id = some chat)
    (huser : chat.hasMember user = false) : t.Agree user (t.without chat) where
  lastChat := rfl
  lastMessage := rfl
  chat id c huser' := by
    refine ⟨fun hc' => get?_chats_without.2 ⟨?_, hc'⟩, fun hc' => (get?_chats_without.1 hc').2⟩
    rintro rfl
    obtain rfl := Option.some.inj (hc.symm.trans hc')
    exact absurd huser' (by simp [huser])
  pair other := by
    have hne : chat.user1 ≠ user ∧ chat.user2 ≠ user := by simpa [Chat.hasMember] using huser
    exact (Table.get?_erase_of_ne _ (orderedPair_ne hne.1 hne.2).symm).symm
  log id hid := by
    rw [log_without, if_neg]
    rintro rfl
    exact absurd (hid.hasMember hc) (by simp [huser])

end Rendezvous.Records
