import Mathlib.Data.List.Induction
import Rendezvous.Proofs.Store.Annals

/-!
# The tables fit together

The store keeps four tables and two counters, and each request changes some of them. What every
other part of the service takes for granted is that they always fit together, which is
`Records.Sound`: the chats and their pairs point at each other, numbers are given out once and in
order, a log holds messages of its own chat between the two users of that chat, oldest first, and a
swipe is filed under the two users it is about.

## What keeps them together

Only two changes could break this. A new chat gets the number after the last one, so that it neither
overwrites a chat nor inherits a log (`Records.Sound.filed`); a new message gets the number after
the last one of *all* chats, so that it is greater than everything in its log and different from
everything in the other logs (`Records.Sound.stored`). Both need a number that is still free. The
counters are numbers of 64 bits, and they say how many chats and messages there are as long as these
are fewer than `2 ^ 63` (`Annals.Kept`); after that they begin again with negative numbers.

The invariant of a whole run is `Annals.Kept`, kept by every request (`Annals.Kept.answer`) and so
by any number of them (`Annals.kept_after`).
-/

namespace Rendezvous

/-- The next number is one more, as long as there are numbers. -/
theorem toInt_add_one {x : Int64} {n : Nat} (h : x.toInt = n) (hn : n + 1 < 2 ^ 63) :
    (x + 1).toInt = ((n + 1 : Nat) : Int) := by
  rw [Int64.toInt_add, h, show (1 : Int64).toInt = 1 from rfl, Int.natCast_add]
  exact Int.bmod_eq_of_le (by omega) (by omega)

namespace Chat

theorem eq_or_eq_of_isOf {chat : Chat} {a b : UserId} (h : chat.isOf a b = true) :
    (a = chat.user1 ∧ b = chat.user2) ∨ (a = chat.user2 ∧ b = chat.user1) := by
  have hp : orderedPair a b = (chat.user1, chat.user2) := by simpa [isOf] using h
  unfold orderedPair at hp
  split at hp <;> obtain ⟨rfl, rfl⟩ := Prod.mk.inj hp
  · exact Or.inl ⟨rfl, rfl⟩
  · exact Or.inr ⟨rfl, rfl⟩

end Chat

namespace Records

/-- **The tables fit together.** -/
structure Sound (t : Records) : Prop where
  /-- A swipe is filed under the user who decided and the user it is about. -/
  swipe_key : ∀ u v s, t.swipes.get? (u, v) = some s → s.user = u ∧ s.target = v
  /-- A pair has the lesser user first, and its number is that of a chat of this pair. -/
  chat_of_pair : ∀ x y id, t.chatOfPair.get? (x, y) = some id →
    x < y ∧ ∃ since, t.chats.get? id = some ⟨id, x, y, since⟩
  /-- A chat is filed under its pair. -/
  pair_of_chat : ∀ id chat, t.chats.get? id = some chat →
    t.chatOfPair.get? (chat.user1, chat.user2) = some id
  /-- The numbers of chats begin with one and end with the last one given out. -/
  chat_range : ∀ id chat, t.chats.get? id = some chat → 1 ≤ id ∧ id ≤ t.lastChat
  /-- A log is the log of a chat. -/
  log_chat : ∀ id l, t.logs.get? id = some l → ∃ chat, t.chats.get? id = some chat
  /-- A log is in the order of its numbers, and none comes twice. -/
  ascending : ∀ id, (t.log id).Pairwise fun m m' => m.id < m'.id
  /-- A message in a log belongs to this chat and goes from one of its users to the other. -/
  message_home : ∀ id m, m ∈ t.log id → m.chat = id ∧ m.sender ≠ m.receiver ∧
    ∃ chat, t.chats.get? id = some chat ∧
      ((m.sender = chat.user1 ∧ m.receiver = chat.user2) ∨
        (m.sender = chat.user2 ∧ m.receiver = chat.user1))
  /-- Messages of different chats have different numbers. -/
  message_unique : ∀ id id' m m', m ∈ t.log id → m' ∈ t.log id' → m.id = m'.id → id = id'
  /-- The numbers of messages begin with one and end with the last one given out. -/
  message_range : ∀ id m, m ∈ t.log id → 1 ≤ m.id ∧ m.id ≤ t.lastMessage

namespace Sound

variable {t : Records} {now : Timestamp}

theorem empty : Records.empty.Sound where
  swipe_key u v s h := by simp [Records.empty] at h
  chat_of_pair x y id h := by simp [Records.empty] at h
  pair_of_chat id chat h := by simp [Records.empty] at h
  chat_range id chat h := by simp [Records.empty] at h
  log_chat id l h := by simp [Records.empty] at h
  ascending id := by simp
  message_home id m h := by simp at h
  message_unique id id' m m' h := by simp at h
  message_range id m h := by simp at h

/-- The users of a chat are two, the lesser one first. -/
theorem user_lt (h : t.Sound) {id : ChatId} {chat : Chat} (hc : t.chats.get? id = some chat) :
    chat.user1 < chat.user2 :=
  (h.chat_of_pair _ _ _ (h.pair_of_chat id chat hc)).1

/-- Decisions may be put in and taken out at will, as long as each is filed under its users. -/
theorem withSwipes (h : t.Sound) {swipes : Table (UserId × UserId) Swipe}
    (hkey : ∀ u v s, swipes.get? (u, v) = some s → s.user = u ∧ s.target = v) :
    { t with swipes := swipes }.Sound :=
  { h with swipe_key := hkey }

theorem recordSwipe (h : t.Sound) (actor target : UserId) (action : Decision) :
    (t.recordSwipe now actor target action).Sound := by
  refine h.withSwipes fun u v s hs => ?_
  rw [Table.get?_insert] at hs
  split at hs
  · next he =>
    obtain ⟨rfl, rfl⟩ := Prod.mk.inj he
    rw [Option.some.injEq] at hs
    subst hs
    exact ⟨rfl, rfl⟩
  · exact h.swipe_key u v s hs

theorem forgetSwipes (h : t.Sound) (actor : UserId) : (t.forgetSwipes actor).2.Sound := by
  refine h.withSwipes fun u v s hs => ?_
  rw [Table.get?_keep, Option.filter_eq_some_iff] at hs
  exact h.swipe_key u v s hs.1

/-! ### A chat is filed -/

/-- The next number of a chat is not taken. -/
theorem get?_next (h : t.Sound) {n : Nat} (hn : t.lastChat.toInt = n) (hroom : n + 1 < 2 ^ 63) :
    t.chats.get? (t.lastChat + 1) = none := by
  cases hc : t.chats.get? (t.lastChat + 1) with
  | none => rfl
  | some chat =>
    have hle := Int64.le_iff_toInt_le.1 (h.chat_range _ _ hc).2
    rw [toInt_add_one hn hroom, hn] at hle
    omega

/-- There are no messages under the next number of a chat. -/
theorem log_next (h : t.Sound) {n : Nat} (hn : t.lastChat.toInt = n) (hroom : n + 1 < 2 ^ 63) :
    t.log (t.lastChat + 1) = [] := by
  cases hl : t.logs.get? (t.lastChat + 1) with
  | none => simp [log, hl]
  | some l =>
    obtain ⟨chat, hc⟩ := h.log_chat _ _ hl
    rw [h.get?_next hn hroom] at hc
    exact absurd hc (by simp)

/-- What is filed under a number that is taken stays what it was. -/
theorem chats_filed_of_ne {pair : UserId × UserId} {id : ChatId} (hne : id ≠ t.lastChat + 1) :
    (t.filed now pair).chats.get? id = t.chats.get? id := by
  simp [Records.filed, Table.get?_insert_of_ne, hne]

/-- **Filing a chat** for a pair that has none keeps the tables together. -/
theorem filed (h : t.Sound) {n : Nat} (hn : t.lastChat.toInt = n) (hroom : n + 1 < 2 ^ 63)
    {x y : UserId} (hxy : x < y) (hnew : t.chatOfPair.get? (x, y) = none) :
    (t.filed now (x, y)).Sound := by
  have hnext := h.get?_next hn hroom
  have hself := t.get?_filed_self now (x, y)
  -- every chat that was there is still there
  have hkeep : ∀ id chat, t.chats.get? id = some chat →
      (t.filed now (x, y)).chats.get? id = some chat := by
    intro id chat hc
    rw [chats_filed_of_ne, hc]
    rintro rfl
    rw [hnext] at hc
    exact absurd hc (by simp)
  constructor
  case swipe_key => exact h.swipe_key
  case chat_of_pair =>
    intro x' y' id hid
    by_cases hp : (x', y') = (x, y)
    · obtain ⟨rfl, rfl⟩ := Prod.mk.inj hp
      have hid' : t.lastChat + 1 = id := by simpa [Records.filed] using hid
      subst hid'
      exact ⟨hxy, now, hself⟩
    · have hid' : t.chatOfPair.get? (x', y') = some id := by
        simpa [Records.filed, Table.get?_insert_of_ne _ _ hp] using hid
      obtain ⟨hlt, since, hc⟩ := h.chat_of_pair _ _ _ hid'
      exact ⟨hlt, since, hkeep _ _ hc⟩
  case pair_of_chat =>
    intro id chat hc
    by_cases hid : id = t.lastChat + 1
    · subst hid
      rw [hself, Option.some.injEq] at hc
      subst hc
      simp [Records.filed]
    · rw [chats_filed_of_ne hid] at hc
      have hp := h.pair_of_chat _ _ hc
      have hne : (chat.user1, chat.user2) ≠ (x, y) := by
        intro e
        rw [e, hnew] at hp
        exact absurd hp (by simp)
      simpa [Records.filed, Table.get?_insert_of_ne _ _ hne] using hp
  case chat_range =>
    intro id chat hc
    have hlast : (t.filed now (x, y)).lastChat.toInt = ((n + 1 : Nat) : Int) :=
      toInt_add_one hn hroom
    by_cases hid : id = t.lastChat + 1
    · subst hid
      refine ⟨Int64.le_iff_toInt_le.2 ?_, Int64.le_refl _⟩
      rw [toInt_add_one hn hroom, show (1 : Int64).toInt = 1 from rfl]
      omega
    · rw [chats_filed_of_ne hid] at hc
      obtain ⟨hlo, hhi⟩ := h.chat_range _ _ hc
      refine ⟨hlo, Int64.le_iff_toInt_le.2 ?_⟩
      have := Int64.le_iff_toInt_le.1 hhi
      omega
  case log_chat =>
    intro id l hl
    obtain ⟨chat, hc⟩ := h.log_chat _ _ hl
    exact ⟨chat, hkeep _ _ hc⟩
  case ascending => exact h.ascending
  case message_home =>
    intro id m hm
    obtain ⟨hchat, hne, chat, hc, hends⟩ := h.message_home id m hm
    exact ⟨hchat, hne, chat, hkeep _ _ hc, hends⟩
  case message_unique => exact h.message_unique
  case message_range => exact h.message_range

/-! ### A message is stored -/

/-- The next number of a message is greater than all that were given out. -/
theorem lt_next (h : t.Sound) {n : Nat} (hn : t.lastMessage.toInt = n) (hroom : n + 1 < 2 ^ 63)
    {id : ChatId} {m : Message} (hm : m ∈ t.log id) : m.id < t.lastMessage + 1 := by
  rw [Int64.lt_iff_toInt_lt, toInt_add_one hn hroom]
  have := Int64.le_iff_toInt_le.1 (h.message_range id m hm).2
  omega

/-- A message of the tables after one was stored is that one, or was there before. -/
theorem mem_log_stored {m : PendingMessage} {id : ChatId} {m' : Message}
    (hm : m' ∈ (t.stored now m).log id) :
    m' ∈ t.log id ∨ (id = m.chat ∧ m' = t.nextMessage now m) := by
  rw [log_stored] at hm
  split at hm
  · next h =>
    subst h
    rcases List.mem_append.1 hm with hm | hm
    · exact Or.inl hm
    · exact Or.inr ⟨rfl, by simpa using hm⟩
  · exact Or.inl hm

/-- **Storing a message** that goes from one user of its chat to the other keeps the tables
together. -/
theorem stored (h : t.Sound) {n : Nat} (hn : t.lastMessage.toInt = n) (hroom : n + 1 < 2 ^ 63)
    {m : PendingMessage} {chat : Chat} (hchat : t.chats.get? m.chat = some chat)
    (hne : m.sender ≠ m.receiver) (hof : chat.isOf m.sender m.receiver = true) :
    (t.stored now m).Sound := by
  have hid : (t.nextMessage now m).id = t.lastMessage + 1 := rfl
  constructor
  case swipe_key => exact h.swipe_key
  case chat_of_pair => exact h.chat_of_pair
  case pair_of_chat => exact h.pair_of_chat
  case chat_range => exact h.chat_range
  case log_chat =>
    intro id l hl
    by_cases he : id = m.chat
    · subst he
      exact ⟨chat, hchat⟩
    · have hl' : t.logs.get? id = some l := by
        simpa [Records.stored, Table.get?_insert_of_ne _ _ he] using hl
      exact h.log_chat _ _ hl'
  case ascending =>
    intro id
    rw [log_stored]
    split
    · refine List.pairwise_append.2 ⟨h.ascending _, List.pairwise_singleton _ _, ?_⟩
      intro m' hm' m'' hm''
      obtain rfl : m'' = t.nextMessage now m := by simpa using hm''
      exact h.lt_next hn hroom hm'
    · exact h.ascending id
  case message_home =>
    intro id m' hm'
    rcases mem_log_stored hm' with hm' | ⟨rfl, rfl⟩
    · exact h.message_home id m' hm'
    · exact ⟨rfl, hne, chat, hchat, Chat.eq_or_eq_of_isOf hof⟩
  case message_unique =>
    intro id id' m₁ m₂ h₁ h₂ he
    rcases mem_log_stored h₁ with h₁ | ⟨rfl, rfl⟩ <;> rcases mem_log_stored h₂ with h₂ | ⟨rfl, rfl⟩
    · exact h.message_unique id id' m₁ m₂ h₁ h₂ he
    · exact absurd (hid ▸ he) (Int64.ne_of_lt (h.lt_next hn hroom h₁))
    · exact absurd (hid ▸ he.symm) (Int64.ne_of_lt (h.lt_next hn hroom h₂))
    · rfl
  case message_range =>
    intro id m' hm'
    have hlast : (t.stored now m).lastMessage.toInt = ((n + 1 : Nat) : Int) :=
      toInt_add_one hn hroom
    rcases mem_log_stored hm' with hm' | ⟨rfl, rfl⟩
    · obtain ⟨hlo, hhi⟩ := h.message_range id m' hm'
      refine ⟨hlo, Int64.le_iff_toInt_le.2 ?_⟩
      have := Int64.le_iff_toInt_le.1 hhi
      omega
    · refine ⟨Int64.le_iff_toInt_le.2 ?_, Int64.le_refl _⟩
      rw [hid, toInt_add_one hn hroom, show (1 : Int64).toInt = 1 from rfl]
      omega

/-! ### Messages are marked read -/

theorem mem_log_markWhere {chat id : ChatId} {p : Message → Bool} {m : Message}
    (hm : m ∈ (t.markWhere chat p).2.log id) :
    ∃ m' ∈ t.log id, m.id = m'.id ∧ m.chat = m'.chat ∧ m.sender = m'.sender ∧
      m.receiver = m'.receiver := by
  rw [log_markWhere] at hm
  split at hm
  · obtain ⟨m', hm', rfl⟩ := List.mem_map.1 hm
    exact ⟨m', hm', rfl, rfl, rfl, rfl⟩
  · exact ⟨m, hm, rfl, rfl, rfl, rfl⟩

/-- **Marking messages read** keeps the tables together. -/
theorem markWhere (h : t.Sound) (chat : ChatId) (p : Message → Bool) :
    (t.markWhere chat p).2.Sound := by
  have hmem : ∀ id, ∀ m ∈ (t.markWhere chat p).2.log id, ∃ m' ∈ t.log id, m.id = m'.id ∧
      m.chat = m'.chat ∧ m.sender = m'.sender ∧ m.receiver = m'.receiver :=
    fun _ _ hm => mem_log_markWhere hm
  have hasc : ∀ id, ((t.markWhere chat p).2.log id).Pairwise fun m m' => m.id < m'.id := by
    intro id
    rw [log_markWhere]
    split
    · exact List.pairwise_map.2 ((h.ascending id).imp fun hlt => hlt)
    · exact h.ascending id
  obtain ⟨logs, he, hlogs⟩ := markWhere_eq t chat p
  rw [he] at hmem hasc ⊢
  constructor
  case swipe_key => exact h.swipe_key
  case chat_of_pair => exact h.chat_of_pair
  case pair_of_chat => exact h.pair_of_chat
  case chat_range => exact h.chat_range
  case log_chat =>
    intro id l hl
    obtain ⟨l', hl'⟩ := hlogs id l hl
    exact h.log_chat id l' hl'
  case ascending => exact hasc
  case message_home =>
    intro id m hm
    obtain ⟨m', hm', -, hc, hs, hr⟩ := hmem id m hm
    rw [hc, hs, hr]
    exact h.message_home id m' hm'
  case message_unique =>
    intro id id' m₁ m₂ h₁ h₂ hid
    obtain ⟨m₁', hm₁, hid₁, -⟩ := hmem id m₁ h₁
    obtain ⟨m₂', hm₂, hid₂, -⟩ := hmem id' m₂ h₂
    exact h.message_unique id id' m₁' m₂' hm₁ hm₂ (hid₁ ▸ hid₂ ▸ hid)
  case message_range =>
    intro id m hm
    obtain ⟨m', hm', hid, -⟩ := hmem id m hm
    rw [hid]
    exact h.message_range id m' hm'

end Sound

end Records

/-! ### Runs -/

namespace Annals

/-- **The invariant of a run**: the tables fit together, and their counters say how many chats and
messages there are. -/
structure Kept (a : Annals) : Prop where
  /-- The tables fit together. -/
  sound : a.records.Sound
  /-- The number of the last chat is how many there are. -/
  chats : a.records.lastChat.toInt = a.opened
  /-- The number of the last message is how many there are. -/
  messages : a.records.lastMessage.toInt = a.stored

theorem kept_empty : empty.Kept :=
  ⟨.empty, rfl, rfl⟩

variable {a : Annals} {now : Timestamp}

/-- A request that opens no chat and stores no message keeps the invariant with the tables. -/
theorem Kept.of_quiet {r : StoreRequest} {reply : Except StoreError r.Answer} {t : Records}
    (h : a.Kept) (hquiet : r.Quiet reply) (hs : t.Sound) (hc : t.lastChat = a.records.lastChat)
    (hm : t.lastMessage = a.records.lastMessage) :
    Kept ⟨t, a.opened + r.chatsOpened reply, a.stored + r.messagesStored reply⟩ := by
  obtain ⟨hopened, hstored⟩ := hquiet
  refine ⟨hs, ?_, ?_⟩
  · rw [hc, h.chats, StoreRequest.chatsOpened, hopened]
    rfl
  · rw [hm, h.messages, hstored]
    rfl

/-- **Every request keeps the invariant**, as long as the numbers last. -/
theorem Kept.answer (h : a.Kept) (r : StoreRequest) (hroom : (a.answer now r).2.HasRoom) :
    (a.answer now r).2.Kept := by
  have heffect := a.records.answer_effect now r
  unfold Annals.answer at hroom ⊢
  generalize a.records.answer now r = out at heffect hroom ⊢
  cases heffect with
  | idle hquiet => exact h.of_quiet hquiet h.sound rfl rfl
  | decided => exact ⟨h.sound.recordSwipe .., h.chats, h.messages⟩
  | forgotten => exact ⟨h.sound.forgetSwipes _, h.chats, h.messages⟩
  | marked hquiet chat p =>
    exact h.of_quiet hquiet (h.sound.markWhere chat p) (Records.lastChat_markWhere ..)
      (Records.lastMessage_markWhere ..)
  | opened hne hnew =>
    exact ⟨h.sound.filed h.chats hroom.1 (orderedPair_lt hne) hnew, toInt_add_one h.chats hroom.1,
      h.messages⟩
  | @matched x y content hne hnew =>
    have hfiled : (a.records.filed now (orderedPair x y)).Sound :=
      h.sound.filed h.chats hroom.1 (orderedPair_lt hne) hnew
    exact ⟨hfiled.stored h.messages hroom.2 (Records.get?_filed_self ..) hne (beq_self_eq_true _),
      toInt_add_one h.chats hroom.1, toInt_add_one h.messages hroom.2⟩
  | appended hchat hne hof =>
    exact ⟨h.sound.stored h.messages hroom.2 hchat hne hof, h.chats,
      toInt_add_one h.messages hroom.2⟩

/-- **Any number of requests keep the invariant**, as long as the numbers last. -/
theorem kept_after (deeds : List Deed) (hroom : (empty.after deeds).HasRoom) :
    (empty.after deeds).Kept := by
  induction deeds using List.reverseRecOn with
  | nil => exact kept_empty
  | append_singleton deeds d ih =>
    rw [after_append_singleton] at hroom ⊢
    exact (ih hroom.of_answer).answer d.request hroom

/-- **The tables fit together** after any requests, whatever they ask for and whether they are
refused, as long as there were fewer than `2 ^ 63` chats and messages. -/
theorem records_sound (deeds : List Deed) (hroom : (empty.after deeds).HasRoom) :
    (empty.after deeds).records.Sound :=
  (kept_after deeds hroom).sound

/-- Two chats are opened, one of them twice, and one is written to, also by a stranger. -/
def sample : List Deed :=
  [⟨⟨0, 0⟩, .recordSwipe 7 3 .like⟩, ⟨⟨1, 0⟩, .openMatch 7 3 "hello"⟩, ⟨⟨2, 0⟩, .openChat 3 7⟩,
    ⟨⟨3, 0⟩, .openChat 4 4⟩, ⟨⟨4, 0⟩, .openChat 9 4⟩, ⟨⟨5, 0⟩, .append ⟨2, 4, 9, "well", .text⟩⟩,
    ⟨⟨6, 0⟩, .append ⟨2, 7, 9, "who", .text⟩⟩, ⟨⟨7, 0⟩, .markAllRead 1 3⟩,
    ⟨⟨8, 0⟩, .append ⟨1, 3, 7, "hi", .text⟩⟩, ⟨⟨9, 0⟩, .forgetSwipes 7⟩]

theorem records_sound_sample : (empty.after sample).HasRoom ∧ (empty.after sample).records.Sound :=
  have hroom : (empty.after sample).HasRoom := by decide
  ⟨hroom, records_sound sample hroom⟩

end Annals

end Rendezvous
