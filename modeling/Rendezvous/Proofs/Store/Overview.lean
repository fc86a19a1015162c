import Mathlib.Data.List.Basic
import Rendezvous.Proofs.Store.ChatList
import Rendezvous.Proofs.Store.Refusals

/-!
# What the list of chats says

The list of chats of a user is made of three things: the chats in which the user takes part, what
stands at the ends of their logs, and how much in them is unread. This module says that all of it is
right in every state of the tables (`Annals.lists_chats`).

* Each chat of the user is there once, and no other chat is.
* The last message that is shown is the one with the greatest number. Since a log is in the order of
  its numbers, this is the one at its end, at whatever time it was stored (`Records.Sound.le_last`).
* As much is unread as would be marked read now. That is a number of 64 bits in the list and a
  number without bounds in the answer; they are the same, since there are no more messages in a log
  than numbers (`Records.Sound.length_log_le`).
* The list is in strict order, so that it leaves nothing open: two tables that hold the same under
  the same numbers have the same list, in whichever order they keep it.
-/

namespace Rendezvous.Records

variable {t t' : Records} {user : UserId} {id : ChatId} {m : Message} {v : ChatView}

/-! ### The end of a log -/

/-- In a list in order, the last number is the greatest. -/
theorem le_getLast? {l : List Message} (h : l.Pairwise fun m m' => m.id < m'.id)
    (hlast : l.getLast? = some m) : m ∈ l ∧ ∀ m' ∈ l, m'.id ≤ m.id := by
  obtain ⟨front, rfl⟩ := List.getLast?_eq_some_iff.1 hlast
  refine ⟨by simp, fun m' hm' => ?_⟩
  rcases List.mem_append.1 hm' with hm' | hm'
  · exact Int64.le_of_lt ((List.pairwise_append.1 h).2.2 m' hm' m List.mem_cons_self)
  · obtain rfl := List.mem_singleton.1 hm'
    exact Int64.le_refl _

/-- Numbers in order between two bounds are no more than there is room for. -/
theorem length_le_of_range {l : List Message} (h : l.Pairwise fun m m' => m.id < m'.id)
    {lo hi : Int} (hle : lo ≤ hi) (hrange : ∀ m ∈ l, lo < m.id.toInt ∧ m.id.toInt ≤ hi) :
    lo + l.length ≤ hi := by
  induction l generalizing lo with
  | nil => simpa using hle
  | cons m l ih =>
    obtain ⟨hlo, hhi⟩ := hrange m List.mem_cons_self
    obtain ⟨hm, hl⟩ := List.pairwise_cons.1 h
    have hrest := ih hl hhi fun m' hm' =>
      ⟨Int64.lt_iff_toInt_lt.1 (hm m' hm'), (hrange m' (List.mem_cons_of_mem m hm')).2⟩
    rw [List.length_cons]
    omega

/-- There are no more messages in a log than numbers were given out. -/
theorem Sound.length_log_le (h : t.Sound) (hlast : 0 ≤ t.lastMessage.toInt) (id : ChatId) :
    ((t.log id).length : Int) ≤ t.lastMessage.toInt := by
  have hrange : ∀ m ∈ t.log id, 0 < m.id.toInt ∧ m.id.toInt ≤ t.lastMessage.toInt := by
    intro m hm
    obtain ⟨hlo, hhi⟩ := h.message_range id m hm
    have hone : 1 ≤ m.id.toInt := Int64.le_iff_toInt_le.1 hlo
    exact ⟨hone, Int64.le_iff_toInt_le.1 hhi⟩
  simpa using length_le_of_range (h.ascending id) hlast hrange

/-! ### What is shown of a chat -/

/-- **What a user sees of a chat is right.** -/
structure Shows (t : Records) (user : UserId) (v : ChatView) : Prop where
  /-- It is a chat in which the user faces the other one, and it was opened then. -/
  chat : ∃ chat, t.chats.get? v.id = some chat ∧ chat.Joins user v.other ∧
    chat.createdAt = v.createdAt
  /-- Of a chat without messages no last message is shown. -/
  empty : t.log v.id = [] → v.lastContent = none ∧ v.lastAt = none ∧ v.lastSender = none
  /-- Of any other chat the message with the greatest number is shown. -/
  last : t.log v.id ≠ [] → ∃ m ∈ t.log v.id, (∀ m' ∈ t.log v.id, m'.id ≤ m.id) ∧
    v.lastContent = some m.content ∧ v.lastAt = some m.createdAt ∧ v.lastSender = some m.sender
  /-- As much is unread as would be marked read now. -/
  unread : ∀ now, ∃ n : Nat, (t.answer now (.markAllRead v.id user)).1 = .ok n ∧
    v.unread.toInt = n

/-- As many messages are marked read as are unread. -/
theorem markAllRead_fst (t : Records) (id : ChatId) (reader : UserId) :
    (t.markAllRead id reader).1 = (t.log id).countP (isUnreadBy reader) := by
  have hlength := congrArg List.length (t.markWhere_fst id (isUnreadBy reader))
  rw [List.length_map, ← List.countP_eq_length_filter] at hlength
  exact hlength

/-- **A chat is shown as it is.** -/
theorem Sound.shows (h : t.Sound) (hlast : 0 ≤ t.lastMessage.toInt) {chat : Chat}
    (hchat : t.chats.get? id = some chat) (hv : t.summary? user chat = some v) :
    t.Shows user v := by
  obtain ⟨other, hother, rfl⟩ := Option.map_eq_some_iff.1 hv
  obtain rfl := h.id_eq hchat
  constructor
  case chat => exact ⟨chat, hchat, (Chat.other?_eq_some_iff (h.user_lt hchat)).1 hother, rfl⟩
  case empty =>
    intro hempty
    simp only [hempty]
    exact ⟨rfl, rfl, rfl⟩
  case last =>
    intro hne
    obtain ⟨m, hm⟩ := Option.ne_none_iff_exists'.1 (mt List.getLast?_eq_none_iff.1 hne)
    obtain ⟨hmem, hle⟩ := le_getLast? (h.ascending chat.id) hm
    simp only [hm]
    exact ⟨m, hmem, hle, rfl, rfl, rfl⟩
  case unread =>
    intro now
    refine ⟨_, congrArg Except.ok (t.markAllRead_fst chat.id user), ?_⟩
    have hcount : (t.log chat.id).countP (isUnreadBy user) < 2 ^ 63 := by
      have hlength := h.length_log_le hlast chat.id
      have hle := (t.log chat.id).countP_le_length (p := isUnreadBy user)
      have hbound := t.lastMessage.toInt_lt
      omega
    exact Int64.toInt_ofNat_of_lt hcount

/-! ### The list -/

/-- **The list of chats of a user is right.** -/
structure Overview (t : Records) (user : UserId) (views : List ChatView) : Prop where
  /-- The chats in the list are those in which the user takes part. -/
  complete : ∀ id, id ∈ views.map (·.id) ↔
    ∃ chat, t.chats.get? id = some chat ∧ chat.hasMember user = true
  /-- None is there twice. -/
  once : (views.map (·.id)).Nodup
  /-- What is shown of them is right. -/
  shows : ∀ v ∈ views, t.Shows user v
  /-- The latest news come first, and of equally late ones the greater number. -/
  ordered : views.Pairwise fun v w =>
    w.newsAt.before v.newsAt = true ∨ (w.newsAt = v.newsAt ∧ w.id < v.id)

theorem mem_chatsOf : v ∈ t.chatsOf user ↔
    ∃ id chat, t.chats.get? id = some chat ∧ t.summary? user chat = some v := by
  unfold chatsOf
  rw [List.mem_mergeSort, List.mem_filterMap]
  constructor
  · rintro ⟨chat, hchat, hv⟩
    obtain ⟨id, hid⟩ := mem_values.1 hchat
    exact ⟨id, chat, hid, hv⟩
  · rintro ⟨id, chat, hid, hv⟩
    exact ⟨chat, mem_values.2 ⟨id, hid⟩, hv⟩

theorem Sound.nodup_chatsOf (h : t.Sound) (user : UserId) :
    ((t.chatsOf user).map (·.id)).Nodup := by
  have hperm := (List.mergeSort_perm (t.chats.values.filterMap (t.summary? user))
    fun a b => chatsOf.precedes a b).map ChatView.id
  exact hperm.nodup_iff.2 (List.pairwise_map.2 (h.pairwise_views user))

/-- Of two different chats, the one that may come first does so strictly. -/
theorem strictly_precedes {a b : ChatView} (h : chatsOf.precedes a b = true) (hne : a.id ≠ b.id) :
    b.newsAt.before a.newsAt = true ∨ (b.newsAt = a.newsAt ∧ b.id < a.id) := by
  rcases precedes_iff.1 h with hsecond | ⟨hsecond, hnano | ⟨hnano, hid⟩⟩
  · exact Or.inl (by simp [Timestamp.before, hsecond])
  · exact Or.inl (by simp [Timestamp.before, hsecond, hnano])
  · have hlt : b.id < a.id := by
      refine Int64.lt_of_le_of_ne (Int64.le_iff_toInt_le.2 hid) hne.symm
    refine Or.inr ⟨?_, hlt⟩
    cases hb : b.newsAt
    cases ha : a.newsAt
    simp_all

/-- **The list that a user is shown is right.** -/
theorem Sound.overview (h : t.Sound) (hlast : 0 ≤ t.lastMessage.toInt) (user : UserId) :
    t.Overview user (t.chatsOf user) := by
  constructor
  case complete =>
    intro id
    rw [List.mem_map]
    constructor
    · rintro ⟨v, hv, rfl⟩
      obtain ⟨id, chat, hchat, hsummary⟩ := mem_chatsOf.1 hv
      obtain ⟨hid, huser⟩ := summary?_eq_some hsummary
      obtain rfl := h.id_eq hchat
      exact ⟨chat, hid ▸ hchat, huser⟩
    · rintro ⟨chat, hchat, huser⟩
      obtain rfl := h.id_eq hchat
      rw [← Chat.isSome_other?, Option.isSome_iff_exists] at huser
      obtain ⟨other, hother⟩ := huser
      exact ⟨_, mem_chatsOf.2 ⟨chat.id, chat, hchat, Option.map_eq_some_iff.2 ⟨other, hother, rfl⟩⟩,
        rfl⟩
  case once => exact h.nodup_chatsOf user
  case shows =>
    intro v hv
    obtain ⟨id, chat, hchat, hsummary⟩ := mem_chatsOf.1 hv
    exact h.shows hlast hchat hsummary
  case ordered =>
    have hsorted : (t.chatsOf user).Pairwise fun a b => chatsOf.precedes a b = true :=
      List.pairwise_mergeSort precedes_trans precedes_total _
    have hdistinct := List.pairwise_map.1 (h.nodup_chatsOf user)
    exact (hsorted.and hdistinct).imp fun hab => strictly_precedes hab.1 hab.2

/-- Tables that hold the same chats and logs under the same numbers fit together alike. -/
theorem Sound.of_get? (h : t.Sound) {chats : Table ChatId Chat} {logs : Table ChatId (List Message)}
    (hchats : ∀ id, chats.get? id = t.chats.get? id) (hlogs : ∀ id, logs.get? id = t.logs.get? id) :
    ({ t with chats := chats, logs := logs } : Records).Sound := by
  have hlog : ∀ id, ({ t with chats := chats, logs := logs } : Records).log id = t.log id :=
    fun id => congrArg (·.getD []) (hlogs id)
  constructor
  case swipe_key => exact h.swipe_key
  case chat_of_pair => simpa only [hchats] using h.chat_of_pair
  case pair_of_chat => simpa only [hchats] using h.pair_of_chat
  case chat_range => simpa only [hchats] using h.chat_range
  case log_chat => simpa only [hchats, hlogs] using h.log_chat
  case ascending => simpa only [hlog] using h.ascending
  case message_home => simpa only [hchats, hlog] using h.message_home
  case message_unique => simpa only [hlog] using h.message_unique
  case message_range => simpa only [hlog] using h.message_range

/-- **The list does not depend on the order in which the tables keep the chats.** -/
theorem Sound.chatsOf_eq (h : t.Sound) (hchats : ∀ id, t'.chats.get? id = t.chats.get? id)
    (hlogs : ∀ id, t'.logs.get? id = t.logs.get? id) (user : UserId) :
    t'.chatsOf user = t.chatsOf user := by
  -- the list is made from the chats and the logs, so that the other tables may be taken from `t`
  have hsame : t'.chatsOf user =
      ({ t with chats := t'.chats, logs := t'.logs } : Records).chatsOf user := rfl
  rw [hsame]
  refine chatsOf_congr (h.of_get? hchats hlogs) h (fun id chat _ => ?_) fun id chat _ _ => ?_
  · exact (congrArg (· = some chat) (hchats id)).to_iff
  · exact congrArg (·.getD []) (hlogs id)

end Rendezvous.Records

namespace Rendezvous.Annals

/-- **The store lists the chats of a user as they are**, and leaves nothing open. -/
structure ListsChats (t : Records) (user : UserId) : Prop where
  /-- The list is right, and asking for it changes nothing. -/
  overview : ∃ views, (∀ now, t.answer now (.chatsOf user) = (.ok views, t)) ∧
    t.Overview user views
  /-- Tables that hold the same chats and logs, in whichever order, give the same list. -/
  unordered : ∀ t' : Records, (∀ id, t'.chats.get? id = t.chats.get? id) →
    (∀ id, t'.logs.get? id = t.logs.get? id) → ∀ now,
    (t'.answer now (.chatsOf user)).1 = (t.answer now (.chatsOf user)).1

/-- The user 3 has chats with 7 and 9. The one with 9 was opened later and by an earlier clock, and
the chats of others are not seen. -/
def correspondents : List StoreEvent :=
  [.asked ⟨⟨5, 0⟩, .openMatch 7 3 "hello"⟩, .asked ⟨⟨2, 0⟩, .openChat 4 9⟩,
    .asked ⟨⟨3, 0⟩, .openChat 9 3⟩, .asked ⟨⟨9, 0⟩, .append ⟨2, 4, 9, "well", .text⟩⟩,
    .asked ⟨⟨5, 0⟩, .append ⟨3, 9, 3, "hi", .text⟩⟩,
    .asked ⟨⟨4, 0⟩, .append ⟨1, 7, 3, "oh", .text⟩⟩]

example : (empty.through correspondents).records.chatsOf 3 =
    [⟨3, 9, ⟨3, 0⟩, some "hi", some ⟨5, 0⟩, some 9, 1⟩,
      ⟨1, 7, ⟨5, 0⟩, some "oh", some ⟨4, 0⟩, some 7, 2⟩] := by
  cbv

end Rendezvous.Annals
