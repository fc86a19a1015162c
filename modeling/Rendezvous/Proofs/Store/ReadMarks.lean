import Mathlib.Algebra.GroupWithZero.Nat
import Mathlib.Data.List.Basic
import Mathlib.Data.List.Induction
import Mathlib.Data.List.Nodup
import Rendezvous.Proofs.Store.Chronicle

/-!
# Logs only grow, and a message is read once

A reader marks messages read in two ways, all those of a chat or some of them by their numbers, and
is told how many they were, or which. Readers may name the same message again, name one that is not
theirs, or do both at once. This module says that all the same each message counts once, over any
history of the store (`Annals.logs_append_only`).

## The account

A message is unread when it is stored and never becomes unread again. So what is marked read by a
request is exactly what the answer counts (`Records.readCount_answer`), and the replies to a whole
history add up to the number of messages that are read in the end. The logs are in a table under the
numbers of their chats; putting a log in the place of another one changes the count by the one log
less the other (`Records.readCount_insert`).

The numbers that are named in an answer are those of unread messages, and they are read from then
on. Since a number belongs to one message only, in whichever chat, it is not named again.
-/

namespace Rendezvous

/-! ### Counting in a table -/

namespace Table

variable {κ β : Type} [DecidableEq κ] {t t' : Table κ β} {k : κ} {b : β}

/-- Two tables that hold the same have the same entries, if in another order. -/
theorem entries_perm_of_get? (h : ∀ k, t.get? k = t'.get? k) : t.entries.Perm t'.entries := by
  refine (List.perm_ext_iff_of_nodup (.of_map _ t.distinct) (.of_map _ t'.distinct)).2 ?_
  rintro ⟨k, b⟩
  rw [mem_entries, mem_entries, h]

/-- A table has the entry under a key, and what there is without it. -/
theorem entries_perm (h : t.get? k = some b) :
    t.entries.Perm ((k, b) :: (t.erase k).entries) := by
  have hnot : (k, b) ∉ (t.erase k).entries := by simp [mem_entries]
  refine (List.perm_ext_iff_of_nodup (.of_map _ t.distinct)
    (List.nodup_cons.2 ⟨hnot, .of_map _ (t.erase k).distinct⟩)).2 ?_
  rintro ⟨k', b'⟩
  rw [List.mem_cons, mem_entries, mem_entries]
  by_cases hk : k' = k
  · subst hk
    simp [h, eq_comm]
  · simp [hk, get?_erase_of_ne]

theorem values_perm (h : t.get? k = some b) : t.values.Perm (b :: (t.erase k).values) :=
  (entries_perm h).map _

theorem values_erase_perm (h : t.get? k = none) : (t.erase k).values.Perm t.values := by
  refine (entries_perm_of_get? fun k' => ?_).map _
  by_cases hk : k' = k
  · subst hk
    rw [get?_erase_self, h]
  · exact get?_erase_of_ne t hk

theorem values_insert_perm (t : Table κ β) (k : κ) (b : β) :
    (t.insert k b).values.Perm (b :: (t.erase k).values) := by
  refine (values_perm (get?_insert_self t k b)).trans (.cons _ ?_)
  refine (entries_perm_of_get? fun k' => ?_).map _
  by_cases hk : k' = k
  · subst hk
    rw [get?_erase_self, get?_erase_self]
  · rw [get?_erase_of_ne _ hk, get?_erase_of_ne _ hk, get?_insert_of_ne _ _ hk]

end Table

/-! ### What replies say -/

/-- How many messages an answer says were marked read. -/
def StoreRequest.messagesRead : (r : StoreRequest) → Except StoreError r.Answer → Nat
  | .markAllRead .., .ok n => n
  | .markSomeRead .., .ok ids => ids.length
  | _, _ => 0

namespace StoreReply

/-- How many messages were marked read. -/
def messagesRead (r : StoreReply) : Nat :=
  r.request.messagesRead r.answer

/-- The messages that were named because they were marked read. -/
def named : StoreReply → List MessageId
  | ⟨.markSomeRead .., .ok ids⟩ => ids
  | _ => []

end StoreReply

namespace Records

variable {t t' : Records} {now : Timestamp}

/-! ### Messages that are read -/

/-- The messages of all chats. -/
def messages (t : Records) : List Message :=
  t.logs.values.flatten

/-- How many messages are marked read. -/
def readCount (t : Records) : Nat :=
  t.messages.countP (·.isRead)

/-- **A log put in the place of another one** changes the count by the one less the other. -/
theorem readCount_insert (t : Records) (id : ChatId) (l : List Message) :
    ({ t with logs := t.logs.insert id l } : Records).readCount + (t.log id).countP (·.isRead) =
      t.readCount + l.countP (·.isRead) := by
  -- the table with the log, and the table before, are this log and the same others
  have hnew := ((t.logs.values_insert_perm id l).flatten).countP_eq (·.isRead)
  have hold : (t.log id).countP (·.isRead) + (t.logs.erase id).values.flatten.countP (·.isRead) =
      t.readCount := by
    cases hl : t.logs.get? id with
    | none =>
      have he := (Table.values_erase_perm hl).flatten.countP_eq (·.isRead)
      simpa [log, hl, readCount, messages] using he
    | some old =>
      have he := (Table.values_perm hl).flatten.countP_eq (·.isRead)
      simpa [log, hl, readCount, messages] using he.symm
  simp only [List.flatten_cons, List.countP_append] at hnew
  simp only [readCount, messages] at hold ⊢
  omega

theorem readCount_stored (m : PendingMessage) : (t.stored now m).readCount = t.readCount := by
  have hinsert := t.readCount_insert m.chat (t.log m.chat ++ [t.nextMessage now m])
  have hunread : (t.log m.chat ++ [t.nextMessage now m]).countP (·.isRead) =
      (t.log m.chat).countP (·.isRead) := by
    simp [nextMessage]
  exact Nat.add_right_cancel (hinsert.trans (by rw [hunread]))

/-- Of unread messages, as many are read afterwards as were marked. -/
theorem countP_marked {p : Message → Bool} (hp : ∀ m, p m = true → m.isRead = false)
    (l : List Message) :
    (l.map (marked p)).countP (·.isRead) = l.countP (·.isRead) + (l.filter p).length := by
  induction l with
  | nil => rfl
  | cons m l ih =>
    have hm : (marked p m).isRead = (m.isRead || p m) := rfl
    cases hpm : p m with
    | false => simp [List.countP_cons, hm, hpm, ih]; omega
    | true => simp [hm, hpm, hp m hpm, ih]; omega

/-- **Marking unread messages read** counts each of them. -/
theorem readCount_markWhere (chat : ChatId) {p : Message → Bool}
    (hp : ∀ m, p m = true → m.isRead = false) :
    (t.markWhere chat p).2.readCount = t.readCount + (t.markWhere chat p).1.length := by
  unfold markWhere
  cases hl : t.logs.get? chat with
  | none => rfl
  | some l =>
    have hlog : t.log chat = l := by simp [log, hl]
    have hinsert := t.readCount_insert chat (l.map (marked p))
    rw [countP_marked hp, hlog, Nat.add_left_comm, Nat.add_comm (l.countP _)] at hinsert
    simp only [marked_eq, List.length_map]
    exact Nat.add_right_cancel hinsert

theorem isRead_of_isUnreadBy {reader : UserId} {m : Message} (h : isUnreadBy reader m = true) :
    m.isRead = false := by
  simp only [isUnreadBy, Bool.and_eq_true, Bool.not_eq_true'] at h
  exact h.2

/-- **The answer says how many messages were marked read.** -/
theorem readCount_answer (t : Records) (now : Timestamp) (r : StoreRequest) :
    (t.answer now r).2.readCount = t.readCount + r.messagesRead (t.answer now r).1 := by
  cases r with
  | openChat a b =>
    rw [answer]
    rcases t.openChat_cases now a b with ⟨-, ho⟩ | ⟨-, id, -, ho⟩ | ⟨-, -, ho⟩ <;> rw [ho] <;> rfl
  | openMatch a b content =>
    rw [answer]
    rcases t.openMatch_cases now a b content with ⟨-, ho⟩ | ⟨-, id, -, ho⟩ | ⟨-, -, ho⟩ <;> rw [ho]
    · rfl
    · rfl
    · exact readCount_stored _
  | append m =>
    rw [answer]
    rcases t.append_cases now m with ⟨-, ho⟩ | ⟨chat, -, -, ho⟩ | ⟨chat, -, -, -, ho⟩ <;> rw [ho]
    · rfl
    · rfl
    · exact readCount_stored _
  | markAllRead chat reader => exact readCount_markWhere chat fun _ => isRead_of_isUnreadBy
  | markSomeRead chat reader ids =>
    refine readCount_markWhere chat fun m hm => ?_
    exact isRead_of_isUnreadBy (Bool.and_eq_true_iff.1 hm).1
  | _ => rfl

/-! ### Messages that are named -/

/-- What an answer names are the numbers of messages of the chat that were unread. -/
theorem mem_markSomeRead {chat : ChatId} {reader : UserId} {ids : List MessageId} {n : MessageId}
    (hn : n ∈ (t.markSomeRead chat reader ids).1) :
    ∃ m ∈ t.log chat, m.id = n ∧ m.isRead = false := by
  unfold markSomeRead markWhere at hn
  cases hl : t.logs.get? chat with
  | none => simp [hl] at hn
  | some l =>
    simp only [hl] at hn
    obtain ⟨m, hm, rfl⟩ := List.mem_map.1 hn
    obtain ⟨hm, hp⟩ := List.mem_filter.1 hm
    exact ⟨m, by simpa [log, hl] using hm, rfl,
      isRead_of_isUnreadBy (Bool.and_eq_true_iff.1 hp).1⟩

/-- An answer names nothing twice. -/
theorem Sound.nodup_markWhere (h : t.Sound) (chat : ChatId) (p : Message → Bool) :
    (t.markWhere chat p).1.Nodup := by
  unfold Records.markWhere
  cases hl : t.logs.get? chat with
  | none => exact List.nodup_nil
  | some l =>
    have hasc := h.ascending chat
    simp only [log, hl, Option.getD_some] at hasc
    exact List.pairwise_map.2 ((hasc.filter _).imp fun hlt => Int64.ne_of_lt hlt)

/-- A number belongs to one message. -/
theorem Sound.eq_of_id_eq (h : t.Sound) {id id' : ChatId} {m m' : Message} (hm : m ∈ t.log id)
    (hm' : m' ∈ t.log id') (he : m.id = m'.id) : m = m' := by
  obtain rfl := h.message_unique id id' m m' hm hm' he
  have hnodup : ((t.log id).map (·.id)).Nodup :=
    List.pairwise_map.2 ((h.ascending id).imp fun hlt => Int64.ne_of_lt hlt)
  exact List.inj_on_of_nodup_map hnodup hm hm' he

/-- The number is that of a message that is read. -/
def IsRead (t : Records) (n : MessageId) : Prop :=
  ∃ id, ∃ m ∈ t.log id, m.id = n ∧ m.isRead = true

/-- What is read stays read. -/
theorem Continues.isRead {new : MessageId → Prop} (h : t.Continues new t') {n : MessageId}
    (hn : t.IsRead n) : t'.IsRead n := by
  obtain ⟨id, m, hm, rfl, hread⟩ := hn
  obtain ⟨p, hp⟩ := h.mem hm
  exact ⟨id, _, hp, rfl, by simp [marked, hread]⟩

/-- A number that is named now is not that of a message that was read. -/
theorem Sound.not_isRead_of_mem (h : t.Sound) {chat : ChatId} {reader : UserId}
    {ids : List MessageId} {n : MessageId} (hn : n ∈ (t.markSomeRead chat reader ids).1) :
    ¬t.IsRead n := by
  rintro ⟨id, m, hm, rfl, hread⟩
  obtain ⟨m', hm', he, hunread⟩ := mem_markSomeRead hn
  obtain rfl := h.eq_of_id_eq hm' hm he
  rw [hread] at hunread
  exact absurd hunread (by simp)

/-- **What an answer names** is named once in it, was not read before and is read afterwards. -/
theorem Sound.named_answer (h : t.Sound) (now : Timestamp) (r : StoreRequest) :
    (StoreReply.named ⟨r, (t.answer now r).1⟩).Nodup ∧
      ∀ n ∈ StoreReply.named ⟨r, (t.answer now r).1⟩,
        ¬t.IsRead n ∧ (t.answer now r).2.IsRead n := by
  cases r with
  | markSomeRead chat reader ids =>
    refine ⟨h.nodup_markWhere chat _, fun n hn => ⟨h.not_isRead_of_mem hn, ?_⟩⟩
    obtain ⟨m, hm, hid, -, hread⟩ := vouches_markSomeRead n hn
    exact ⟨chat, m, hm, hid, hread⟩
  | _ => exact ⟨List.nodup_nil, fun n hn => absurd hn List.not_mem_nil⟩

end Records

namespace Annals

variable {events : List StoreEvent}

/-! ### Over a history -/

/-- How many messages were marked read, as the replies say. -/
def marksCounted (a : Annals) (events : List StoreEvent) : Nat :=
  ((a.replies events).map StoreReply.messagesRead).sum

/-- The messages that were named as marked read, in the order of the replies. -/
def marksNamed (a : Annals) (events : List StoreEvent) : List MessageId :=
  (a.replies events).flatMap StoreReply.named

/-- **The replies add up** to the number of messages that are read. -/
theorem marksCounted_eq (events : List StoreEvent) :
    empty.marksCounted events = (empty.through events).records.readCount := by
  induction events using List.reverseRecOn with
  | nil => rfl
  | append_singleton events e ih =>
    unfold marksCounted at ih ⊢
    rw [replies_concat, through_concat, List.map_append, List.sum_append, ih]
    cases e with
    | asked d =>
      have hstep := (empty.through events).records.readCount_answer d.now d.request
      simp only [reply?, Option.toList_some, List.map_singleton, List.sum_singleton]
      exact hstep.symm
    | granted token user => rfl

/-- **Who is named is read, and nobody is named twice**, as long as the numbers last. -/
theorem marksNamed_nodup (hroom : (empty.through events).HasRoom) :
    (empty.marksNamed events).Nodup ∧
      ∀ n ∈ empty.marksNamed events, (empty.through events).records.IsRead n := by
  induction events using List.reverseRecOn with
  | nil => exact ⟨List.nodup_nil, by simp [marksNamed, replies]⟩
  | append_singleton events e ih =>
    rw [through_concat] at hroom
    have hbefore : (empty.through events).HasRoom := hroom.of_happen
    obtain ⟨hnodup, hread⟩ := ih hbefore
    have hsound := (kept_through hbefore).sound
    -- what was named before is still read, and is not named now
    have hstill : ∀ n ∈ empty.marksNamed events,
        ((empty.through events).happen e).records.IsRead n :=
      fun n hn => ((empty.through events).continues_happen e).isRead (hread n hn)
    unfold marksNamed at hnodup hread hstill ⊢
    rw [replies_concat, through_concat, List.flatMap_append]
    cases e with
    | granted token user =>
      rw [reply?, Option.toList_none, List.flatMap_nil, List.append_nil]
      exact ⟨hnodup, hstill⟩
    | asked d =>
      obtain ⟨hnew, hnow⟩ := hsound.named_answer d.now d.request
      rw [reply?, Option.toList_some, List.flatMap_singleton]
      refine ⟨List.nodup_append.2 ⟨hnodup, hnew, ?_⟩, ?_⟩
      · rintro n hn n' hn' rfl
        exact (hnow n hn').1 (hread n hn)
      · intro n hn
        rcases List.mem_append.1 hn with hn | hn
        · exact hstill n hn
        · exact (hnow n hn).2

/-- What was stored later has a greater number than everything that was there before, in any log. -/
theorem Kept.lt_of_new {a : Annals} (h : a.Kept) {id : ChatId} {m m' : Message}
    (hm : (a.stored : Int) < m.id.toInt) (hm' : m' ∈ a.records.log id) : m'.id < m.id :=
  Int64.lt_iff_toInt_lt.2 (Int.lt_of_le_of_lt (h.toInt_le hm') hm)

/-- **Logs only grow, and a message is read once.** What is said of the numbers of messages is for
as long as these last. -/
structure LogsGrow (events : List StoreEvent) : Prop where
  /-- A log begins with what stood in it after any part of the history, of which some was marked
  read and nothing else was changed. What came later has greater numbers than all that was there,
  in whichever chat. -/
  log : ∀ before, before <+: events → ∀ id, ∃ p rest,
    (empty.through events).records.log id =
        ((empty.through before).records.log id).map (Records.marked p) ++ rest ∧
      ((empty.through events).HasRoom → ∀ m ∈ rest, ∀ id',
        ∀ m' ∈ (empty.through before).records.log id', m'.id < m.id)
  /-- The numbers of messages that were marked read, as the replies say, add up to how many are
  read. -/
  counted : empty.marksCounted events = (empty.through events).records.readCount
  /-- No message is named twice because it was marked read, in one reply or in two. -/
  named_once : (empty.through events).HasRoom → (empty.marksNamed events).Nodup

/-- **In every history, logs only grow, and a message is read once.** -/
theorem logs_append_only (events : List StoreEvent) : LogsGrow events where
  log := by
    rintro before ⟨later, rfl⟩ id
    rw [through_append]
    by_cases hroom : ((empty.through before).through later).HasRoom
    · have hkept : (empty.through before).Kept := kept_through hroom.of_through
      obtain ⟨p, rest, hlog, hnew⟩ := hkept.continues_through hroom id
      exact ⟨p, rest, hlog, fun _ m hm id' m' hm' => hkept.lt_of_new (hnew m hm) hm'⟩
    · obtain ⟨p, rest, hlog, -⟩ := (empty.through before).continues_through later id
      exact ⟨p, rest, hlog, fun h => absurd h hroom⟩
  counted := marksCounted_eq events
  named_once hroom := (marksNamed_nodup hroom).1

/-- A message is named by its reader, named again, and then counted with the others no more. -/
example : empty.marksNamed [.asked ⟨⟨0, 0⟩, .openChat 1 2⟩,
    .asked ⟨⟨1, 0⟩, .append ⟨1, 1, 2, "a", .text⟩⟩,
    .asked ⟨⟨2, 0⟩, .append ⟨1, 1, 2, "b", .text⟩⟩, .asked ⟨⟨3, 0⟩, .markSomeRead 1 2 [1, 1, 7]⟩,
    .asked ⟨⟨4, 0⟩, .markSomeRead 1 2 [1]⟩, .asked ⟨⟨5, 0⟩, .markAllRead 1 2⟩] = [1] := by
  decide

end Annals

end Rendezvous
