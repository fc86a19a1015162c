import Mathlib.Data.List.Basic
import Rendezvous.Proofs.Dealings.Setbacks
import Rendezvous.Proofs.Store.ReadMarks
import Rendezvous.Proofs.Store.Refusals
import Rendezvous.Proofs.Switchboard.Queues

/-!
# What readers report

A reader marks messages of a chat read, all of them or some by their numbers, and the other user of
the chat is told. This module says that what is told is what has changed, and that the answer counts
it (`Desk.reports`): the numbers that a reader names may come in any order, more than once, and may
be those of messages that are not there, that belong to other chats or that went to somebody else.
To be told is to get a notice into the queue of a connection, and a queue that is full takes none
(`Desk.reports_crowded`).

## What carries it

The numbers that the store answers are read off from the log of the chat, from its beginning to its
end, and not from what the reader named. Since a log is in the order of its numbers, so is the
answer (`Records.Sound.marks_markWhere`); and what the reader named matters only in so far as a
number is among it or not.

Whatever is marked read stays so. After a reader has read a whole chat there is nothing left to be
marked until a message comes in for the reader (`Desk.Faces.unread_of_read`).
-/

namespace Rendezvous

/-! ### Marks -/

namespace Records

variable {t t' : Records} {id : ChatId} {reader : UserId} {chosen : MessageId → Prop}
variable {l : List MessageId} {p : Message → Bool}

/-- **Exactly these messages of a chat were marked read**: the chosen ones to the reader that were
unread. -/
structure Marks (t : Records) (id : ChatId) (reader : UserId) (chosen : MessageId → Prop)
    (l : List MessageId) (t' : Records) : Prop where
  /-- They were chosen, they went to the reader, and they were unread. -/
  mem : ∀ n, n ∈ l ↔ chosen n ∧ ∃ m ∈ t.log id, m.id = n ∧ m.receiver = reader ∧ m.isRead = false
  /-- Their numbers are in order, and none comes twice. -/
  ascending : l.Pairwise (· < ·)
  /-- They are read now, and nothing else of the log is different. -/
  log : t'.log id = (t.log id).map (marked fun m => l.contains m.id)
  /-- The other logs are as they were. -/
  logs : ∀ id', id' ≠ id → t'.log id' = t.log id'
  /-- Nothing but logs is different. -/
  others : ∃ logs, t' = { t with logs := logs }

/-- **Marking messages of a kind**, if the kind is that of the chosen ones to the reader that are
unread. -/
theorem Sound.marks_markWhere (h : t.Sound)
    (hp : ∀ m, p m = true ↔ chosen m.id ∧ m.receiver = reader ∧ m.isRead = false) :
    t.Marks id reader chosen (t.markWhere id p).1 (t.markWhere id p).2 := by
  have hmem : ∀ n, n ∈ (t.markWhere id p).1 ↔ ∃ m ∈ t.log id, p m = true ∧ m.id = n := by
    intro n
    simp only [markWhere_fst, List.mem_map, List.mem_filter, and_assoc]
  constructor
  case mem =>
    intro n
    rw [hmem]
    constructor
    · rintro ⟨m, hm, hpm, rfl⟩
      obtain ⟨hchosen, hreceiver, hunread⟩ := (hp m).1 hpm
      exact ⟨hchosen, m, hm, rfl, hreceiver, hunread⟩
    · rintro ⟨hchosen, m, hm, rfl, hreceiver, hunread⟩
      exact ⟨m, hm, (hp m).2 ⟨hchosen, hreceiver, hunread⟩, rfl⟩
  case ascending =>
    rw [markWhere_fst]
    exact List.pairwise_map.2 ((h.ascending id).filter p)
  case log =>
    rw [log_markWhere, if_pos rfl]
    refine List.map_congr_left fun m hm => ?_
    -- a number in the list is that of a message of the kind, and it belongs to one message only
    have hsame : p m = (t.markWhere id p).1.contains m.id := by
      rw [Bool.eq_iff_iff, List.contains_iff_mem, hmem]
      constructor
      · exact fun hpm => ⟨m, hm, hpm, rfl⟩
      · rintro ⟨m', hm', hpm, he⟩
        rwa [h.eq_of_id_eq hm hm' he.symm]
    rw [marked, marked, hsame]
  case logs =>
    intro id' hne
    rw [log_markWhere, if_neg hne]
  case others =>
    obtain ⟨logs, he, -⟩ := markWhere_eq t id p
    exact ⟨logs, he⟩

/-- All messages of a chat to the reader are marked. -/
theorem Sound.marks_all (h : t.Sound) (id : ChatId) (reader : UserId) :
    t.Marks id reader (fun _ => True) (t.markWhere id (isUnreadBy reader)).1
      (t.markWhere id (isUnreadBy reader)).2 :=
  h.marks_markWhere fun m => by simp [isUnreadBy]

/-- Those that are named are marked. -/
theorem Sound.marks_some (h : t.Sound) (id : ChatId) (reader : UserId) (ids : List MessageId) :
    t.Marks id reader (· ∈ ids) (t.markSomeRead id reader ids).1
      (t.markSomeRead id reader ids).2 :=
  h.marks_markWhere fun m => by simp [isUnreadBy, and_assoc, and_comm]

/-- What matters about a list of numbers is what is in it. -/
theorem markSomeRead_congr {ids ids' : List MessageId} (h : ∀ n, n ∈ ids ↔ n ∈ ids') :
    t.markSomeRead id reader ids = t.markSomeRead id reader ids' := by
  have hcontains : ∀ n, ids.contains n = ids'.contains n := fun n => by
    rw [Bool.eq_iff_iff, List.contains_iff_mem, List.contains_iff_mem, h]
  simp only [markSomeRead, hcontains]

/-- A message to the reader is read after all of them were marked. -/
theorem Marks.isRead (h : t.Marks id reader (fun _ => True) l t') {m : Message}
    (hm : m ∈ t'.log id) (hreceiver : m.receiver = reader) : m.isRead = true := by
  rw [h.log] at hm
  obtain ⟨before, hbefore, rfl⟩ := List.mem_map.1 hm
  change (before.isRead || l.contains before.id) = true
  cases hunread : before.isRead with
  | true => rfl
  | false =>
    rw [Bool.false_or, List.contains_iff_mem, h.mem]
    exact ⟨trivial, before, hbefore, rfl, hreceiver, hunread⟩

/-- Where nothing is unread, nothing is marked. -/
theorem Marks.eq_nil (h : t.Marks id reader chosen l t')
    (hread : ∀ m ∈ t.log id, m.receiver = reader → m.isRead = true) : l = [] := by
  refine List.eq_nil_iff_forall_not_mem.2 fun n hn => ?_
  obtain ⟨-, m, hm, -, hreceiver, hunread⟩ := (h.mem n).1 hn
  exact absurd ((hread m hm hreceiver).symm.trans hunread) (by simp)

end Records

namespace Annals

variable {a : Annals} {events : List StoreEvent} {id : ChatId} {reader : UserId}

/-- **What is read stays so**: if everything to the reader is read, and nothing has come in for the
reader since, then everything still is. -/
theorem Kept.stays_read (h : a.Kept) (hroom : (a.through events).HasRoom)
    (hread : ∀ m ∈ a.records.log id, m.receiver = reader → m.isRead = true)
    (hold : ∀ m ∈ (a.through events).records.log id, m.receiver = reader →
      ∃ m' ∈ a.records.log id, m'.id = m.id) :
    ∀ m ∈ (a.through events).records.log id, m.receiver = reader → m.isRead = true := by
  intro m hm hreceiver
  obtain ⟨p, rest, hlog, hnew⟩ := h.continues_through hroom id
  obtain ⟨m', hm', hid⟩ := hold m hm hreceiver
  rw [hlog] at hm
  rcases List.mem_append.1 hm with hm | hm
  · obtain ⟨before, hbefore, rfl⟩ := List.mem_map.1 hm
    change (before.isRead || p before) = true
    rw [hread before hbefore hreceiver, Bool.true_or]
  · -- a message that came in later has a number that was not there before
    exact absurd (h.lt_of_new (hnew m hm) hm') (by rw [hid]; exact Int64.lt_irrefl)

end Annals

/-! ### Reports at a desk -/

namespace Desk

open Correspondence

variable {clock : Nat → Timestamp} {d e : Desk} {reader other : UserId} {id : ChatId} {chat : Chat}
variable {chosen : MessageId → Prop} {notice : Notice} {l : List MessageId} {t' : Records}

/-- The desk after a reader's chat was found and messages of it were marked. -/
def marked (d : Desk) (t' : Records) : Desk :=
  { d with annals := { d.annals with records := t' }, ticks := d.ticks + 2 }

/-- The desk after the other user was told as well, if there was anything to tell. -/
def reported (d : Desk) (t' : Records) (other : UserId) (notice : Notice) (l : List MessageId) :
    Desk :=
  if l = [] then d.marked t' else ((d.marked t').push other notice).2

theorem perform_tellOther (hother : chat.other? reader = some other) (notice : Notice) (d : Desk) :
    perform clock (tellOther chat reader notice) d = (.ok (), (d.push other notice).2) := by
  unfold tellOther
  rw [hother]
  rfl

/-- **To read a chat** is to mark all its messages to the reader. -/
theorem perform_readChat (clock : Nat → Timestamp)
    (hchat : d.annals.records.chats.get? id = some chat) (huser : chat.hasMember reader = true)
    (hother : chat.other? reader = some other) :
    perform clock (readChat reader id) d =
      (.ok (d.annals.records.markWhere id (Records.isUnreadBy reader)).1.length,
        d.reported (d.annals.records.markWhere id (Records.isUnreadBy reader)).2 other
          (.readChat id reader) (d.annals.records.markWhere id (Records.isUnreadBy reader)).1) := by
  have hstore : perform clock (Task.store (.markAllRead id reader))
      { d with ticks := d.ticks + 1 } =
      (.ok (d.annals.records.markWhere id (Records.isUnreadBy reader)).1.length,
        d.marked (d.annals.records.markWhere id (Records.isUnreadBy reader)).2) :=
    (perform_store (.markAllRead id reader) _).trans rfl
  unfold readChat reported
  rw [perform_bind_ok (perform_ownChat_of_member hchat huser), perform_bind_ok hstore]
  cases (d.annals.records.markWhere id (Records.isUnreadBy reader)).1 with
  | nil => rfl
  | cons n rest => exact perform_bind_ok (perform_tellOther hother _ _)

/-- **To read messages** is to mark those that are named. -/
theorem perform_readMessages (clock : Nat → Timestamp)
    (hchat : d.annals.records.chats.get? id = some chat) (huser : chat.hasMember reader = true)
    (hother : chat.other? reader = some other) {ids : List MessageId} (hne : ids ≠ []) :
    perform clock (readMessages reader id ids) d =
      (.ok (d.annals.records.markSomeRead id reader ids).1.length,
        d.reported (d.annals.records.markSomeRead id reader ids).2 other
          (.readMessages id reader (d.annals.records.markSomeRead id reader ids).1)
          (d.annals.records.markSomeRead id reader ids).1) := by
  have hstore : perform clock (Task.store (.markSomeRead id reader ids))
      { d with ticks := d.ticks + 1 } =
      (.ok (d.annals.records.markSomeRead id reader ids).1,
        d.marked (d.annals.records.markSomeRead id reader ids).2) :=
    (perform_store (.markSomeRead id reader ids) _).trans rfl
  have hempty : ¬ids.isEmpty = true := mt List.isEmpty_iff.1 hne
  unfold readMessages reported
  rw [if_neg hempty, perform_bind_ok (perform_ownChat_of_member hchat huser),
    perform_bind_ok hstore]
  cases (d.annals.records.markSomeRead id reader ids).1 with
  | nil => rfl
  | cons n rest => exact perform_bind_ok (perform_tellOther hother _ _)

/-- **What comes of a report**: the answer, the marks and the notice say the same. -/
structure Receipt (reader : UserId) (id : ChatId) (other : UserId) (chosen : MessageId → Prop)
    (notice : Notice) (l : List MessageId) (d : Desk) (out : Except Refusal Nat × Desk) : Prop where
  /-- The answer is how many messages were marked. -/
  answer : out.1 = .ok l.length
  /-- Exactly these messages were marked. -/
  marks : d.annals.records.Marks id reader chosen l out.2.annals.records
  /-- If there are none, nobody is told. -/
  silent : l = [] → d.Silent out.2
  /-- If there are any, one notice is pushed, to the other user of the chat. -/
  told : l ≠ [] → out.2.pushed = d.pushed ++ [(other, notice)] ∧
    d.board.GivenTo other notice out.2.board

theorem receipt_reported (h : d.annals.records.Marks id reader chosen l t') (other : UserId)
    (notice : Notice) :
    Receipt reader id other chosen notice l d (.ok l.length, d.reported t' other notice l) := by
  unfold reported
  by_cases hl : l = []
  · rw [if_pos hl]
    exact ⟨rfl, h, fun _ => ⟨rfl, rfl⟩, fun hne => absurd hl hne⟩
  · rw [if_neg hl]
    exact ⟨rfl, h, fun he => absurd he hl, fun _ => ⟨rfl, Switchboard.givenTo_send ..⟩⟩

/-- The tables fit together, and this is a chat in which the reader faces the other user. -/
structure Faces (d : Desk) (reader : UserId) (id : ChatId) (other : UserId) : Prop where
  /-- The tables fit together. -/
  kept : d.annals.Kept
  /-- The chat joins the two. -/
  chat : ∃ chat, d.annals.records.chats.get? id = some chat ∧ chat.Joins reader other

theorem Faces.found (h : d.Faces reader id other) : ∃ chat,
    d.annals.records.chats.get? id = some chat ∧ chat.hasMember reader = true ∧
      chat.other? reader = some other := by
  obtain ⟨chat, hchat, hjoins⟩ := h.chat
  have hlt := h.kept.sound.user_lt hchat
  exact ⟨chat, hchat, hjoins.hasMember, (Chat.other?_eq_some_iff hlt).2 hjoins⟩

theorem Faces.receipt_readChat (h : d.Faces reader id other) (clock : Nat → Timestamp) :
    Receipt reader id other (fun _ => True) (.readChat id reader)
      (d.annals.records.markWhere id (Records.isUnreadBy reader)).1 d
      (perform clock (readChat reader id) d) := by
  obtain ⟨chat, hchat, huser, hother⟩ := h.found
  rw [perform_readChat clock hchat huser hother]
  exact receipt_reported (h.kept.sound.marks_all id reader) other _

theorem Faces.receipt_readMessages (h : d.Faces reader id other) (clock : Nat → Timestamp)
    {ids : List MessageId} (hne : ids ≠ []) :
    Receipt reader id other (· ∈ ids)
      (.readMessages id reader (d.annals.records.markSomeRead id reader ids).1)
      (d.annals.records.markSomeRead id reader ids).1 d
      (perform clock (readMessages reader id ids) d) := by
  obtain ⟨chat, hchat, huser, hother⟩ := h.found
  rw [perform_readMessages clock hchat huser hother hne]
  exact receipt_reported (h.kept.sound.marks_some id reader ids) other _

/-- A list of numbers is as good as any other one with the same numbers in it. -/
theorem Faces.readMessages_congr (h : d.Faces reader id other) (clock : Nat → Timestamp)
    {ids ids' : List MessageId} (hsame : ∀ n, n ∈ ids ↔ n ∈ ids') :
    perform clock (readMessages reader id ids) d =
      perform clock (readMessages reader id ids') d := by
  obtain ⟨chat, hchat, huser, hother⟩ := h.found
  have hempty : ids = [] ↔ ids' = [] := by
    simp only [List.eq_nil_iff_forall_not_mem, hsame]
  by_cases hne : ids = []
  · rw [hne, hempty.1 hne]
  · rw [perform_readMessages clock hchat huser hother hne,
      perform_readMessages clock hchat huser hother (mt hempty.2 hne),
      Records.markSomeRead_congr hsame]

/-- **A chat that was read has nothing unread**, whatever has happened since, until a message comes
in for the reader. -/
theorem Faces.unread_of_read (h : d.Faces reader id other) {later : List StoreEvent}
    (he : e.annals = (perform clock (readChat reader id) d).2.annals.through later)
    (hroom : e.annals.HasRoom)
    (hold : ∀ m ∈ e.annals.records.log id, m.receiver = reader →
      ∃ m' ∈ (perform clock (readChat reader id) d).2.annals.records.log id, m'.id = m.id) :
    e.Faces reader id other ∧
      ∀ m ∈ e.annals.records.log id, m.receiver = reader → m.isRead = true := by
  have hmarks := (h.receipt_readChat clock).marks
  rw [he] at hroom hold
  have hkept : (perform clock (readChat reader id) d).2.annals.Kept :=
    kept_of_run h.kept hroom.of_through
  constructor
  · refine ⟨he ▸ hkept.through hroom, ?_⟩
    obtain ⟨chat, hchat, hjoins⟩ := h.chat
    have hstays : (perform clock (readChat reader id) d).2.annals.records.chats.get? id =
        some chat := by
      obtain ⟨logs, hlogs⟩ := hmarks.others
      rw [hlogs]
      exact hchat
    rw [he]
    exact ⟨chat, (hkept.extends_through hroom).chat id chat hstays, hjoins⟩
  · rw [he]
    exact hkept.stays_read hroom (fun m hm hreceiver => hmarks.isRead hm hreceiver) hold

/-- **What a reader reports about a chat**, and what comes of it. -/
structure Reports (clock : Nat → Timestamp) (reader : UserId) (id : ChatId) (other : UserId)
    (d : Desk) : Prop where
  /-- Of the messages that are named those are marked that went to the reader and were unread, and
  the other user is told which. -/
  named : ∀ ids, ids ≠ [] → ∃ l, Receipt reader id other (· ∈ ids) (.readMessages id reader l) l d
    (perform clock (readMessages reader id ids) d)
  /-- In which order the messages are named, and how often, does not matter. -/
  unordered : ∀ ids ids', (∀ n, n ∈ ids ↔ n ∈ ids') →
    perform clock (readMessages reader id ids) d = perform clock (readMessages reader id ids') d
  /-- To read the chat is to mark all that went to the reader and were unread. -/
  whole : ∃ l, Receipt reader id other (fun _ => True) (.readChat id reader) l d
    (perform clock (readChat reader id) d)
  /-- After that, nothing is marked and nobody is told, whatever happens, until a message comes in
  for the reader. -/
  again : ∀ (later : List StoreEvent) (e : Desk),
    e.annals = (perform clock (readChat reader id) d).2.annals.through later → e.annals.HasRoom →
    (∀ m ∈ e.annals.records.log id, m.receiver = reader →
      ∃ m' ∈ (perform clock (readChat reader id) d).2.annals.records.log id, m'.id = m.id) →
    Receipt reader id other (fun _ => True) (.readChat id reader) [] e
        (perform clock (readChat reader id) e) ∧
      ∀ ids, ids ≠ [] → Receipt reader id other (· ∈ ids) (.readMessages id reader []) [] e
        (perform clock (readMessages reader id ids) e)

/-- **Whoever takes part in a chat reports what has changed**, after any history and whoever is
connected, as long as the numbers of chats and messages last. -/
theorem reports (clock : Nat → Timestamp) (board : Switchboard) {events : List StoreEvent}
    (hroom : (Annals.empty.through events).HasRoom)
    (hchat : (Annals.empty.through events).records.chats.get? id = some chat)
    (huser : chat.hasMember reader = true) :
    ∃ other, chat.Joins reader other ∧
      Reports clock reader id other (start (Annals.empty.through events) board) := by
  have hkept := Annals.kept_through hroom
  obtain ⟨other, hjoins⟩ := Chat.exists_joins (hkept.sound.user_lt hchat) huser
  have hfaces : (start (Annals.empty.through events) board).Faces reader id other :=
    ⟨hkept, chat, hchat, hjoins⟩
  refine ⟨other, hjoins, ?_⟩
  constructor
  case named => exact fun ids hne => ⟨_, hfaces.receipt_readMessages clock hne⟩
  case unordered => exact fun ids ids' hsame => hfaces.readMessages_congr clock hsame
  case whole => exact ⟨_, hfaces.receipt_readChat clock⟩
  case again =>
    intro later e he hlater hold
    obtain ⟨hfaces', hread⟩ := hfaces.unread_of_read he hlater hold
    constructor
    · have hreceipt := hfaces'.receipt_readChat clock
      rwa [hreceipt.marks.eq_nil hread] at hreceipt
    · intro ids hne
      have hreceipt := hfaces'.receipt_readMessages clock hne
      rwa [hreceipt.marks.eq_nil hread] at hreceipt

/-- The user 3 has written to 7 twice, and 7 has answered. -/
def unanswered : List StoreEvent :=
  [.asked ⟨⟨0, 0⟩, .openChat 3 7⟩, .asked ⟨⟨1, 0⟩, .append ⟨1, 3, 7, "hi", .text⟩⟩,
    .asked ⟨⟨2, 0⟩, .append ⟨1, 7, 3, "oh", .text⟩⟩,
    .asked ⟨⟨3, 0⟩, .append ⟨1, 3, 7, "well", .text⟩⟩]

theorem reports_unanswered :
    (Annals.empty.through unanswered).HasRoom ∧
    (Annals.empty.through unanswered).records.chats.get? 1 = some ⟨1, 3, 7, ⟨0, 0⟩⟩ ∧
    (⟨1, 3, 7, ⟨0, 0⟩⟩ : Chat).hasMember 7 = true ∧
    ∃ other, (⟨1, 3, 7, ⟨0, 0⟩⟩ : Chat).Joins 7 other ∧
      Reports (fun n => ⟨n, 0⟩) 7 1 other (start (Annals.empty.through unanswered) .empty) :=
  have hroom : (Annals.empty.through unanswered).HasRoom := by decide
  have hchat : (Annals.empty.through unanswered).records.chats.get? 1 =
      some ⟨1, 3, 7, ⟨0, 0⟩⟩ := by decide
  ⟨hroom, hchat, by decide, reports _ _ hroom hchat (by decide)⟩

/-- The user 3 is connected, with as many texts in the queue as there can be. -/
def crowded : Switchboard :=
  (List.range Limit.outboundFrames).foldl (fun h _ => (h.push 0 "x").2)
    ((Switchboard.empty.open 3 0).2.register 0).2

/-- **Not everybody who is connected is told**: two messages of 3 are marked, and nothing comes into
the queue of 3, since there is no room. -/
theorem reports_crowded :
    let d := start (Annals.empty.through unanswered) crowded
    let out := perform (fun n => ⟨n, 0⟩) (readMessages 7 1 [3, 1]) d
    crowded.current? 3 = some 0 ∧ out.1 = .ok 2 ∧
      out.2.pushed = [(3, .readMessages 1 7 [1, 3])] ∧
      out.2.board.connection? 0 = crowded.connection? 0 := by
  decide +kernel

end Desk

end Rendezvous
