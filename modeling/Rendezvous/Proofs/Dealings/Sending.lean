import Mathlib.Data.List.Basic
import Rendezvous.Proofs.Dealings.Setbacks
import Rendezvous.Proofs.Store.Refusals
import Rendezvous.Proofs.Switchboard.Queues

/-!
# What comes of a letter

A user sends a letter to another one, with a store that answers every call. It is refused for one of
five reasons, which are looked for in a fixed order (`Letter.Refused`), and a letter that is refused
leaves everything as it was. Any other letter is stored and told to its receiver
(`Desk.send_accounted`).

## Two ways to the chat

A letter may name its chat, or leave it to the service to find the chat of sender and receiver, and
to open it if there is none. Both ways lead to the same chat: a pair has one chat, which is filed
under the pair, and a letter that names any other is refused. So whichever way a letter has come,
its chat is what the store says when it is asked to open the chat of the two (`Desk.Placed`), and
this chat takes the message (`Records.Sound.append_of_openChat`).
-/

namespace Rendezvous

/-! ### The chat of two users -/

namespace Records

variable {t t' : Records} {now : Timestamp} {a b : UserId} {id : ChatId} {created : Bool}

/-- The chat of this number joins the two users. -/
def IsChatOf (t : Records) (id : ChatId) (a b : UserId) : Prop :=
  ∃ chat, t.chats.get? id = some chat ∧ chat.Joins a b

/-- **A pair has one chat**: the one that is filed under the pair. -/
theorem Sound.isChatOf_iff (h : t.Sound) (hne : a ≠ b) :
    t.IsChatOf id a b ↔ t.chatOfPair.get? (orderedPair a b) = some id := by
  constructor
  · rintro ⟨chat, hchat, hjoins⟩
    have hof := ((Chat.joins_iff (h.user_lt hchat)).1 hjoins).2
    rw [show orderedPair a b = (chat.user1, chat.user2) from beq_iff_eq.1 hof]
    exact h.pair_of_chat id chat hchat
  · intro hid
    obtain ⟨-, since, hchat⟩ := h.chat_of_pair (orderedPair a b).1 (orderedPair a b).2 id hid
    refine ⟨_, hchat, (Chat.joins_iff (h.user_lt hchat)).2 ⟨hne, ?_⟩⟩
    simp [Chat.isOf]

/-- **The chat of two users was asked for**: it was there, or it is new. -/
theorem openChat_ok_cases (h : t.openChat now a b = (.ok (id, created), t')) :
    a ≠ b ∧ ((created = false ∧ t.chatOfPair.get? (orderedPair a b) = some id ∧ t' = t) ∨
      (created = true ∧ t.chatOfPair.get? (orderedPair a b) = none ∧ id = t.lastChat + 1 ∧
        t' = t.filed now (orderedPair a b))) := by
  rcases t.openChat_cases now a b with ⟨-, ho⟩ | ⟨hne, id', hid, ho⟩ | ⟨hne, hnew, ho⟩ <;>
    rw [ho] at h
  · exact absurd (Prod.mk.inj h).1 (by simp)
  · obtain ⟨hok, rfl⟩ := Prod.mk.inj h
    obtain ⟨rfl, rfl⟩ := Prod.mk.inj (Except.ok.inj hok)
    exact ⟨hne, Or.inl ⟨rfl, hid, rfl⟩⟩
  · obtain ⟨hok, rfl⟩ := Prod.mk.inj h
    obtain ⟨rfl, rfl⟩ := Prod.mk.inj (Except.ok.inj hok)
    exact ⟨hne, Or.inr ⟨rfl, hnew, rfl, rfl⟩⟩

/-- It is the chat of the pair from then on. -/
theorem get?_chatOfPair_openChat (h : t.openChat now a b = (.ok (id, created), t')) :
    t'.chatOfPair.get? (orderedPair a b) = some id := by
  obtain ⟨-, ⟨-, hid, rfl⟩ | ⟨-, hnew, rfl, rfl⟩⟩ := openChat_ok_cases h
  · exact hid
  · exact (get?_chatOfPair_filed hnew).2 (Or.inr ⟨rfl, rfl⟩)

/-- Nothing but chats is touched. -/
theorem openChat_frame (h : t.openChat now a b = (.ok (id, created), t')) :
    t'.logs = t.logs ∧ t'.lastMessage = t.lastMessage ∧ t'.swipes = t.swipes ∧
      t'.accessTokens = t.accessTokens := by
  obtain ⟨-, ⟨-, -, rfl⟩ | ⟨-, -, -, rfl⟩⟩ := openChat_ok_cases h
  · exact ⟨rfl, rfl, rfl, rfl⟩
  · exact ⟨rfl, rfl, rfl, rfl⟩

/-- **The chat of two users takes a message of the one to the other.** -/
theorem Sound.append_of_openChat (h : t.Sound)
    (hopen : t.openChat now a b = (.ok (id, created), t')) (later : Timestamp) (content : String)
    (kind : Authorship) :
    t'.append later ⟨id, a, b, content, kind⟩ =
      (.ok (t'.nextMessage later ⟨id, a, b, content, kind⟩),
        t'.stored later ⟨id, a, b, content, kind⟩) := by
  obtain ⟨hne, ⟨-, hid, rfl⟩ | ⟨-, -, rfl, rfl⟩⟩ := openChat_ok_cases hopen
  · obtain ⟨-, since, hchat⟩ := h.chat_of_pair (orderedPair a b).1 (orderedPair a b).2 id hid
    refine (append_eq hchat).trans (if_neg ?_)
    simp [hne, Chat.isOf]
  · exact append_filed hne t now later content kind

end Records

/-! ### Letters -/

namespace Letter

variable {t : Records} {sender : UserId} {m : Letter} {refusal : Refusal}

/-- **A letter may be sent**, as far as it says itself. -/
structure Proper (sender : UserId) (m : Letter) : Prop where
  /-- It says something. -/
  content : ∃ c ∈ m.content.toList, isBlank c = false
  /-- It is not too long. -/
  length : m.content.length ≤ 4000
  /-- It goes to somebody else. -/
  other : m.receiver ≠ sender

/-- **A letter goes to the right chat**: if it names one, this is that of sender and receiver. -/
def Addressed (t : Records) (sender : UserId) (m : Letter) : Prop :=
  ∀ id, m.chat = some id → t.IsChatOf id sender m.receiver

/-- The chat is not there, or the user takes no part in it. -/
def Hidden (t : Records) (user : UserId) (id : ChatId) : Prop :=
  ∀ chat, t.chats.get? id = some chat → chat.hasMember user = false

/-- **Why a letter is refused.** The reasons are looked for in this order, and only the first one is
told. -/
inductive Refused (t : Records) (sender : UserId) (m : Letter) : Refusal → Prop where
  /-- It says nothing. -/
  | empty (hblank : ∀ c ∈ m.content.toList, isBlank c = true) : Refused t sender m .emptyContent
  /-- It is too long. -/
  | long (htext : ∃ c ∈ m.content.toList, isBlank c = false) (hlong : 4000 < m.content.length) :
      Refused t sender m .longContent
  /-- It goes to the sender. -/
  | own (htext : ∃ c ∈ m.content.toList, isBlank c = false) (hshort : m.content.length ≤ 4000)
      (hown : m.receiver = sender) : Refused t sender m .selfMessage
  /-- It names a chat that is not there, or none of the sender's. -/
  | hidden (hproper : m.Proper sender) {id : ChatId} (hid : m.chat = some id)
      (hhidden : Hidden t sender id) : Refused t sender m (.noChat id)
  /-- It names a chat of the sender with somebody else than the receiver. -/
  | foreign (hproper : m.Proper sender) {id : ChatId} (hid : m.chat = some id) {chat : Chat}
      (hchat : t.chats.get? id = some chat) (huser : chat.hasMember sender = true)
      (hjoins : ¬chat.Joins sender m.receiver) : Refused t sender m .foreignReceiver

/-- **A letter is refused, or it may be sent and goes to the right chat.** -/
theorem refused_or (t : Records) (sender : UserId) (m : Letter) :
    (∃ refusal, m.Refused t sender refusal) ∨ (m.Proper sender ∧ m.Addressed t sender) := by
  by_cases htext : ∃ c ∈ m.content.toList, isBlank c = false
  case neg =>
    refine Or.inl ⟨_, .empty fun c hc => ?_⟩
    exact Bool.eq_true_of_not_eq_false fun hblank => htext ⟨c, hc, hblank⟩
  by_cases hshort : m.content.length ≤ 4000
  case neg => exact Or.inl ⟨_, .long htext (Nat.not_le.1 hshort)⟩
  by_cases hother : m.receiver = sender
  case pos => exact Or.inl ⟨_, .own htext hshort hother⟩
  have hproper : m.Proper sender := ⟨htext, hshort, hother⟩
  cases hid : m.chat with
  | none => exact Or.inr ⟨hproper, fun id hid' => absurd (hid.symm.trans hid') (by simp)⟩
  | some id =>
    by_cases hhidden : Hidden t sender id
    case pos => exact Or.inl ⟨_, .hidden hproper hid hhidden⟩
    unfold Hidden at hhidden
    push Not at hhidden
    obtain ⟨chat, hchat, huser⟩ := hhidden
    by_cases hjoins : chat.Joins sender m.receiver
    case neg =>
      exact Or.inl ⟨_, .foreign hproper hid hchat (Bool.eq_true_of_not_eq_false huser) hjoins⟩
    refine Or.inr ⟨hproper, fun id' hid' => ?_⟩
    obtain rfl : id = id' := Option.some.inj (hid.symm.trans hid')
    exact ⟨chat, hchat, hjoins⟩

/-- **What class of reasons it is**: the chat is said not to be found exactly if it is what is wrong
and is hidden from the sender. -/
theorem Refused.kind (h : m.Refused t sender refusal) :
    (refusal.kind = .notFound ∧ m.Proper sender ∧ ∃ id, m.chat = some id ∧ Hidden t sender id) ∨
    (refusal.kind = .badRequest ∧
      ¬(m.Proper sender ∧ ∃ id, m.chat = some id ∧ Hidden t sender id)) := by
  cases h with
  | empty hblank =>
    refine Or.inr ⟨rfl, fun ⟨hproper, _⟩ => ?_⟩
    obtain ⟨c, hc, hnot⟩ := hproper.content
    exact absurd ((hblank c hc).symm.trans hnot) (by simp)
  | long htext hlong => exact Or.inr ⟨rfl, fun ⟨hproper, _⟩ => Nat.not_lt.2 hproper.length hlong⟩
  | own htext hshort hown => exact Or.inr ⟨rfl, fun ⟨hproper, _⟩ => hproper.other hown⟩
  | hidden hproper hid hhidden => exact Or.inl ⟨rfl, hproper, _, hid, hhidden⟩
  | foreign hproper hid hchat huser hjoins =>
    refine Or.inr ⟨rfl, fun ⟨_, id', hid', hhidden⟩ => ?_⟩
    obtain rfl := Option.some.inj (hid.symm.trans hid')
    exact absurd (huser.symm.trans (hhidden _ hchat)) (by simp)

/-- A text with a character that is not blank is not blank throughout. -/
theorem not_isAllBlank (htext : ∃ c ∈ m.content.toList, isBlank c = false) :
    ¬isAllBlank m.content = true := by
  obtain ⟨c, hc, hnot⟩ := htext
  intro hblank
  exact absurd ((List.all_eq_true.1 hblank c hc).symm.trans hnot) (by simp)

theorem Proper.objection? (h : m.Proper sender) : Correspondence.objection? sender m = none := by
  have hlength : ¬Limit.messageChars < m.content.length := Nat.not_lt.2 h.length
  unfold Correspondence.objection?
  rw [if_neg (not_isAllBlank h.content), if_neg hlength, if_neg h.other]

/-- **The message of a letter was stored.** -/
structure Stored (sender : UserId) (m : Letter) (t : Records) (stored : Message) (t' : Records) :
    Prop where
  /-- It goes from the sender to the receiver, and nobody has read it. -/
  message : stored.sender = sender ∧ stored.receiver = m.receiver ∧ stored.content = m.content ∧
    stored.kind = .text ∧ stored.isRead = false
  /-- It belongs to the one chat of the two. -/
  chat : ∀ id, t'.IsChatOf id sender m.receiver ↔ id = stored.chat
  /-- If the letter names a chat, it is this one. -/
  named : ∀ id, m.chat = some id → id = stored.chat
  /-- It stands at the end of the log. -/
  log : t'.log stored.chat = t.log stored.chat ++ [stored]
  /-- The other logs are as they were. -/
  logs : ∀ id, id ≠ stored.chat → t'.log id = t.log id
  /-- Its number is greater than all that were given out before. -/
  newest : t.lastMessage < stored.id ∧ ∀ id, ∀ m' ∈ t.log id, m'.id < stored.id
  /-- If the two have a chat, no chat is opened. -/
  found : (∃ id, t.IsChatOf id sender m.receiver) →
    t'.chats = t.chats ∧ t'.chatOfPair = t.chatOfPair ∧ t'.lastChat = t.lastChat
  /-- If they have none, theirs is opened, and no other. -/
  opened : (∀ id, ¬t.IsChatOf id sender m.receiver) →
    t.chats.get? stored.chat = none ∧ t.log stored.chat = [] ∧
      (∀ id, id ≠ stored.chat → t'.chats.get? id = t.chats.get? id) ∧
      ∀ p, p ≠ orderedPair sender m.receiver → t'.chatOfPair.get? p = t.chatOfPair.get? p
  /-- Decisions and bearer tokens are as they were. -/
  others : t'.swipes = t.swipes ∧ t'.accessTokens = t.accessTokens

/-- **A message that is put into the chat of sender and receiver is that of the letter.** -/
theorem stored_of_openChat {t' : Records} {now : Timestamp} {id : ChatId} {created : Bool}
    (h : t.Sound) (h' : t'.Sound)
    (hopen : t.openChat now sender m.receiver = (.ok (id, created), t'))
    (hnamed : ∀ named, m.chat = some named → named = id)
    (hfree : created = true → t.chats.get? (t.lastChat + 1) = none ∧ t.log (t.lastChat + 1) = [])
    (hnewest : t'.lastMessage < t'.lastMessage + 1 ∧
      ∀ id, ∀ m' ∈ t'.log id, m'.id < t'.lastMessage + 1) (later : Timestamp) :
    m.Stored sender t (t'.nextMessage later ⟨id, sender, m.receiver, m.content, .text⟩)
      (t'.stored later ⟨id, sender, m.receiver, m.content, .text⟩) := by
  obtain ⟨hne, hcases⟩ := Records.openChat_ok_cases hopen
  obtain ⟨hlogs, hlast, hswipes, htokens⟩ := Records.openChat_frame hopen
  have hlog : ∀ id, t'.log id = t.log id := fun id => by rw [Records.log, hlogs, Records.log]
  constructor
  case message => exact ⟨rfl, rfl, rfl, rfl, rfl⟩
  case chat =>
    intro id'
    refine (h'.isChatOf_iff hne).trans ?_
    rw [Records.get?_chatOfPair_openChat hopen, Option.some.injEq]
    exact eq_comm
  case named => exact hnamed
  case log =>
    rw [← hlog]
    exact Records.log_stored_self _
  case logs => exact fun id' hid' => (Records.log_stored_of_ne hid').trans (hlog id')
  case newest =>
    rw [← hlast]
    simp only [← hlog]
    exact hnewest
  case found =>
    rintro ⟨id', hid'⟩
    rw [h.isChatOf_iff hne] at hid'
    rcases hcases with ⟨-, -, rfl⟩ | ⟨-, hnew, -, -⟩
    · exact ⟨rfl, rfl, rfl⟩
    · exact absurd (hnew.symm.trans hid') (by simp)
  case opened =>
    intro hnone
    rcases hcases with ⟨-, hid, -⟩ | ⟨hcreated, -, rfl, rfl⟩
    · exact absurd ((h.isChatOf_iff hne).2 hid) (hnone id)
    · obtain ⟨hchat, hempty⟩ := hfree hcreated
      refine ⟨hchat, hempty, fun id' hid' => Records.Sound.chats_filed_of_ne hid', fun p hp => ?_⟩
      exact Table.get?_insert_of_ne _ _ hp
  case others => exact ⟨hswipes, htokens⟩

end Letter

/-! ### Letters at a desk -/

namespace Desk

open Correspondence

variable {clock : Nat → Timestamp} {d d' : Desk} {sender : UserId} {m : Letter} {id : ChatId}
variable {created : Bool} {refusal : Refusal}

/-- **The chat for a letter was found or opened.** -/
structure Placed (clock : Nat → Timestamp) (sender : UserId) (m : Letter) (d : Desk) (id : ChatId)
    (created : Bool) (d' : Desk) : Prop where
  /-- It is what the store says when it is asked to open the chat of the two. -/
  openChat : d.annals.records.openChat (clock d.ticks) sender m.receiver =
    (.ok (id, created), d'.annals.records)
  /-- A chat that is opened is counted. -/
  counted : created = true → d'.annals.opened = d.annals.opened + 1
  /-- If the letter names a chat, it is this one. -/
  named : ∀ named, m.chat = some named → named = id
  /-- Nobody is told. -/
  silent : d.Silent d'

/-- **The chat of a letter that goes to the right chat is found or opened.** -/
theorem perform_chatFor (clock : Nat → Timestamp) (hsound : d.annals.records.Sound)
    (hne : sender ≠ m.receiver) (haddressed : m.Addressed d.annals.records sender) :
    ∃ id created d', perform clock (chatFor sender m) d = (.ok id, d') ∧
      Placed clock sender m d id created d' := by
  unfold chatFor
  cases hid : m.chat with
  | some id =>
    obtain ⟨chat, hchat, hjoins⟩ := haddressed id hid
    have hlt := hsound.user_lt hchat
    have hof : chat.isOf sender m.receiver = true := ((Chat.joins_iff hlt).1 hjoins).2
    refine ⟨id, false, { d with ticks := d.ticks + 1 }, ?_, ?_⟩
    · dsimp only
      rw [perform_bind_ok (perform_ownChat_of_member hchat hjoins.hasMember), if_pos hof]
      rfl
    · constructor
      case openChat =>
        rw [Records.openChat_eq, if_neg hne, (hsound.isChatOf_iff hne).1 ⟨chat, hchat, hjoins⟩]
      case counted => exact fun hcreated => absurd hcreated (by simp)
      case named => exact fun named h => Option.some.inj (h.symm.trans hid)
      case silent => exact ⟨rfl, rfl⟩
  | none =>
    obtain ⟨id, created, t', hopen⟩ : ∃ id created t',
        d.annals.records.openChat (clock d.ticks) sender m.receiver = (.ok (id, created), t') := by
      rcases d.annals.records.openChat_cases (clock d.ticks) sender m.receiver with
        ⟨he, -⟩ | ⟨-, id, -, ho⟩ | ⟨-, -, ho⟩
      · exact absurd he hne
      · exact ⟨_, _, _, ho⟩
      · exact ⟨_, _, _, ho⟩
    refine ⟨id, created, (d.answer clock (.openChat sender m.receiver)).2,
      perform_bind_ok (perform_store_ok (q := .openChat sender m.receiver) hopen), ?_⟩
    constructor
    case openChat => exact hopen.trans (congrArg (Prod.mk _) (congrArg Prod.snd hopen).symm)
    case counted =>
      rintro rfl
      change d.annals.opened + StoreRequest.chatsOpened (.openChat sender m.receiver)
        (d.annals.records.openChat (clock d.ticks) sender m.receiver).1 = _
      rw [hopen]
      rfl
    case named => exact fun named h => absurd (h.symm.trans hid) (by simp)
    case silent => exact ⟨rfl, rfl⟩

/-- A letter that has its chat is stored, and its receiver is told. -/
theorem Placed.perform_send (h : Placed clock sender m d id created d')
    (hchat : perform clock (chatFor sender m) d = (.ok id, d')) (hsound : d.annals.records.Sound)
    (hproper : m.Proper sender) :
    perform clock (send sender m) d =
      (.ok (d'.annals.records.nextMessage (clock d'.ticks)
          ⟨id, sender, m.receiver, m.content, .text⟩),
        ((d'.answer clock (.append ⟨id, sender, m.receiver, m.content, .text⟩)).2.push m.receiver
          (.message (d'.annals.records.lastMessage + 1) id sender m.content)).2) := by
  have happend := hsound.append_of_openChat h.openChat (clock d'.ticks) m.content .text
  unfold send
  rw [hproper.objection?]
  dsimp only
  rw [perform_bind_ok hchat, perform_bind_ok (perform_store_ok (q := .append _) happend)]
  rfl

/-- **A letter that is refused** changes nothing. -/
theorem perform_send_refused (clock : Nat → Timestamp) (hin : d.annals.records.InOrder)
    (h : m.Refused d.annals.records sender refusal) :
    ∃ d', perform clock (send sender m) d = (.error refusal, d') ∧ d.Untouched d' := by
  unfold send
  cases h with
  | empty hblank =>
    have hall : isAllBlank m.content = true := List.all_eq_true.2 hblank
    rw [objection?, if_pos hall]
    exact ⟨d, rfl, .refl d⟩
  | long htext hlong =>
    have hlong' : Limit.messageChars < m.content.length := hlong
    rw [objection?, if_neg (Letter.not_isAllBlank htext), if_pos hlong']
    exact ⟨d, rfl, .refl d⟩
  | own htext hshort hown =>
    have hshort' : ¬Limit.messageChars < m.content.length := Nat.not_lt.2 hshort
    rw [objection?, if_neg (Letter.not_isAllBlank htext), if_neg hshort', if_pos hown]
    exact ⟨d, rfl, .refl d⟩
  | @hidden hproper id hid hhidden =>
    have hchatFor : perform clock (chatFor sender m) d =
        (.error (.noChat id), { d with ticks := d.ticks + 1 }) := by
      unfold chatFor
      rw [hid]
      exact perform_bind_error (perform_ownChat_of_hidden hhidden)
    rw [hproper.objection?]
    exact ⟨_, perform_bind_error hchatFor, rfl, rfl, rfl⟩
  | @foreign hproper id hid chat hchat huser hjoins =>
    have hof : ¬chat.isOf sender m.receiver = true :=
      fun hof => hjoins ((Chat.joins_iff (hin id chat hchat)).2 ⟨hproper.other.symm, hof⟩)
    have hchatFor : perform clock (chatFor sender m) d =
        (.error .foreignReceiver, { d with ticks := d.ticks + 1 }) := by
      unfold chatFor
      rw [hid]
      dsimp only
      rw [perform_bind_ok (perform_ownChat_of_member hchat huser), if_neg hof]
      rfl
    rw [hproper.objection?]
    exact ⟨_, perform_bind_error hchatFor, rfl, rfl, rfl⟩

/-- **A letter that may be sent and goes to the right chat** is stored, and told to its receiver. -/
theorem perform_send_proper (clock : Nat → Timestamp) (hkept : d.annals.Kept)
    (hproper : m.Proper sender) (haddressed : m.Addressed d.annals.records sender)
    (hroom : (perform clock (send sender m) d).2.annals.HasRoom) :
    ∃ stored d', perform clock (send sender m) d = (.ok stored, d') ∧
      m.Stored sender d.annals.records stored d'.annals.records ∧
      d'.pushed =
        d.pushed ++ [(m.receiver, .message stored.id stored.chat sender m.content)] ∧
      d.board.GivenTo m.receiver (.message stored.id stored.chat sender m.content) d'.board := by
  obtain ⟨id, created, e, hchat, hplaced⟩ :=
    perform_chatFor clock hkept.sound hproper.other.symm haddressed
  have hsend := hplaced.perform_send hchat hkept.sound hproper
  rw [hsend] at hroom
  -- numbers that last until the message is stored have lasted until its chat was there
  have hbefore : e.annals.HasRoom := Annals.HasRoom.of_answer hroom
  have hkept' := kept_of_perform hkept hchat hbefore
  have hnext : e.annals.stored + 1 < 2 ^ 63 := by
    have hcount := hroom.2
    change e.annals.stored + StoreRequest.messagesStored (.append _)
      (e.annals.records.append (clock e.ticks) _).1 < 2 ^ 63 at hcount
    rwa [hkept.sound.append_of_openChat hplaced.openChat] at hcount
  refine ⟨_, _, hsend, ?_, ?_, ?_⟩
  · have hrecords := congrArg Prod.snd (hkept.sound.append_of_openChat hplaced.openChat
      (clock e.ticks) m.content .text)
    change m.Stored sender _ _ (e.annals.records.append (clock e.ticks) _).2
    rw [hrecords]
    refine Letter.stored_of_openChat hkept.sound hkept'.sound hplaced.openChat hplaced.named ?_ ?_ _
    · intro hcreated
      have hfree : d.annals.opened + 1 < 2 ^ 63 := hplaced.counted hcreated ▸ hbefore.1
      exact ⟨hkept.sound.get?_next hkept.chats hfree, hkept.sound.log_next hkept.chats hfree⟩
    · refine ⟨?_, fun id m' hm' => hkept'.sound.lt_next hkept'.messages hnext hm'⟩
      rw [Int64.lt_iff_toInt_lt, toInt_add_one hkept'.messages hnext, hkept'.messages]
      omega
  · rw [← hplaced.silent.2]
    rfl
  · rw [← hplaced.silent.1]
    exact Switchboard.givenTo_send ..

/-- If a letter is refused, there is a reason for it, and nothing is changed. -/
theorem of_send_error (hkept : d.annals.Kept) (hin : d.annals.records.InOrder)
    (hroom : (perform clock (send sender m) d).2.annals.HasRoom)
    (hout : (perform clock (send sender m) d).1 = .error refusal) :
    m.Refused d.annals.records sender refusal ∧
      d.Untouched (perform clock (send sender m) d).2 := by
  rcases m.refused_or d.annals.records sender with ⟨refusal', hrefused⟩ | ⟨hproper, haddressed⟩
  · obtain ⟨d', hsend, huntouched⟩ := perform_send_refused clock hin hrefused
    rw [hsend] at hout ⊢
    obtain rfl := Except.error.inj hout
    exact ⟨hrefused, huntouched⟩
  · obtain ⟨stored, d', hsend, -⟩ := perform_send_proper clock hkept hproper haddressed hroom
    rw [hsend] at hout
    exact absurd hout (by simp)

/-- If a letter is answered by a message, this is the one that was stored and told. -/
theorem of_send_ok (hkept : d.annals.Kept) (hin : d.annals.records.InOrder)
    (hroom : (perform clock (send sender m) d).2.annals.HasRoom) {stored : Message}
    (hout : (perform clock (send sender m) d).1 = .ok stored) :
    m.Proper sender ∧ m.Addressed d.annals.records sender ∧
      m.Stored sender d.annals.records stored (perform clock (send sender m) d).2.annals.records ∧
      (perform clock (send sender m) d).2.pushed =
        d.pushed ++ [(m.receiver, .message stored.id stored.chat sender m.content)] ∧
      d.board.GivenTo m.receiver (.message stored.id stored.chat sender m.content)
        (perform clock (send sender m) d).2.board := by
  rcases m.refused_or d.annals.records sender with ⟨refusal, hrefused⟩ | ⟨hproper, haddressed⟩
  · obtain ⟨d', hsend, -⟩ := perform_send_refused clock hin hrefused
    rw [hsend] at hout
    exact absurd hout (by simp)
  · obtain ⟨stored', d', hsend, htold⟩ :=
      perform_send_proper clock hkept hproper haddressed hroom
    rw [hsend] at hout ⊢
    obtain rfl := Except.ok.inj hout
    exact ⟨hproper, haddressed, htold⟩

/-- **What comes of a letter** that is sent at a desk. -/
structure Accounted (clock : Nat → Timestamp) (sender : UserId) (m : Letter) (d : Desk) : Prop where
  /-- It is stored exactly if it may be sent and goes to the right chat. -/
  succeeds : (∃ stored, (perform clock (send sender m) d).1 = .ok stored) ↔
    m.Proper sender ∧ m.Addressed d.annals.records sender
  /-- The message that is answered is the one that was stored, and nothing else was. -/
  stored : ∀ stored, (perform clock (send sender m) d).1 = .ok stored →
    m.Stored sender d.annals.records stored (perform clock (send sender m) d).2.annals.records
  /-- One notice is pushed, to the receiver, and it tells of this message. -/
  told : ∀ stored, (perform clock (send sender m) d).1 = .ok stored →
    (perform clock (send sender m) d).2.pushed =
      d.pushed ++ [(m.receiver, .message stored.id stored.chat sender m.content)] ∧
    d.board.GivenTo m.receiver (.message stored.id stored.chat sender m.content)
      (perform clock (send sender m) d).2.board
  /-- It is refused exactly for the first reason that there is. -/
  refused : ∀ refusal, (perform clock (send sender m) d).1 = .error refusal ↔
    m.Refused d.annals.records sender refusal
  /-- If it is refused, nothing is changed and nobody is told. -/
  untouched : ∀ refusal, (perform clock (send sender m) d).1 = .error refusal →
    d.Untouched (perform clock (send sender m) d).2
  /-- The chat is said not to be found if it is hidden from the sender, and this is all that is
  wrong. -/
  notFound : ∀ refusal, (perform clock (send sender m) d).1 = .error refusal →
    (refusal.kind = .notFound ↔ m.Proper sender ∧
      ∃ id, m.chat = some id ∧ Letter.Hidden d.annals.records sender id)
  /-- All else is said to make no sense. -/
  badRequest : ∀ refusal, (perform clock (send sender m) d).1 = .error refusal →
    refusal.kind ≠ .notFound → refusal.kind = .badRequest

/-- **What comes of every letter is accounted for**, after any history and whoever is connected, as
long as the numbers of chats and messages last. -/
theorem send_accounted (clock : Nat → Timestamp) (board : Switchboard) (sender : UserId)
    (m : Letter) {events : List StoreEvent}
    (hroom : (perform clock (send sender m)
      (start (Annals.empty.through events) board)).2.annals.HasRoom) :
    Accounted clock sender m (start (Annals.empty.through events) board) := by
  have hkept : (start (Annals.empty.through events) board).annals.Kept :=
    Annals.kept_through (hasRoom_of_run hroom)
  have hin : (start (Annals.empty.through events) board).annals.records.InOrder :=
    Annals.inOrder_through events
  generalize start (Annals.empty.through events) board = d at hroom hkept hin
  constructor
  case succeeds =>
    constructor
    · rintro ⟨stored, hout⟩
      obtain ⟨hproper, haddressed, -⟩ := of_send_ok hkept hin hroom hout
      exact ⟨hproper, haddressed⟩
    · rintro ⟨hproper, haddressed⟩
      obtain ⟨stored, d', hsend, -⟩ := perform_send_proper clock hkept hproper haddressed hroom
      exact ⟨stored, congrArg Prod.fst hsend⟩
  case stored =>
    intro stored hout
    obtain ⟨-, -, hstored, -⟩ := of_send_ok hkept hin hroom hout
    exact hstored
  case told =>
    intro stored hout
    obtain ⟨-, -, -, hpushed, hgiven⟩ := of_send_ok hkept hin hroom hout
    exact ⟨hpushed, hgiven⟩
  case refused =>
    intro refusal
    constructor
    · exact fun hout => (of_send_error hkept hin hroom hout).1
    · intro hrefused
      obtain ⟨d', hsend, -⟩ := perform_send_refused clock hin hrefused
      exact congrArg Prod.fst hsend
  case untouched => exact fun refusal hout => (of_send_error hkept hin hroom hout).2
  case notFound =>
    intro refusal hout
    rcases (of_send_error hkept hin hroom hout).1.kind with ⟨hkind, hhidden⟩ | ⟨hkind, hnot⟩
    · exact ⟨fun _ => hhidden, fun _ => hkind⟩
    · exact ⟨fun hkind' => absurd (hkind.symm.trans hkind') (by simp), fun h => absurd h hnot⟩
  case badRequest =>
    intro refusal hout hne
    rcases (of_send_error hkept hin hroom hout).1.kind with ⟨hkind, -⟩ | ⟨hkind, -⟩
    · exact absurd hkind hne
    · exact hkind

/-- The user 3 has written to 7. -/
def acquainted : List StoreEvent :=
  [.asked ⟨⟨0, 0⟩, .openChat 3 7⟩, .asked ⟨⟨1, 0⟩, .append ⟨1, 3, 7, "hi", .text⟩⟩]

/-- The user 3 is connected. -/
def listening : Switchboard :=
  ((Switchboard.empty.open 3 0).2.register 0).2

/-- The user 7 writes to 3, and names their chat. -/
def response : Letter := ⟨3, "oh", some 1⟩

theorem send_accounted_response :
    (perform (fun n => ⟨n, 0⟩) (send 7 response)
      (start (Annals.empty.through acquainted) listening)).2.annals.HasRoom ∧
    Accounted (fun n => ⟨n, 0⟩) 7 response (start (Annals.empty.through acquainted) listening) :=
  have hroom : (perform (fun n => ⟨n, 0⟩) (send 7 response)
      (start (Annals.empty.through acquainted) listening)).2.annals.HasRoom := by
    decide +kernel
  ⟨hroom, send_accounted _ _ 7 response hroom⟩

/-- The same letter is refused if 9 sends it, since the chat is hidden from 9. -/
example : (perform (fun n => ⟨n, 0⟩) (send 9 response)
    (start (Annals.empty.through acquainted) listening)).1 = .error (.noChat 1) := by
  decide +kernel

end Desk

end Rendezvous
