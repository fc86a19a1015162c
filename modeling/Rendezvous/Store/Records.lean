import Rendezvous.Store.Request
import Rendezvous.Table

/-!
# The store in the process

The swipes, chats and messages of a service that has no database, in four tables and two counters.
A chat is filed under its number, and its number under its pair of users; the messages of a chat
are its log, which only grows at its end. The counters say which numbers are taken: every new chat
and every new message gets the next one.

Each request is answered as a whole. One that is refused leaves the tables as they are.
-/

namespace Rendezvous

/-! ### Pages -/

/-- The last `n` items of a list, or all of them when there are fewer. -/
def lastItems {α : Type} (n : Nat) (l : List α) : List α :=
  l.drop (l.length - n)

/-- The place in a log where the messages of a kind are over that it begins with. -/
def turningPoint (p : Message → Bool) (log : List Message) : Nat :=
  log.findIdx fun m => !p m

/-- From which place of a log up to which one a page is cut out. -/
def PageSpec.bounds (request : PageSpec) (log : List Message) : Nat × Nat :=
  let n := request.limit.toNat
  match request.cursor with
  | .latest => (log.length - n, log.length)
  | .before id =>
    let stop := turningPoint (fun m => m.id < id) log
    (stop - n, stop)
  | .after id =>
    let start := turningPoint (fun m => m.id ≤ id) log
    (start, min (start + n) log.length)

/-- The page of a log. -/
def PageSpec.slice (request : PageSpec) (log : List Message) : List Message :=
  log.extract (request.bounds log).1 (request.bounds log).2

theorem turningPoint_le_length (p : Message → Bool) (log : List Message) :
    turningPoint p log ≤ log.length :=
  List.findIdx_le_length

theorem take_turningPoint (p : Message → Bool) (log : List Message) :
    log.take (turningPoint p log) = log.takeWhile p :=
  List.takeWhile_eq_take_findIdx_not.symm

theorem drop_turningPoint (p : Message → Bool) (log : List Message) :
    log.drop (turningPoint p log) = log.dropWhile p :=
  List.dropWhile_eq_drop_findIdx_not.symm

/-- The latest page is the end of the log. -/
theorem PageSpec.slice_latest (limit : UInt32) (log : List Message) :
    PageSpec.slice ⟨.latest, limit⟩ log = lastItems limit.toNat log := by
  refine List.take_of_length_le ?_
  simp [bounds]

/-- A page before a number is the end of what stands in front of it. -/
theorem PageSpec.slice_before (id : MessageId) (limit : UInt32) (log : List Message) :
    PageSpec.slice ⟨.before id, limit⟩ log =
      lastItems limit.toNat (log.takeWhile fun m => m.id < id) := by
  have hle := turningPoint_le_length (fun m => m.id < id) log
  rw [← take_turningPoint, lastItems, List.length_take, Nat.min_eq_left hle, List.drop_take]
  rfl

/-- A page after a number is the beginning of what stands behind it. -/
theorem PageSpec.slice_after (id : MessageId) (limit : UInt32) (log : List Message) :
    PageSpec.slice ⟨.after id, limit⟩ log =
      (log.dropWhile fun m => m.id ≤ id).take limit.toNat := by
  rw [← drop_turningPoint]
  refine List.take_eq_take_iff.2 ?_
  simp only [bounds, List.length_drop]
  omega

/-- The time of the latest news in a chat. -/
def ChatView.newsAt (s : ChatView) : Timestamp :=
  s.lastAt.getD s.createdAt

/-! ### The tables -/

/-- What the store keeps. -/
structure Records where
  /-- The decision of a user about another one. -/
  swipes : Table (UserId × UserId) Swipe
  /-- The number of the chat of a pair. -/
  chatOfPair : Table (UserId × UserId) ChatId
  /-- The chats. -/
  chats : Table ChatId Chat
  /-- The messages of a chat, oldest first. -/
  logs : Table ChatId (List Message)
  /-- The users that go by a bearer token. -/
  accessTokens : Table String UserId
  /-- The number of the last chat. -/
  lastChat : ChatId
  /-- The number of the last message. -/
  lastMessage : MessageId

namespace Records

/-- The tables of a service that starts. -/
def empty : Records :=
  ⟨.empty, .empty, .empty, .empty, .empty, 0, 0⟩

instance : Inhabited Records := ⟨empty⟩

/-- The messages of a chat, oldest first. -/
def log (t : Records) (chat : ChatId) : List Message :=
  (t.logs.get? chat).getD []

/-! ### Swipes -/

/-- The current decision of the one about the other is to like. -/
def likes (t : Records) (actor target : UserId) : Bool :=
  match t.swipes.get? (actor, target) with
  | some swipe => swipe.action == .like
  | none => false

/-- A decision, in the place of an earlier one. -/
def recordSwipe (t : Records) (now : Timestamp) (actor target : UserId) (action : Decision) :
    Records :=
  { t with swipes := t.swipes.insert (actor, target) ⟨actor, target, action, now⟩ }

/-- Everything that a user has decided, forgotten. -/
def forgetSwipes (t : Records) (actor : UserId) : Nat × Records :=
  let kept := t.swipes.keep fun pair _ => pair.1 != actor
  (t.swipes.size - kept.size, { t with swipes := kept })

/-- The users who like `user` and are liked back, in ascending order. -/
def matchesOf (t : Records) (user : UserId) : List UserId :=
  let others := (t.swipes.keys.filter (·.1 == user)).map (·.2)
  (others.filter fun v => t.likes user v && t.likes v user).mergeSort fun a b => a ≤ b

/-! ### Chats -/

/-- The chat of a pair, opened if there is none. -/
def openChat (t : Records) (now : Timestamp) (a b : UserId) :
    Except StoreError (ChatId × Bool) × Records :=
  let pair := orderedPair a b
  if pair.1 = pair.2 then (.error (.selfChat a), t)
  else
    match t.chatOfPair.get? pair with
    | some id => (.ok (id, false), t)
    | none =>
      let id := t.lastChat + 1
      (.ok (id, true),
        { t with
          lastChat := id
          chatOfPair := t.chatOfPair.insert pair id
          chats := t.chats.insert id ⟨id, pair.1, pair.2, now⟩ })

/-- A message at the end of the log of its chat. -/
def append (t : Records) (now : Timestamp) (m : PendingMessage) :
    Except StoreError Message × Records :=
  match t.chats.get? m.chat with
  | none => (.error (.noChat m.chat), t)
  | some chat =>
    if m.sender = m.receiver || !chat.isOf m.sender m.receiver then
      (.error (.notConnected m.chat m.sender m.receiver), t)
    else
      let id := t.lastMessage + 1
      let stored : Message :=
        ⟨id, m.chat, m.sender, m.receiver, m.content, m.kind, false, now⟩
      (.ok stored,
        { t with lastMessage := id, logs := t.logs.insert m.chat (t.log m.chat ++ [stored]) })

/-- The chat of a pair. One that is opened now begins with a message of the service. -/
def openMatch (t : Records) (now : Timestamp) (actor target : UserId) (content : String) :
    Except StoreError (ChatId × Bool) × Records :=
  match t.openChat now actor target with
  | (.ok (id, true), t') =>
    match t'.append now ⟨id, actor, target, content, .system⟩ with
    | (.ok _, t'') => (.ok (id, true), t'')
    | (.error e, t'') => (.error e, t'')
  | opened => opened

/-- How a user sees a chat in which the user takes part. -/
def summary? (t : Records) (user : UserId) (chat : Chat) : Option ChatView :=
  (chat.other? user).map fun other =>
    let log := t.log chat.id
    let last := log.getLast?
    { id := chat.id
      other := other
      createdAt := chat.createdAt
      lastContent := last.map (·.content)
      lastAt := last.map (·.createdAt)
      lastSender := last.map (·.sender)
      unread := Int64.ofNat (log.countP fun m => m.receiver == user && !m.isRead) }

/-- The chats of a user, the latest news first, and of equally late ones the greater number. -/
def chatsOf (t : Records) (user : UserId) : List ChatView :=
  (t.chats.values.filterMap (t.summary? user)).mergeSort fun a b => precedes a b
where
  /-- The order of the list. -/
  precedes (a b : ChatView) : Bool :=
    b.newsAt.before a.newsAt || (!a.newsAt.before b.newsAt && b.id ≤ a.id)

/-! ### Reading -/

/-- A message that the reader has not read yet. -/
def isUnreadBy (reader : UserId) (m : Message) : Bool :=
  m.receiver == reader && !m.isRead

/-- The log of a chat with the messages of a kind marked read, and which these are. -/
def markWhere (t : Records) (chat : ChatId) (p : Message → Bool) : List MessageId × Records :=
  match t.logs.get? chat with
  | none => ([], t)
  | some log =>
    ((log.filter p).map (·.id),
      { t with
        logs := t.logs.insert chat
          (log.map fun m => if p m then { m with isRead := true } else m) })

/-- Every message of a chat to the reader, marked read. -/
def markAllRead (t : Records) (chat : ChatId) (reader : UserId) : Nat × Records :=
  let (ids, t') := t.markWhere chat (isUnreadBy reader)
  (ids.length, t')

/-- Some messages of a chat to the reader, marked read. -/
def markSomeRead (t : Records) (chat : ChatId) (reader : UserId) (ids : List MessageId) :
    List MessageId × Records :=
  t.markWhere chat fun m => isUnreadBy reader m && ids.contains m.id

/-! ### Requests -/

/-- The answer to a request, and the tables after it. -/
def answer (t : Records) (now : Timestamp) :
    (r : StoreRequest) → Except StoreError r.Answer × Records
  | .recordSwipe actor target action => (.ok (), t.recordSwipe now actor target action)
  | .likes actor target => (.ok (t.likes actor target), t)
  | .forgetSwipes actor => let (n, t') := t.forgetSwipes actor; (.ok n, t')
  | .matchesOf user => (.ok (t.matchesOf user), t)
  | .openChat a b => t.openChat now a b
  | .openMatch actor target content => t.openMatch now actor target content
  | .chat id => (.ok (t.chats.get? id), t)
  | .chatsOf user => (.ok (t.chatsOf user), t)
  | .append m => t.append now m
  | .page chat request => (.ok (request.slice (t.log chat)), t)
  | .markAllRead chat reader => let (n, t') := t.markAllRead chat reader; (.ok n, t')
  | .markSomeRead chat reader ids =>
    let (marked, t') := t.markSomeRead chat reader ids
    (.ok marked, t')

/-! ### Bearer tokens -/

/-- A bearer token for a user. -/
def grant (t : Records) (token : String) (user : UserId) : Records :=
  { t with accessTokens := t.accessTokens.insert token user }

/-- The user who goes by a bearer token. -/
def bearer? (t : Records) (token : String) : Option UserId :=
  t.accessTokens.get? token

end Records

end Rendezvous
