import Rendezvous.Database.Dialogue
import Rendezvous.Store.Request

/-!
# The store in the database

Swipes, chats and messages as tables of a database. What a store is asked becomes a dialogue, most
often of one statement. The two requests that may open a chat are transactions: the chat of a pair
is put in unless it is there, and looked up when it was; whoever put it in has opened it, and in a
match the first message goes with it or not at all.

The pair is always sent in its canonical order. The database keeps the tables consistent, which is
why nothing here asks whether two users are distinct.
-/

namespace Rendezvous.Database

/-! ### Swipes -/

/-- Puts a decision in the place of an earlier one. -/
def recordSwipe (actor target : UserId) (action : Decision) : Statement :=
  ⟨"INSERT INTO swipes (user_id, target_id, action) VALUES ($1, $2, $3) " ++
    "ON CONFLICT (user_id, target_id) " ++
    "DO UPDATE SET action = EXCLUDED.action, created_at = NOW()",
    [.integer actor, .integer target, .text action.word]⟩

/-- Does the one user like the other? -/
def likes (actor target : UserId) : Statement :=
  ⟨"SELECT EXISTS(SELECT 1 FROM swipes " ++
    "WHERE user_id = $1 AND target_id = $2 AND action = 'like')",
    [.integer actor, .integer target]⟩

/-- Takes out all decisions of a user. -/
def forgetSwipes (actor : UserId) : Statement :=
  ⟨"DELETE FROM swipes WHERE user_id = $1", [.integer actor]⟩

/-- How many decisions are there of a user? -/
def countSwipes (actor : UserId) : Statement :=
  ⟨"SELECT COUNT(*) FROM swipes WHERE user_id = $1", [.integer actor]⟩

/-- Whom does the user like who likes the user back? -/
def matchesOf (user : UserId) : Statement :=
  ⟨"SELECT l1.target_id FROM swipes l1 " ++
    "JOIN swipes l2 ON l2.user_id = l1.target_id AND l2.target_id = l1.user_id " ++
    "WHERE l1.user_id = $1 AND l1.action = 'like' AND l2.action = 'like' " ++
    "ORDER BY l1.target_id ASC",
    [.integer user]⟩

/-! ### Chats -/

/-- The parameters of a pair of users, in canonical order. -/
def pairOf (a b : UserId) : List Parameter :=
  let (first, second) := orderedPair a b
  [.integer first, .integer second]

/-- Puts the chat of a pair in unless it is there, and gives its number if it was put in. -/
def addChat (a b : UserId) : Statement :=
  ⟨"INSERT INTO chats (user1_id, user2_id) VALUES ($1, $2) " ++
    "ON CONFLICT (user1_id, user2_id) DO NOTHING RETURNING id",
    pairOf a b⟩

/-- The number of the chat of a pair. -/
def findChat (a b : UserId) : Statement :=
  ⟨"SELECT id FROM chats WHERE user1_id = $1 AND user2_id = $2", pairOf a b⟩

/-- Puts the first message of a match in. -/
def addGreeting (chat : ChatId) (actor target : UserId) (content : String) : Statement :=
  ⟨"INSERT INTO messages (chat_id, sender_id, receiver_id, content, kind) " ++
    "VALUES ($1, $2, $3, $4, $5)",
    [.integer chat, .integer actor, .integer target, .text content, .text Authorship.system.word]⟩

/-- A chat by its number. -/
def chatById (id : ChatId) : Statement :=
  ⟨"SELECT id, user1_id, user2_id, created_at FROM chats WHERE id = $1", [.integer id]⟩

/-- The chats of a user, the one with the latest news first. -/
def chatsOf (user : UserId) : Statement :=
  ⟨"SELECT c.id, CASE WHEN c.user1_id = $1 THEN c.user2_id ELSE c.user1_id END " ++
    "AS counterparty_id, c.created_at, lm.content AS last_message, " ++
    "lm.created_at AS last_message_at, lm.sender_id AS last_message_user, " ++
    "( SELECT COUNT(*) FROM messages m WHERE m.chat_id = c.id AND m.receiver_id = $1 " ++
    "AND m.is_read = FALSE ) AS unread_count FROM chats c " ++
    "LEFT JOIN LATERAL ( SELECT content, created_at, sender_id FROM messages " ++
    "WHERE chat_id = c.id ORDER BY id DESC LIMIT 1 ) lm ON TRUE " ++
    "WHERE c.user1_id = $1 OR c.user2_id = $1 " ++
    "ORDER BY COALESCE(lm.created_at, c.created_at) DESC, c.id DESC",
    [.integer user]⟩

/-! ### Messages -/

/-- The columns of a message. -/
def messageColumns : String :=
  "id, chat_id, sender_id, receiver_id, content, kind, is_read, created_at"

/-- Puts a message in if its chat is that of sender and receiver, and gives it back. -/
def addMessage (m : PendingMessage) : Statement :=
  ⟨"INSERT INTO messages (chat_id, sender_id, receiver_id, content, kind) " ++
    "SELECT c.id, $2, $3, $4, $5 FROM chats c WHERE c.id = $1 " ++
    "AND ((c.user1_id = $2 AND c.user2_id = $3) OR (c.user1_id = $3 AND c.user2_id = $2)) " ++
    "RETURNING " ++ messageColumns,
    [.integer m.chat, .integer m.sender, .integer m.receiver, .text m.content, .text m.kind.word]⟩

/-- A page of a chat: the messages nearest to the cursor, the nearest first. -/
def pageOf (chat : ChatId) (r : PageSpec) : Statement :=
  let limit : Parameter := .integer (Int64.ofNat r.limit.toNat)
  let select := "SELECT " ++ messageColumns ++ " FROM messages WHERE chat_id = $1"
  match r.cursor with
  | .latest => ⟨select ++ " ORDER BY id DESC LIMIT $2", [.integer chat, limit]⟩
  | .before id =>
    ⟨select ++ " AND id < $2 ORDER BY id DESC LIMIT $3", [.integer chat, .integer id, limit]⟩
  | .after id =>
    ⟨select ++ " AND id > $2 ORDER BY id ASC LIMIT $3", [.integer chat, .integer id, limit]⟩

/-- Marks all messages of a chat to a user read. -/
def markAllRead (chat : ChatId) (reader : UserId) : Statement :=
  ⟨"UPDATE messages SET is_read = TRUE " ++
    "WHERE chat_id = $1 AND receiver_id = $2 AND is_read = FALSE",
    [.integer chat, .integer reader]⟩

/-- Marks some of them read, and names those that were unread. -/
def markSomeRead (chat : ChatId) (reader : UserId) (ids : List MessageId) : Statement :=
  ⟨"UPDATE messages SET is_read = TRUE " ++
    "WHERE chat_id = $1 AND receiver_id = $2 AND id = ANY($3) AND is_read = FALSE RETURNING id",
    [.integer chat, .integer reader, .integers ids]⟩

/-! ### Bearer tokens -/

/-- Who goes by a bearer token that is still good? -/
def bearerOf (token : String) : Statement :=
  ⟨"SELECT user_id FROM sessions WHERE access_token = $1 AND access_expires > NOW()",
    [.text token]⟩

/-! ### The store -/

open Exchange

/-- A number in the first cell. -/
def firstInteger : Row → Reading Int64 :=
  readFirst Cell.readInteger

/-- The chat of a pair inside a transaction, put in if it is not there, and whether it was. -/
def findOrAddChat (a b : UserId) : Exchange (ChatId × Bool) := do
  match ← first? firstInteger (addChat a b) with
  | some id => pure (id, true)
  | none => do
    let id ← first firstInteger (findChat a b)
    pure (id, false)

/-- The chat of two users. -/
def openChat (a b : UserId) : Exchange (ChatId × Bool) :=
  transaction (findOrAddChat a b)

/-- The chat of a match; one that is opened now begins with a message of the service. -/
def openMatch (actor target : UserId) (content : String) : Exchange (ChatId × Bool) :=
  transaction do
    let (id, created) ← findOrAddChat actor target
    if created then
      let _ ← count (addGreeting id actor target content)
    pure (id, created)

/-- A message at the end of its chat. -/
def append (m : PendingMessage) : Exchange Message := do
  match ← first? readMessage (addMessage m) with
  | some stored => pure stored
  | none => throw (.notConnected m.chat m.sender m.receiver)

/-- A page of a chat, oldest message first. -/
def page (chat : ChatId) (r : PageSpec) : Exchange (List Message) := do
  let found ← all readMessage (pageOf chat r)
  match r.cursor with
  | .after _ => pure found
  | _ => pure found.reverse

/-- The messages that are marked read and were unread, in the order of their numbers. -/
def markListed (chat : ChatId) (reader : UserId) (ids : List MessageId) :
    Exchange (List MessageId) := do
  let marked ← all firstInteger (markSomeRead chat reader ids)
  pure (marked.mergeSort fun a b => a ≤ b)

/-- What the store is asked, as a dialogue. -/
def ask : (r : StoreRequest) → Exchange r.Answer
  | .recordSwipe actor target action => do
    let _ ← count (recordSwipe actor target action)
    pure ()
  | .likes actor target => first (readFirst Cell.readFlag) (likes actor target)
  | .forgetSwipes actor => count (forgetSwipes actor)
  | .matchesOf user => all firstInteger (matchesOf user)
  | .openChat a b => openChat a b
  | .openMatch actor target content => openMatch actor target content
  | .chat id => first? readChat (chatById id)
  | .chatsOf user => all readSummary (chatsOf user)
  | .append m => append m
  | .page chat r => page chat r
  | .markAllRead chat reader => count (markAllRead chat reader)
  | .markSomeRead chat reader ids => markListed chat reader ids

/-- Who goes by a bearer token, as a dialogue. -/
def bearer? (token : String) : Exchange (Option UserId) :=
  first? firstInteger (bearerOf token)

/-- Both orders of a pair have the same parameters. -/
theorem pairOf_comm (a b : UserId) : pairOf a b = pairOf b a := by
  unfold pairOf
  rw [orderedPair_comm]

theorem addChat_comm (a b : UserId) : addChat a b = addChat b a := by
  unfold addChat
  rw [pairOf_comm]

theorem findChat_comm (a b : UserId) : findChat a b = findChat b a := by
  unfold findChat
  rw [pairOf_comm]

/-- Both orders of a pair open its chat by the same statements. -/
theorem findOrAddChat_comm (a b : UserId) : findOrAddChat a b = findOrAddChat b a := by
  unfold findOrAddChat
  rw [addChat_comm, findChat_comm]

end Rendezvous.Database
