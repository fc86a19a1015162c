import Rendezvous.Chat
import Rendezvous.Json.Record
import Rendezvous.Json.Writer
import Rendezvous.Message
import Rendezvous.Swipe

/-!
# Stored records as JSON

Chats, summaries of chats, messages and swipes, each with its shape for reading and its text for
writing. Points in time are strings, decisions and kinds of messages are words.
-/

namespace Rendezvous

open Json

/-- A point in time, written as a string. -/
def readTimestamp (s : Bytes) : Scan Timestamp :=
  match readText s with
  | .error f => .error f
  | .ok (text, rest) =>
    match Timestamp.read text with
    | some t => .ok (t, rest)
    | none => .error .mismatched

/-- A point in time as a string. -/
def writeTimestamp (t : Timestamp) : String :=
  writeText t.write

/-! ### Chats -/

namespace Chat

/-- A chat of which some fields are read. -/
structure Draft where
  id : Option ChatId := none
  user1 : Option UserId := none
  user2 : Option UserId := none
  createdAt : Option Timestamp := none

/-- How a chat is read. -/
def shape : Shape Draft Chat where
  blank := {}
  fields := [
    .of "id" readInteger (·.id) (fun d v => { d with id := some v }),
    .of "user1_id" readInteger (·.user1) (fun d v => { d with user1 := some v }),
    .of "user2_id" readInteger (·.user2) (fun d v => { d with user2 := some v }),
    .of "created_at" readTimestamp (·.createdAt) (fun d v => { d with createdAt := some v })]
  complete d := do return ⟨← d.id, ← d.user1, ← d.user2, ← d.createdAt⟩

/-- The text of a chat. -/
def encode (chat : Chat) : String :=
  writeRecord [("id", writeInteger chat.id), ("user1_id", writeInteger chat.user1),
    ("user2_id", writeInteger chat.user2), ("created_at", writeTimestamp chat.createdAt)]

/-- The chat that a text writes. -/
def decode (s : Bytes) : Except Fault Chat :=
  shape.parse s

end Chat

/-! ### Summaries of chats -/

namespace ChatView

/-- A summary of which some fields are read. -/
structure Draft where
  id : Option ChatId := none
  other : Option UserId := none
  createdAt : Option Timestamp := none
  lastContent : Option (Option String) := none
  lastAt : Option (Option Timestamp) := none
  lastSender : Option (Option UserId) := none
  unread : Option Int64 := none

/-- How a summary is read. What is said about the last message may be left out. -/
def shape : Shape Draft ChatView where
  blank := {}
  fields := [
    .of "id" readInteger (·.id) (fun d v => { d with id := some v }),
    .of "counterparty_id" readInteger (·.other) (fun d v => { d with other := some v }),
    .of "created_at" readTimestamp (·.createdAt) (fun d v => { d with createdAt := some v }),
    .of "last_message" (readOption readText) (·.lastContent)
      (fun d v => { d with lastContent := some v }),
    .of "last_message_at" (readOption readTimestamp) (·.lastAt)
      (fun d v => { d with lastAt := some v }),
    .of "last_message_user" (readOption readInteger) (·.lastSender)
      (fun d v => { d with lastSender := some v }),
    .of "unread_count" readInteger (·.unread) (fun d v => { d with unread := some v })]
  complete d := do
    return ⟨← d.id, ← d.other, ← d.createdAt, d.lastContent.join, d.lastAt.join,
      d.lastSender.join, ← d.unread⟩

/-- The text of a summary. -/
def encode (c : ChatView) : String :=
  writeRecord [("id", writeInteger c.id), ("counterparty_id", writeInteger c.other),
    ("created_at", writeTimestamp c.createdAt),
    ("last_message", writeOption writeText c.lastContent),
    ("last_message_at", writeOption writeTimestamp c.lastAt),
    ("last_message_user", writeOption writeInteger c.lastSender),
    ("unread_count", writeInteger c.unread)]

/-- The summary that a text writes. -/
def decode (s : Bytes) : Except Fault ChatView :=
  shape.parse s

end ChatView

/-! ### Messages -/

namespace Authorship

/-- A kind of message, written as a word. -/
def read (s : Bytes) : Scan Authorship :=
  readChoice words s

/-- The text of a kind. -/
def encode (kind : Authorship) : String :=
  writeText kind.word

/-- The kind that a text writes. -/
def decode (s : Bytes) : Except Fault Authorship :=
  finish (read s)

end Authorship

namespace Message

/-- A message of which some fields are read. -/
structure Draft where
  id : Option MessageId := none
  chat : Option ChatId := none
  sender : Option UserId := none
  receiver : Option UserId := none
  content : Option String := none
  kind : Option Authorship := none
  isRead : Option Bool := none
  createdAt : Option Timestamp := none

/-- How a message is read. -/
def shape : Shape Draft Message where
  blank := {}
  fields := [
    .of "id" readInteger (·.id) (fun d v => { d with id := some v }),
    .of "chat_id" readInteger (·.chat) (fun d v => { d with chat := some v }),
    .of "sender_id" readInteger (·.sender) (fun d v => { d with sender := some v }),
    .of "receiver_id" readInteger (·.receiver) (fun d v => { d with receiver := some v }),
    .of "content" readText (·.content) (fun d v => { d with content := some v }),
    .of "kind" Authorship.read (·.kind) (fun d v => { d with kind := some v }),
    .of "is_read" readFlag (·.isRead) (fun d v => { d with isRead := some v }),
    .of "created_at" readTimestamp (·.createdAt) (fun d v => { d with createdAt := some v })]
  complete d := do
    return ⟨← d.id, ← d.chat, ← d.sender, ← d.receiver, ← d.content, ← d.kind, ← d.isRead,
      ← d.createdAt⟩

/-- The text of a message. -/
def encode (m : Message) : String :=
  writeRecord [("id", writeInteger m.id), ("chat_id", writeInteger m.chat),
    ("sender_id", writeInteger m.sender), ("receiver_id", writeInteger m.receiver),
    ("content", writeText m.content), ("kind", m.kind.encode), ("is_read", writeFlag m.isRead),
    ("created_at", writeTimestamp m.createdAt)]

/-- The message that a text writes. -/
def decode (s : Bytes) : Except Fault Message :=
  shape.parse s

end Message

/-! ### Swipes -/

namespace Decision

/-- A decision, written as a word. -/
def read (s : Bytes) : Scan Decision :=
  readChoice words s

/-- The text of a decision. -/
def encode (action : Decision) : String :=
  writeText action.word

/-- The decision that a text writes. -/
def decode (s : Bytes) : Except Fault Decision :=
  finish (read s)

end Decision

namespace Swipe

/-- A swipe of which some fields are read. -/
structure Draft where
  user : Option UserId := none
  target : Option UserId := none
  action : Option Decision := none
  createdAt : Option Timestamp := none

/-- How a swipe is read. -/
def shape : Shape Draft Swipe where
  blank := {}
  fields := [
    .of "user_id" readInteger (·.user) (fun d v => { d with user := some v }),
    .of "target_id" readInteger (·.target) (fun d v => { d with target := some v }),
    .of "action" Decision.read (·.action) (fun d v => { d with action := some v }),
    .of "created_at" readTimestamp (·.createdAt) (fun d v => { d with createdAt := some v })]
  complete d := do return ⟨← d.user, ← d.target, ← d.action, ← d.createdAt⟩

/-- The text of a swipe. -/
def encode (s : Swipe) : String :=
  writeRecord [("user_id", writeInteger s.user), ("target_id", writeInteger s.target),
    ("action", s.action.encode), ("created_at", writeTimestamp s.createdAt)]

/-- The swipe that a text writes. -/
def decode (s : Bytes) : Except Fault Swipe :=
  shape.parse s

end Swipe

end Rendezvous
