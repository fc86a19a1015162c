import Rendezvous.Dealings.Flow
import Rendezvous.Text.Blank
import Rendezvous.Wire.Request

/-!
# Messaging

A user writes to another one, reads the pages of their chat, and says what was read. A message is
stored first and pushed then, so that nothing is pushed that is not there. What was read is told to
the other user of the chat, and only as far as it was unread before.

A chat in which a user takes no part is, for that user, not there: it is refused with the words for
a chat that does not exist.
-/

namespace Rendezvous.Correspondence

/-- The chat, if the user takes part in it. -/
def ownChat (user : UserId) (id : ChatId) : Task Chat := do
  match ← Task.store (.chat id) with
  | some chat => if chat.hasMember user then pure chat else throw (.noChat id)
  | none => throw (.noChat id)

/-- What is wrong with a message before anything is looked up. -/
def objection? (sender : UserId) (m : Letter) : Option Refusal :=
  if isAllBlank m.content then some .emptyContent
  else if Limit.messageChars < m.content.length then some .longContent
  else if m.receiver = sender then some .selfMessage
  else none

/-- The chat that a message belongs to: the one it names, if it is that of sender and receiver, or
else the chat of the two, opened if there is none. -/
def chatFor (sender : UserId) (m : Letter) : Task ChatId :=
  match m.chat with
  | some id => do
    let chat ← ownChat sender id
    if chat.isOf sender m.receiver then pure id else throw .foreignReceiver
  | none => do
    let (id, _) ← Task.store (.openChat sender m.receiver)
    pure id

/-- A user writes to another one. -/
def send (sender : UserId) (m : Letter) : Task Message :=
  match objection? sender m with
  | some refusal => throw refusal
  | none => do
    let chat ← chatFor sender m
    let stored ← Task.store (.append ⟨chat, sender, m.receiver, m.content, .text⟩)
    let _ ← Task.push stored.receiver (.message stored.id chat sender stored.content)
    pure stored

/-- A page of a chat. -/
def page (user : UserId) (id : ChatId) (request : PageSpec) : Task (List Message) := do
  let _ ← ownChat user id
  Task.store (.page id request)

/-- The chats of a user. -/
def chats (user : UserId) : Task (List ChatView) :=
  Task.store (.chatsOf user)

/-- Tells the other user of a chat what its reader has read. -/
def tellOther (chat : Chat) (reader : UserId) (notice : Notice) : Task Unit :=
  match chat.other? reader with
  | some other => do
    let _ ← Task.push other notice
    pure ()
  | none => pure ()

/-- A user has read a chat; the answer is how many messages were unread. -/
def readChat (reader : UserId) (id : ChatId) : Task Nat := do
  let chat ← ownChat reader id
  let n ← Task.store (.markAllRead id reader)
  if 0 < n then tellOther chat reader (.readChat id reader)
  pure n

/-- A user has read some messages of a chat; the answer is how many of them were unread. -/
def readMessages (reader : UserId) (id : ChatId) (messages : List MessageId) : Task Nat :=
  if messages.isEmpty then throw .noMessages
  else do
    let chat ← ownChat reader id
    let marked ← Task.store (.markSomeRead id reader messages)
    if !marked.isEmpty then tellOther chat reader (.readMessages id reader marked)
    pure marked.length

end Rendezvous.Correspondence
