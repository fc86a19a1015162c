import Rendezvous.Chat
import Rendezvous.Failure
import Rendezvous.Message
import Rendezvous.Page
import Rendezvous.Swipe

/-!
# What a store is asked

A store keeps swipes, chats and messages. It is asked one thing at a time and does it as a whole or
not at all. Two stores answer these requests, the tables in the process and the database; what both
can be asked, and of what kind the answers are, is said here.
-/

namespace Rendezvous

/-- What a store is asked. -/
inductive StoreRequest where
  /-- Record a decision; it takes the place of an earlier one. -/
  | recordSwipe (actor target : UserId) (action : Decision)
  /-- Does the one user like the other? -/
  | likes (actor target : UserId)
  /-- Forget all decisions of a user; the answer is how many there were. -/
  | forgetSwipes (actor : UserId)
  /-- Whom does the user like who likes the user back? -/
  | matchesOf (user : UserId)
  /-- The chat of two users, opened if they have none; the answer says whether it was opened now. -/
  | openChat (a b : UserId)
  /-- The same, and a chat that is opened now begins with a message of the service. -/
  | openMatch (actor target : UserId) (content : String)
  /-- A chat by its number. -/
  | chat (id : ChatId)
  /-- The chats of a user, the one with the latest news first. -/
  | chatsOf (user : UserId)
  /-- Put a message at the end of its chat. -/
  | append (message : PendingMessage)
  /-- A page of a chat, oldest message first. -/
  | page (chat : ChatId) (request : PageSpec)
  /-- Mark all messages of a chat to a user read; the answer is how many were unread. -/
  | markAllRead (chat : ChatId) (reader : UserId)
  /-- Mark some of them read; the answer names those that were unread. -/
  | markSomeRead (chat : ChatId) (reader : UserId) (ids : List MessageId)
  deriving DecidableEq, Repr

/-- What the answer to a request is. -/
abbrev StoreRequest.Answer : StoreRequest → Type
  | .recordSwipe .. => Unit
  | .likes .. => Bool
  | .forgetSwipes .. => Nat
  | .matchesOf .. => List UserId
  | .openChat .. => ChatId × Bool
  | .openMatch .. => ChatId × Bool
  | .chat .. => Option Chat
  | .chatsOf .. => List ChatView
  | .append .. => Message
  | .page .. => List Message
  | .markAllRead .. => Nat
  | .markSomeRead .. => List MessageId

end Rendezvous
