import Rendezvous.Identity

/-!
# Signals and notices

Clients send signals, the service pushes notices. A signal says that its sender is typing or has got
a message, and names the user to be told; the service passes it on as a notice. In every notice the
user named is the *other* one: the sender, the new match, the typist or the reader. The sender of a
signal that is passed on is the user to whom its connection belongs, whatever the signal says.
-/

namespace Rendezvous

/-- What a client may send. -/
inductive Signal where
  /-- The client is typing in a chat. -/
  | typing (chat : ChatId) (receiver : UserId)
  /-- A message has arrived at the client. -/
  | delivered (chat : ChatId) (receiver : UserId) (message : MessageId)
  /-- A signal of any other type, which is ignored. -/
  | unknown
  deriving DecidableEq, Repr

/-- What the service pushes to a client. -/
inductive Notice where
  /-- A new message. -/
  | message (id : MessageId) (chat : ChatId) (user : UserId) (content : String)
  /-- A new match. -/
  | paired (chat : ChatId) (user : UserId) (content : String)
  /-- The other user is typing. -/
  | typing (chat : ChatId) (user : UserId)
  /-- A message has arrived at the other user. -/
  | delivered (chat : ChatId) (user : UserId) (message : MessageId)
  /-- The other user has read the whole chat. -/
  | readChat (chat : ChatId) (user : UserId)
  /-- The other user has read some messages. -/
  | readMessages (chat : ChatId) (user : UserId) (messages : List MessageId)
  deriving DecidableEq, Repr

namespace Notice

/-- The word for the kind of a notice. -/
def kind : Notice → String
  | .message .. => "message"
  | .paired .. => "match"
  | .typing .. => "typing"
  | .delivered .. => "delivered"
  | .readChat .. => "read_chat"
  | .readMessages .. => "read_messages"

end Notice

/-- Whom a signal of `sender` is passed on to, and as what; one of unknown type goes nowhere. -/
def Signal.relay (sender : UserId) : Signal → Option (UserId × Notice)
  | .typing chat receiver => some (receiver, .typing chat sender)
  | .delivered chat receiver message => some (receiver, .delivered chat sender message)
  | .unknown => none

end Rendezvous
