import Rendezvous.Identity
import Rendezvous.Time.Timestamp

/-!
# Messages

A message goes from one user of a chat to the other. Users write text messages; the service itself
writes the system message that opens the chat of a match.
-/

namespace Rendezvous

/-- Who wrote a message. -/
inductive Authorship where
  /-- A user. -/
  | text
  /-- The service. -/
  | system
  deriving DecidableEq, Repr

namespace Authorship

/-- The word for a kind. -/
def word : Authorship → String
  | .text => "text"
  | .system => "system"

/-- The kinds under their words. -/
def words : List (String × Authorship) :=
  [("text", .text), ("system", .system)]

/-- The kind that a word names. -/
def ofWord? (s : String) : Option Authorship :=
  words.lookup s

/-- What is said of a word that names no kind. -/
def unknown (s : String) : String :=
  "unknown message kind '" ++ s ++ "'"

theorem ofWord?_word (kind : Authorship) : ofWord? kind.word = some kind := by
  cases kind <;> rfl

end Authorship

/-- A message that is not stored yet. -/
structure PendingMessage where
  /-- The chat that the message belongs to. -/
  chat : ChatId
  /-- Who sends it. -/
  sender : UserId
  /-- To whom it goes. -/
  receiver : UserId
  /-- What it says. -/
  content : String
  /-- Who wrote it. -/
  kind : Authorship
  deriving DecidableEq, Repr

/-- A stored message. -/
structure Message where
  /-- The number of the message; later messages have greater numbers. -/
  id : MessageId
  /-- The chat that the message belongs to. -/
  chat : ChatId
  /-- Who sent it. -/
  sender : UserId
  /-- To whom it went. -/
  receiver : UserId
  /-- What it says. -/
  content : String
  /-- Who wrote it. -/
  kind : Authorship
  /-- Whether the receiver has read it. -/
  isRead : Bool
  /-- When it was stored. -/
  createdAt : Timestamp
  deriving DecidableEq, Repr

end Rendezvous
