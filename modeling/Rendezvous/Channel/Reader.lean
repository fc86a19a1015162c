import Rendezvous.Wire.Notice

/-!
# The reader of a connection

The reader takes what comes from the client, message by message. A text and a binary message are
read as a signal, which is passed on to the user it names; pings and pongs are only signs of life.
The first message that is no signal, the client's closing frame, a fault in the stream or its end
ends the reader, and it says why. Nothing after that has any effect.
-/

namespace Rendezvous

/-- What comes from a client. -/
inductive Inbound where
  /-- A text. -/
  | text (content : List UInt8)
  /-- A binary message. -/
  | binary (content : List UInt8)
  /-- A ping. -/
  | ping
  /-- A pong. -/
  | pong
  /-- A closing frame. -/
  | close
  /-- A fault in the stream. -/
  | broken
  /-- The end of the stream. -/
  | ended
  deriving DecidableEq, Repr

/-- Why a reader has ended. -/
inductive Departure where
  /-- The service closed the connection. -/
  | byService
  /-- The client closed it. -/
  | byClient
  /-- The stream has ended. -/
  | ended
  /-- There was a fault in the stream. -/
  | broken
  /-- A message was no signal. -/
  | nonsense
  deriving DecidableEq, Repr

namespace Inbound

/-- The bytes of a message that may be a signal. -/
def content? : Inbound → Option (List UInt8)
  | .text content => some content
  | .binary content => some content
  | _ => none

end Inbound

namespace Reader

/-- What a reader does about something that came. -/
inductive Reaction where
  /-- It goes on. -/
  | ignore
  /-- It passes a notice on to a user and goes on. -/
  | relay (receiver : UserId) (notice : Notice)
  /-- It ends. -/
  | exit (reason : Departure)
  deriving DecidableEq, Repr

/-- What a reader does about the bytes of a message on a connection of `sender`. -/
def reactToContent (sender : UserId) (content : List UInt8) : Reaction :=
  match Signal.decode content with
  | .error _ => .exit .nonsense
  | .ok signal =>
    match signal.relay sender with
    | some (receiver, notice) => .relay receiver notice
    | none => .ignore

/-- What a reader does on a connection of `sender`. -/
def react (sender : UserId) : Inbound → Reaction
  | .text content => reactToContent sender content
  | .binary content => reactToContent sender content
  | .ping => .ignore
  | .pong => .ignore
  | .close => .exit .byClient
  | .broken => .exit .broken
  | .ended => .exit .ended

/-- Whether something that came is a sign of life. -/
def isActivity : Inbound → Bool
  | .broken => false
  | .ended => false
  | _ => true

end Reader

end Rendezvous
