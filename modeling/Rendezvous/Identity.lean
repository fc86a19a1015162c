/-!
# Identities and limits

Users, chats and messages are numbered by integers of 64 bits. The limits of the service stand here
together: what a page, a message or a frame may hold, how many frames wait for a writer, and how
long the service waits for what. Times are counted in nanoseconds on a clock that only goes
forward.
-/

namespace Rendezvous

/-- The number of a user. -/
abbrev UserId := Int64

/-- The number of a chat. -/
abbrev ChatId := Int64

/-- The number of a message. -/
abbrev MessageId := Int64

/-- A reading of the clock, or a span between two readings, in nanoseconds. -/
abbrev Nanos := Nat

/-- A number of milliseconds in nanoseconds. -/
def ofMillis (n : Nat) : Nanos := n * 1000000

/-- A number of seconds in nanoseconds. -/
def ofSeconds (n : Nat) : Nanos := n * 1000000000

/-- The end of the clock: it counts seconds in a signed number of 64 bits. -/
def clockEnd : Nanos := ofSeconds 9223372036854775808

/-- The whole milliseconds of a span. -/
def wholeMillis (t : Nanos) : Nat := t / 1000000

namespace Limit

/-- The life of a session token in seconds, when nothing else is configured. -/
def sessionSeconds : Nat := 30

/-- The random bytes behind a session token. -/
def tokenBytes : Nat := 32

/-- The time between two sweeps of expired session tokens. -/
def sessionSweep : Nanos := ofSeconds 60

/-- The time between two heartbeat rounds in seconds, when nothing else is configured. -/
def heartbeatSeconds : Nat := 30

/-- How long the write of a probe or of a closing frame may take. -/
def probeWrite : Nanos := ofSeconds 5

/-- How long the write of a text may take. -/
def textWrite : Nanos := ofSeconds 10

/-- A connection from which nothing came for longer than this is dead. -/
def liveness : Nanos := ofSeconds 60

/-- How many frames may wait for the writer of a connection. -/
def outboundFrames : Nat := 256

/-- The largest message that a client may send on its connection, in bytes. -/
def inboundBytes : Nat := 4096

/-- How many messages a page holds when its size is not asked for. -/
def pageDefault : Nat := 50

/-- How many messages a page holds at most. -/
def pageMost : Nat := 200

/-- How many characters a message holds at most. -/
def messageChars : Nat := 4000

/-- How many connections to the database are kept when nothing else is configured. -/
def poolDefault : Nat := 10

/-- The port of the server when nothing else is configured. -/
def port : Nat := 3000

end Limit

/-- What the two users of a fresh match read first in their chat. -/
def matchGreeting : String :=
  "It's a match! 🎉"

/-- The part of a session token that may be shown in a log. -/
def tokenLogHead (token : String) : String :=
  String.ofList (token.toList.take 8)

end Rendezvous
