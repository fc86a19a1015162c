import Rendezvous.Channel.Serving
import Rendezvous.Channel.Writer
import Rendezvous.WebSocket.Endpoint

/-!
# A connection with a client at its other end

In a rehearsal a client is connected to the service by two pipes, one for each direction, each of
which holds so many bytes. The service reads what the client has sent as soon as it can, and writes
until the pipe to the client is full; the client takes bytes out only when it is told to, and
answers nothing by itself.

The writer and the reader of the connection are those of the service. What happens to them is found
out here: whether the flag is up, whether the queue holds a frame, whether the bytes of a frame have
all gone into the pipe, whether a message has come.
-/

namespace Rendezvous.Rehearsal

open WebSocket

/-- How many bytes a pipe holds. -/
def pipeSize : Nat := 65536

/-- A connection with a client at its other end. -/
structure Socket where
  /-- The life of the connection. -/
  serving : Serving
  /-- The service's end. -/
  endpoint : Endpoint
  /-- What the writer is doing. -/
  writer : Writer.Phase
  /-- When the time for the frame that is being written is over. -/
  deadline : Nanos
  /-- The pipe to the service. -/
  toService : List UInt8
  /-- The pipe to the client. -/
  toClient : List UInt8
  /-- What the client has taken out and not understood yet. -/
  unread : List UInt8
  /-- The client is gone. -/
  clientGone : Bool

namespace Socket

/-- A connection that is promoted. -/
def start (serving : Serving) : Socket :=
  ⟨serving, .opened, .waiting, 0, [], [], [], false⟩

/-- The reader's half is in use. -/
def isReaderAlive (s : Socket) : Bool :=
  match s.serving.stage with
  | .opened => true
  | .entered _ => true
  | .registered => true
  | .reading => true
  | _ => false

/-- The service has let go of the connection. -/
def serviceGone (s : Socket) : Bool :=
  s.writer == .finished && !s.isReaderAlive

/-- Bytes go from the service's end into the pipe, as many as it takes. -/
def drain (s : Socket) : Socket :=
  let room := pipeSize - s.toClient.length
  { s with
    toClient := s.toClient ++ s.endpoint.outgoing.take room
    endpoint := { s.endpoint with outgoing := s.endpoint.outgoing.drop room } }

/-- Something can go into the pipe. -/
def canDrain (s : Socket) : Bool :=
  !s.endpoint.outgoing.isEmpty && !s.clientGone && s.toClient.length < pipeSize

/-- The connection is to end. -/
def isEnding (s : Socket) (h : Switchboard) : Bool :=
  match h.connection? s.serving.id with
  | some c => c.closed
  | none => true

/-! ### The writer -/

/-- Something happens to the writer. -/
def writerEvent (s : Socket) (event : Writer.Event) (h : Switchboard) : Socket × Switchboard :=
  let (phase, h) := Writer.advance s.serving.id s.writer event h
  ({ s with writer := phase }, h)

/-- The bytes of a frame, behind all others; `none` when the connection does not take it. -/
def encode? (s : Socket) : Outgoing → Option Endpoint
  | .text content => s.endpoint.send? .text (Utf8.encode content)
  | .probe _ => s.endpoint.send? .ping []
  | .close => s.endpoint.close?

/-- The bytes that are to go out go as far as they can, and the writer hears of it. -/
def pour (s : Socket) (h : Switchboard) : Socket × Switchboard :=
  if s.endpoint.outgoing.isEmpty then s.writerEvent .written h
  else if s.clientGone then s.writerEvent .failed h
  else
    let s := s.drain
    if s.endpoint.outgoing.isEmpty then s.writerEvent .written h else (s, h)

/-- The writer begins with a frame. -/
def beginFrame (s : Socket) (now : Nanos) (frame : Outgoing) (h : Switchboard) :
    Socket × Switchboard :=
  match s.encode? frame with
  | none => s.writerEvent .failed h
  | some endpoint => { s with endpoint, deadline := now + Writer.budget frame }.pour h

/-- What the writer does next, if there is something to do now. -/
def writerTurn? (s : Socket) (now : Nanos) (h : Switchboard) : Option (Socket × Switchboard) :=
  match s.writer with
  | .finished => none
  | .waiting =>
    if s.isEnding h then
      let (s, h) := s.writerEvent .sawClosed h
      some (s.beginFrame now .close h)
    else
      match h.take? s.serving.id with
      | none => none
      | some (frame, h) =>
        let (s, h) := s.writerEvent (.took frame) h
        some (s.beginFrame now frame h)
  | .writing (.text content) =>
    if s.isEnding h then some (s.writerEvent .sawClosed h) else go s (.text content)
  | .writing frame => go s frame
where
  /-- A frame that is being written. -/
  go (s : Socket) (_ : Outgoing) : Option (Socket × Switchboard) :=
    if s.canDrain || s.clientGone || s.endpoint.outgoing.isEmpty then some (s.pour h)
    else if s.deadline ≤ now then some (s.writerEvent .timedOut h)
    else none

/-! ### The reader -/

/-- The reader ends. -/
def leave (s : Socket) (reason : Departure) : Socket :=
  { s with serving := s.serving.leave reason }

/-- Something has come. -/
def received (s : Socket) (now : Nanos) (m : Inbound) (h : Switchboard) : Socket × Switchboard :=
  let h := if Reader.isActivity m then h.touch s.serving.id now else h
  match Reader.react s.serving.user m with
  | .ignore => (s, h)
  | .relay receiver notice => (s, (h.send receiver notice).2)
  | .exit reason => (s.leave reason, h)

/-- What the reader does next, if there is something to do now. -/
def readerTurn? (s : Socket) (now : Nanos) (h : Switchboard) : Option (Socket × Switchboard) :=
  if !s.serving.isReading then none
  else if s.isEnding h then some (s.leave .byService, h)
  else
    let endpoint := { s.endpoint with incoming := s.endpoint.incoming ++ s.toService }
    let (m, endpoint) := endpoint.receive
    let isNews := !s.toService.isEmpty || s.endpoint.reply.isSome
    let s := { s with endpoint, toService := [] }
    let s := if s.canDrain then s.drain else s
    match m with
    | some m => some (s.received now m h)
    | none =>
      if s.clientGone then some (s.received now .broken h)
      else if isNews then some (s, h)
      else none

/-! ### The life of the connection -/

/-- The next step in the life of the connection, if it is one that can be made now. -/
def lifeTurn? (s : Socket) (h : Switchboard) : Option (Socket × Switchboard) :=
  match s.serving.step? h with
  | some (serving, h) => some ({ s with serving }, h)
  | none =>
    match s.serving.stage with
    | .closed _ =>
      if s.writer = .finished then some ({ s with serving := s.serving.writerEnded }, h) else none
    | _ => none

/-- The session token is to be revoked now. -/
def revokes? (s : Socket) : Option String :=
  if s.serving.stage = .registered then some s.serving.token else none

/-! ### The client -/

/-- What a client sees. -/
inductive Seen where
  /-- A text. -/
  | text (content : String)
  /-- A ping. -/
  | ping
  /-- A pong. -/
  | pong (content : String)
  /-- A closing frame with a code. -/
  | close (code : Nat)
  /-- The service has let go of the connection. -/
  | gone
  deriving DecidableEq, Repr

/-- What a frame is to a client. -/
def seen (f : Frame) : Seen :=
  match f.opcode with
  | .ping => .ping
  | .pong => .pong (Utf8.decodeLossy f.content)
  | .close => .close (bigEndianValue (f.content.take 2))
  | _ => .text (Utf8.decodeLossy f.content)

/-- The frames in front of some bytes, and the bytes behind them. -/
def frames (fuel : Nat) (s : List UInt8) : List Seen × List UInt8 :=
  match fuel with
  | 0 => ([], s)
  | fuel + 1 =>
    match parse s with
    | .frame f _ rest =>
      let (more, rest) := frames fuel rest
      (seen f :: more, rest)
    | _ => ([], s)

/-- The client takes out what has come, and says what it sees. -/
def look (s : Socket) : List Seen × Socket :=
  let bytes := s.unread ++ s.toClient
  let (all, rest) := frames (bytes.length + 1) bytes
  (all ++ if s.serviceGone then [.gone] else [],
    { s with toClient := [], unread := if s.serviceGone then [] else rest })

/-- The client sends bytes; the answer says whether the pipe took them. -/
def send (s : Socket) (bytes : List UInt8) : Bool × Socket :=
  if s.serviceGone || s.clientGone then (false, s)
  else (true, { s with toService := s.toService ++ bytes })

/-- The client is gone. -/
def cut (s : Socket) : Socket :=
  { s with clientGone := true, toClient := [], unread := [] }

end Socket

end Rendezvous.Rehearsal
