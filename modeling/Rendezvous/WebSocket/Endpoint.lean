import Rendezvous.Channel.Reader
import Rendezvous.WebSocket.Frame

/-!
# The service's end of a connection

The service reads frames from the bytes that came and puts messages together from them; it writes
frames into a buffer of bytes that go out as the client takes them.

A frame that the rules forbid is a fault, and so is a message that is too long or a text that is no
UTF-8: a frame without a mask, a reserved bit, a control frame that is long or in parts, a part of
nothing, a new message inside another one, half a code in a closing frame. Messages are put together
from parts; control frames may come between the parts.

A ping is answered by a pong with the same content, which goes out before anything more is read.
When the client has closed, nothing more is written; when the service has, nothing after its
closing frame.
-/

namespace Rendezvous.WebSocket

/-- Who has closed the connection. -/
inductive Closing where
  /-- Nobody. -/
  | nobody
  /-- The service. -/
  | byService
  /-- The client. -/
  | byClient
  deriving DecidableEq, Repr

/-- A message that is still to be completed. -/
structure Assembly where
  /-- It is a text. -/
  isText : Bool
  /-- What it holds so far. -/
  content : List UInt8
  deriving DecidableEq, Repr

/-- The service's end of a connection. -/
structure Endpoint where
  /-- The bytes that came and are not read yet. -/
  incoming : List UInt8
  /-- The message under way. -/
  assembly : Option Assembly
  /-- The bytes that are to go out. -/
  outgoing : List UInt8
  /-- A pong that is to go out with the next thing. -/
  reply : Option Frame
  /-- Who has closed the connection. -/
  closing : Closing
  deriving DecidableEq, Repr

namespace Endpoint

/-- A connection that is opened. -/
def opened : Endpoint :=
  ⟨[], none, [], none, .nobody⟩

/-! ### Writing -/

/-- A frame of the service. -/
def plain (opcode : Opcode) (content : List UInt8) : List UInt8 :=
  Frame.write ⟨true, false, opcode, content⟩ none

/-- The reply that waits is put behind everything else. -/
def queueReply (e : Endpoint) : Endpoint :=
  match e.reply with
  | some f => { e with outgoing := e.outgoing ++ f.write none, reply := none }
  | none => e

/-- The code of a normal closing. -/
def normalClosure : List UInt8 := bigEndian 2 1000

/-- A frame is put behind everything else; `none` when the connection is closed already. -/
def send? (e : Endpoint) (opcode : Opcode) (content : List UInt8) : Option Endpoint :=
  if e.closing = .nobody then
    some { e with outgoing := e.outgoing ++ plain opcode content }.queueReply
  else none

/-- A closing frame is put behind everything else; `none` when the client has closed already. -/
def close? (e : Endpoint) : Option Endpoint :=
  (e.send? .close normalClosure).map fun e => { e with closing := .byService }

/-! ### Reading -/

/-- What one frame is to a reader. -/
inductive Step where
  /-- A fault. -/
  | fault
  /-- A message, complete. -/
  | message (m : Inbound) (e : Endpoint)
  /-- A part of a message. -/
  | part (e : Endpoint)

/-- A text that is complete has to be UTF-8. -/
def complete (e : Endpoint) (a : Assembly) : Step :=
  if a.isText then
    if (Utf8.decode a.content).isSome then .message (.text a.content) { e with assembly := none }
    else .fault
  else .message (.binary a.content) { e with assembly := none }

/-- More of a message. It may not be too long, and the beginning of a text has to be one. -/
def extend (e : Endpoint) (a : Assembly) (content : List UInt8) (isFinal : Bool) : Step :=
  let a : Assembly := ⟨a.isText, a.content ++ content⟩
  if Limit.inboundBytes < a.content.length then .fault
  else if isFinal then e.complete a
  else if a.isText && (Utf8.advance none a.content).isNone then .fault
  else .part { e with assembly := some a }

/-- Whether the content of a closing frame is empty, or a code and a text. -/
def isClosure (content : List UInt8) : Bool :=
  match content with
  | [] => true
  | [_] => false
  | _ :: _ :: reason => (Utf8.decode reason).isSome

/-- A frame is read. -/
def take (e : Endpoint) (f : Frame) : Step :=
  if f.isReserved then .fault
  else if f.opcode.isControl && (!f.isFinal || 125 < f.content.length) then .fault
  else
    match f.opcode, e.assembly with
    | .close, _ =>
      if isClosure f.content then .message .close { e with closing := .byClient } else .fault
    | .ping, _ =>
      .message .ping
        { e with reply := if e.closing = .nobody then some { f with opcode := .pong } else e.reply }
    | .pong, _ => .message .pong e
    | .continuation, some a => e.extend a f.content f.isFinal
    | .continuation, none => .fault
    | .text, none => e.extend ⟨true, []⟩ f.content f.isFinal
    | .binary, none => e.extend ⟨false, []⟩ f.content f.isFinal
    | _, some _ => .fault

/-- The next message, or `none` when it has not come yet. After a fault nothing more is read. -/
def nextMessage (fuel : Nat) (e : Endpoint) : Option Inbound × Endpoint :=
  match fuel with
  | 0 => (none, e)
  | fuel + 1 =>
    match parse e.incoming with
    | .incomplete => (none, e)
    | .invalid => (some .broken, { e with incoming := [] })
    | .frame f isMasked rest =>
      let e := { e with incoming := rest }
      if isMasked then
        match e.take f with
        | .fault => (some .broken, { e with incoming := [] })
        | .message m e => (some m, e)
        | .part e => nextMessage fuel e
      else (some .broken, { e with incoming := [] })

/-- The next message, or `none` when it has not come yet. The reply that waits is put out first. -/
def receive (e : Endpoint) : Option Inbound × Endpoint :=
  let e := e.queueReply
  e.nextMessage (e.incoming.length + 1)

end Endpoint

end Rendezvous.WebSocket
