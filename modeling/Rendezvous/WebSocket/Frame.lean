import Rendezvous.Identity
import Rendezvous.Text.Utf8

/-!
# Frames

A connection carries frames in both directions. A frame has a head of two bytes or more: a mark for
the last frame of a message, three reserved bits, the kind of the frame, a mark for a mask, and the
length of its content in seven, sixteen or sixty-four bits; behind the head come the mask, if there
is one, and the content. A client masks what it sends, the service does not.

Bytes in front of a reader may be the beginning of a frame that is still to come, a whole frame, or
something that no frame begins with.
-/

namespace Rendezvous.WebSocket

/-- The kinds of frames. -/
inductive Opcode where
  /-- The next part of a message. -/
  | continuation
  /-- A text, or its first part. -/
  | text
  /-- A binary message, or its first part. -/
  | binary
  /-- The end of the connection. -/
  | close
  /-- A question for a sign of life. -/
  | ping
  /-- A sign of life. -/
  | pong
  deriving DecidableEq, Repr

namespace Opcode

/-- The number of a kind. -/
def code : Opcode → Nat
  | .continuation => 0
  | .text => 1
  | .binary => 2
  | .close => 8
  | .ping => 9
  | .pong => 10

/-- The kinds. -/
def all : List Opcode :=
  [.continuation, .text, .binary, .close, .ping, .pong]

/-- The kind with a number. -/
def ofCode? (n : Nat) : Option Opcode :=
  all.find? (·.code == n)

/-- A frame of this kind is not a part of a message. -/
def isControl (o : Opcode) : Bool :=
  8 ≤ o.code

theorem ofCode?_code (o : Opcode) : ofCode? o.code = some o := by
  cases o <;> rfl

end Opcode

/-- A frame. -/
structure Frame where
  /-- It is the last one of its message. -/
  isFinal : Bool
  /-- One of the reserved bits is set. -/
  isReserved : Bool
  /-- Its kind. -/
  opcode : Opcode
  /-- What it carries. -/
  content : List UInt8
  deriving DecidableEq, Repr

/-! ### Writing -/

/-- A number in so many bytes, the most significant one first. -/
def bigEndian : Nat → Nat → List UInt8
  | 0, _ => []
  | count + 1, n => UInt8.ofNat (n / Nat.pow 256 count) :: bigEndian count n

/-- The length of a content, with the mark for a mask. -/
def writeLength (isMasked : Bool) (n : Nat) : List UInt8 :=
  let mark := if isMasked then 128 else 0
  if n < 126 then [UInt8.ofNat (mark + n)]
  else if n < 65536 then UInt8.ofNat (mark + 126) :: bigEndian 2 n
  else UInt8.ofNat (mark + 127) :: bigEndian 8 n

/-- Content under a mask; to apply it a second time takes it away. -/
def applyMask (mask : List UInt8) (content : List UInt8) : List UInt8 :=
  if mask.isEmpty then content else go mask content
where
  /-- The mask from where it stands, and from its beginning when it is used up. -/
  go : List UInt8 → List UInt8 → List UInt8
    | _, [] => []
    | m :: ms, b :: r => (b ^^^ m) :: go ms r
    | [], b :: r =>
      match mask with
      | [] => b :: r
      | m :: ms => (b ^^^ m) :: go ms r

/-- The bytes of a frame. -/
def Frame.write (f : Frame) (mask : Option (List UInt8)) : List UInt8 :=
  let first := (if f.isFinal then 128 else 0) + (if f.isReserved then 64 else 0) + f.opcode.code
  UInt8.ofNat first :: writeLength mask.isSome f.content.length ++
    (mask.getD [] ++ applyMask (mask.getD []) f.content)

/-! ### Reading -/

/-- What the bytes in front of a reader are. -/
inductive Parsed where
  /-- The beginning of something that is still to come. -/
  | incomplete
  /-- Nothing that a frame begins with. -/
  | invalid
  /-- A frame, the mask of which is taken away, whether there was one, and the bytes after it. -/
  | frame (f : Frame) (isMasked : Bool) (rest : List UInt8)
  deriving DecidableEq, Repr

/-- The number that bytes name, the most significant one first. -/
def bigEndianValue (bytes : List UInt8) : Nat :=
  bytes.foldl (fun n b => 256 * n + b.toNat) 0

/-- So many bytes in front, and those after them; `none` when there are fewer. -/
def splitAt? (n : Nat) (s : List UInt8) : Option (List UInt8 × List UInt8) :=
  let front := s.take n
  if front.length = n then some (front, s.drop n) else none

/-- The longest content that is accepted in one frame. -/
def longestFrame : Nat := 16777216

/-- How many bytes of a head behind its second byte tell the length of the content. -/
def lengthBytes (short : Nat) : Nat :=
  if short < 126 then 0 else if short = 126 then 2 else 8

/-- Reads a frame. The head is looked at when all of it has come, the content when all of that
has. -/
def parse (s : List UInt8) : Parsed :=
  match s with
  | a :: b :: r =>
    let isMasked := 128 ≤ b.toNat
    let short := b.toNat % 128
    match splitAt? (lengthBytes short) r with
    | none => .incomplete
    | some (lengthField, r) =>
      let length := if short < 126 then short else bigEndianValue lengthField
      match splitAt? (if isMasked then 4 else 0) r with
      | none => .incomplete
      | some (mask, r) =>
        match Opcode.ofCode? (a.toNat % 16) with
        | none => .invalid
        | some opcode =>
          if longestFrame < length then .invalid
          else
            match splitAt? length r with
            | none => .incomplete
            | some (content, rest) =>
              .frame ⟨128 ≤ a.toNat, a.toNat / 16 % 8 != 0, opcode, applyMask mask content⟩ isMasked
                rest
  | _ => .incomplete

end Rendezvous.WebSocket
