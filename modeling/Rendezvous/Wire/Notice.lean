import Rendezvous.Json.Tagged
import Rendezvous.Json.Writer
import Rendezvous.Notice

/-!
# Signals and notices as JSON

Signals and notices are records with a tag. A signal whose tag is not known is a signal all the
same, a notice whose tag is not known is none.
-/

namespace Rendezvous

open Json

/-- The integers of some fields. -/
def integers? (values : List Value) : Option (List Int64) :=
  values.mapM fun
    | .number n => n
    | _ => none

namespace Signal

/-- The signal of a tagged record. -/
def ofTagged? (tag : String) (payload : Payload) : Option Signal :=
  if tag = "typing" then
    match (payload.arguments ["chat_id", "receiver_id"]).bind integers? with
    | some [chat, receiver] => some (.typing chat receiver)
    | _ => none
  else if tag = "delivered" then
    match (payload.arguments ["chat_id", "receiver_id", "message_id"]).bind integers? with
    | some [chat, receiver, message] => some (.delivered chat receiver message)
    | _ => none
  else if payload.isVacant then some .unknown
  else none

/-- The signal that a text writes. -/
def decode (s : Bytes) : Except Fault Signal :=
  match parseTagged (fun _ => true) s with
  | .error f => .error f
  | .ok (tag, payload) =>
    match ofTagged? tag payload with
    | some signal => .ok signal
    | none => .error .mismatched

end Signal

namespace Notice

/-- The words for the kinds of notices. -/
def kinds : List String :=
  ["message", "match", "typing", "delivered", "read_chat", "read_messages"]

/-- The notice of a tagged record. -/
def ofTagged? (tag : String) (payload : Payload) : Option Notice :=
  if tag = "message" then
    match payload.arguments ["id", "chat_id", "user_id", "content"] with
    | some [.number (some id), .number (some chat), .number (some user), .text content] =>
      some (.message id chat user content)
    | _ => none
  else if tag = "match" then
    match payload.arguments ["chat_id", "user_id", "content"] with
    | some [.number (some chat), .number (some user), .text content] =>
      some (.paired chat user content)
    | _ => none
  else if tag = "typing" then
    match payload.arguments ["chat_id", "user_id"] with
    | some [.number (some chat), .number (some user)] => some (.typing chat user)
    | _ => none
  else if tag = "delivered" then
    match payload.arguments ["chat_id", "user_id", "message_id"] with
    | some [.number (some chat), .number (some user), .number (some received)] =>
      some (.delivered chat user received)
    | _ => none
  else if tag = "read_chat" then
    match payload.arguments ["chat_id", "user_id"] with
    | some [.number (some chat), .number (some user)] => some (.readChat chat user)
    | _ => none
  else if tag = "read_messages" then
    match payload.arguments ["chat_id", "user_id", "message_id"] with
    | some [.number (some chat), .number (some user), .list items] =>
      (integers? items).map (.readMessages chat user)
    | _ => none
  else none

/-- The notice that a text writes. -/
def decode (s : Bytes) : Except Fault Notice :=
  match parseTagged kinds.contains s with
  | .error f => .error f
  | .ok (tag, payload) =>
    match ofTagged? tag payload with
    | some notice => .ok notice
    | none => .error .mismatched

/-- The fields of a notice behind its tag. -/
def members : Notice → List (String × String)
  | .message id chat user content =>
    [("id", writeInteger id), ("chat_id", writeInteger chat), ("user_id", writeInteger user),
      ("content", writeText content)]
  | .paired chat user content =>
    [("chat_id", writeInteger chat), ("user_id", writeInteger user),
      ("content", writeText content)]
  | .typing chat user => [("chat_id", writeInteger chat), ("user_id", writeInteger user)]
  | .delivered chat user received =>
    [("chat_id", writeInteger chat), ("user_id", writeInteger user),
      ("message_id", writeInteger received)]
  | .readChat chat user => [("chat_id", writeInteger chat), ("user_id", writeInteger user)]
  | .readMessages chat user messages =>
    [("chat_id", writeInteger chat), ("user_id", writeInteger user),
      ("message_id", writeList writeInteger messages)]

/-- The text of a notice. -/
def encode (notice : Notice) : String :=
  writeRecord ((tagKey, writeText notice.kind) :: notice.members)

end Notice

end Rendezvous
