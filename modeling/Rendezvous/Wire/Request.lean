import Rendezvous.Identity
import Rendezvous.Json.Record
import Rendezvous.Page
import Rendezvous.Text.Form

/-!
# What requests say

The bodies of requests as JSON: a message to be sent, a decision, a chat that was read, messages
that were read, and the query for a page.
-/

namespace Rendezvous

open Json

/-- A message to be sent. -/
structure Letter where
  /-- To whom it goes. -/
  receiver : UserId
  /-- What it says. -/
  content : String
  /-- The chat that it belongs to, if the sender names one. -/
  chat : Option ChatId
  deriving DecidableEq, Repr

namespace Letter

/-- A message of which some fields are read. -/
structure Draft where
  receiver : Option UserId := none
  content : Option String := none
  chat : Option (Option ChatId) := none

/-- How a message to be sent is read. The chat may be left out. -/
def shape : Shape Draft Letter where
  blank := {}
  fields := [
    .of "receiver_id" readInteger (·.receiver) (fun d v => { d with receiver := some v }),
    .of "content" readText (·.content) (fun d v => { d with content := some v }),
    .of "chat_id" (readOption readInteger) (·.chat) (fun d v => { d with chat := some v }) true]
  complete d := do return ⟨← d.receiver, ← d.content, d.chat.join⟩

/-- The message that a text writes. -/
def decode (s : Bytes) : Except Fault Letter :=
  shape.parse s

end Letter

/-- A decision about a user. The word for it is looked at later. -/
structure DecisionRequest where
  /-- The user decided about. -/
  target : UserId
  /-- The word for the decision. -/
  action : String
  deriving DecidableEq, Repr

namespace DecisionRequest

/-- A decision of which some fields are read. -/
structure Draft where
  target : Option UserId := none
  action : Option String := none

/-- How a decision is read. -/
def shape : Shape Draft DecisionRequest where
  blank := {}
  fields := [
    .of "target_id" readInteger (·.target) (fun d v => { d with target := some v }),
    .of "action" readText (·.action) (fun d v => { d with action := some v })]
  complete d := do return ⟨← d.target, ← d.action⟩

/-- The decision that a text writes. -/
def decode (s : Bytes) : Except Fault DecisionRequest :=
  shape.parse s

end DecisionRequest

/-- A chat that was read. -/
structure ReadAllRequest where
  /-- The chat. -/
  chat : ChatId
  deriving DecidableEq, Repr

namespace ReadAllRequest

/-- How a read chat is read. -/
def shape : Shape (Option ChatId) ReadAllRequest where
  blank := none
  fields := [.of "chat_id" readInteger id (fun _ v => some v)]
  complete d := d.map .mk

/-- The request that a text writes. -/
def decode (s : Bytes) : Except Fault ReadAllRequest :=
  shape.parse s

end ReadAllRequest

/-- Messages that were read. -/
structure ReadSomeRequest where
  /-- The chat of the messages. -/
  chat : ChatId
  /-- The messages. -/
  messages : List MessageId
  deriving DecidableEq, Repr

namespace ReadSomeRequest

/-- A request of which some fields are read. -/
structure Draft where
  chat : Option ChatId := none
  messages : Option (List MessageId) := none

/-- How read messages are read. The list may be left out, but not absent in place. -/
def shape : Shape Draft ReadSomeRequest where
  blank := {}
  fields := [
    .of "chat_id" readInteger (·.chat) (fun d v => { d with chat := some v }),
    .of "message_ids" (readList readInteger) (·.messages)
      (fun d v => { d with messages := some v }) true]
  complete d := do return ⟨← d.chat, d.messages.getD []⟩

/-- The request that a text writes. -/
def decode (s : Bytes) : Except Fault ReadSomeRequest :=
  shape.parse s

end ReadSomeRequest

namespace PageWish

/-- A query of which some fields are read. -/
structure Draft where
  limit : Option (Option Int64) := none
  beforeId : Option (Option MessageId) := none
  afterId : Option (Option MessageId) := none

/-- How a query for a page is read from JSON. Each field may be left out of the object form. -/
def shape : Shape Draft PageWish where
  blank := {}
  fields := [
    .of "limit" (readOption readInteger) (·.limit) (fun d v => { d with limit := some v }),
    .of "before_id" (readOption readInteger) (·.beforeId)
      (fun d v => { d with beforeId := some v }),
    .of "after_id" (readOption readInteger) (·.afterId) (fun d v => { d with afterId := some v })]
  complete d := some ⟨d.limit.join, d.beforeId.join, d.afterId.join⟩

/-- The query that a text writes. -/
def decode (s : Bytes) : Except Fault PageWish :=
  shape.parse s

/-- The value of a field of a query text: at most one, and an integer of 64 bits. -/
def field? (name : String) (fields : List (String × String)) : Option (Option Int64) :=
  match (fields.filter (·.1 == name)).map (·.2) with
  | [] => some none
  | [v] => (Numeral.readInt64 v).map some
  | _ => none

/-- The query that the fields of a query text make; `none` when one of them is no integer or is
given twice. -/
def ofFields? (fields : List (String × String)) : Option PageWish := do
  return ⟨← field? "limit" fields, ← field? "before_id" fields, ← field? "after_id" fields⟩

/-- The query that a query text makes. A number sign ends the text. -/
def ofText? (query : String) : Option PageWish :=
  ofFields? (Form.decode ((Utf8.encode query).takeWhile (· != 0x23)))

end PageWish

end Rendezvous
