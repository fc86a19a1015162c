import Rendezvous.Text.Form
import Rendezvous.Text.Numeral

/-!
# Routes

What the service can be asked for over HTTP, each under its path and with its one method. Paths are
compared as they stand, byte for byte; only the number of a chat at the end of a path is decoded. A
route for reading may also be asked for its head alone.
-/

namespace Rendezvous.Http

/-- What the service can be asked for. -/
inductive Route where
  /-- Whether it is well. -/
  | health
  /-- A session token. -/
  | startSession
  /-- A connection. -/
  | connect
  /-- To record a decision. -/
  | swipe
  /-- To forget all decisions. -/
  | forgetDecisions
  /-- The matches. -/
  | partners
  /-- The chats. -/
  | chats
  /-- A page of a chat, whose number is written so. -/
  | page (chat : List UInt8)
  /-- To mark a chat read. -/
  | readChat
  /-- To send a message. -/
  | send
  /-- To mark messages read. -/
  | readMessages
  deriving DecidableEq, Repr

/-- The methods of routes. -/
inductive Verb where
  /-- To read. -/
  | get
  /-- To do. -/
  | post
  /-- To delete. -/
  | delete
  deriving DecidableEq, Repr

namespace Route

/-- The routes with a fixed path. -/
def fixed : List (String × Route) :=
  [("/health", .health), ("/ws/start", .startSession), ("/ws/chat", .connect), ("/swipe", .swipe),
    ("/swipes", .forgetDecisions), ("/matches", .partners), ("/chats", .chats),
    ("/chat/read", .readChat), ("/messages/send", .send), ("/messages/read", .readMessages)]

/-- The path in front of the number of a chat. -/
def pagePath : List UInt8 :=
  Utf8.encode "/chat/messages/"

/-- The route of a path. -/
def ofPath? (path : List UInt8) : Option Route :=
  match fixed.find? fun e => Utf8.encode e.1 == path with
  | some (_, route) => some route
  | none =>
    if pagePath.isPrefixOf path then
      let chat := path.drop pagePath.length
      if chat.isEmpty || chat.contains 0x2F then none else some (.page chat)
    else none

/-- The method of a route. -/
def verb : Route → Verb
  | .health => .get
  | .startSession => .post
  | .connect => .get
  | .swipe => .post
  | .forgetDecisions => .delete
  | .partners => .get
  | .chats => .get
  | .page _ => .get
  | .readChat => .post
  | .send => .post
  | .readMessages => .post

end Route

namespace Verb

/-- The methods that a route may be asked with. -/
def methods : Verb → List String
  | .get => ["GET", "HEAD"]
  | .post => ["POST"]
  | .delete => ["DELETE"]

/-- A route may be asked with the method. -/
def admits (v : Verb) (method : String) : Bool :=
  v.methods.contains method

end Verb

/-- The number that a part of a path writes. -/
def pathNumber? (part : List UInt8) : Option Int64 :=
  (Utf8.decodeString (Form.percentDecode part)).bind Numeral.readInt64

end Rendezvous.Http
