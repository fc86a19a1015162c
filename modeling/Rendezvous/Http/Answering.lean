import Rendezvous.Dealings.Correspondence
import Rendezvous.Dealings.Pairing
import Rendezvous.Http.Cors
import Rendezvous.Http.MediaType
import Rendezvous.Http.Route
import Rendezvous.Settings.Service
import Rendezvous.Wire.Record

/-!
# Answering requests

A request goes to its route, if it has one and names its method. Where a route asks who the client
is, that is looked at before anything else; then come the path, the query and the body, in this
order, and the first of them that makes no sense is what the answer is about.

A request for a connection is looked at in an order of its own: whether it can be promoted at all,
whether its page may connect, and whether it brings a session token that is worth something. The
token is used up before the connection is promised, and only then.
-/

namespace Rendezvous.Http

/-- What comes of a request. -/
inductive Outcome where
  /-- It is answered. -/
  | respond (answer : Response)
  /-- Its connection is promoted for a user, who showed this session token. -/
  | promote (user : UserId) (token : String)
  deriving DecidableEq, Repr

/-- A request being answered: it may end early with an answer. -/
abbrev Answering (α : Type) := ExceptT Response Flow α

namespace Answering

/-- A task whose refusal is the answer. -/
def ofTask {α : Type} (task : Task α) : Answering α :=
  ExceptT.mk do
    match ← task.run with
    | .ok a => pure (.ok a)
    | .error refusal => pure (.error (.ofRefusal refusal))

/-- Something that has to be there, or else this is the answer. -/
def require {α : Type} (answer : Response) : Option α → Answering α
  | some a => pure a
  | none => throw answer

end Answering

/-! ### What requests have to bring -/

/-- The bearer token of a request. -/
def bearer? (r : Request) : Option String :=
  match r.text? "authorization" with
  | none => none
  | some value =>
    if "Bearer ".toList.isPrefixOf value.toList then
      (some (trim (String.ofList (value.toList.drop 7)))).filter (!·.isEmpty)
    else none

/-- Who makes the request. -/
def caller (r : Request) : Task UserId :=
  match bearer? r with
  | none => throw .noBearer
  | some token => do
    match ← Task.orFail Refusal.ofStore (Flow.call (.authenticate token)) with
    | some user => pure user
    | none => throw .unknownBearer

/-- The answer to a body of the wrong kind. -/
def notJson : Response :=
  .plain 415 "Expected request with \u0060Content-Type: application/json\u0060"

/-- The answer to a body that is too long. -/
def tooLong : Response :=
  .plain 413 "Failed to buffer the request body: length limit exceeded"

/-- The longest body. -/
def longestBody : Nat := 2097152

/-- The answer to a body that is not what was asked for. -/
def ofFault : Json.Fault → Response
  | .mismatched => .plain 422 "Failed to deserialize the JSON body into the target type"
  | _ => .plain 400 "Failed to parse the request body as JSON"

/-- The body of a request, decoded. -/
def content {α : Type} (decode : List UInt8 → Except Json.Fault α) (r : Request) :
    Answering α :=
  if !((r.text? "content-type").map MediaType.isJson).getD false then throw notJson
  else if longestBody < r.body.length then throw tooLong
  else
    match decode r.body with
    | .ok a => pure a
    | .error f => throw (ofFault f)

/-- The answer to a path with something else than a number in it. -/
def badPath : Response :=
  .plain 400 "Invalid URL"

/-- The answer to a query that makes no sense. -/
def badQuery : Response :=
  .plain 400 "Failed to deserialize query string"

/-- The answer to a query with both directions. -/
def bothCursors : Response :=
  .ofRefusal ⟨.badRequest, PageWish.bothCursors⟩

/-! ### The routes -/

/-- Whether the service is well, and how many users are connected. -/
def health : Flow Response := do
  let n ← Flow.call .connected
  pure (.json 200
    (Json.writeRecord [("connections", Json.writeNat n), ("status", Json.writeText "ok")]))

/-- A session token for the caller. -/
def startSession (terms : Terms) (r : Request) : Task Response := do
  let user ← caller r
  let token ← Task.orFail Refusal.ofSession
    (Flow.call (.issue user terms.sessionLife))
  pure (.json 200 (Json.writeRecord [("session_token", Json.writeText token)]))

/-- A decision of the caller. -/
def swipe (r : Request) : Answering Response := do
  let user ← .ofTask (caller r)
  let request ← content DecisionRequest.decode r
  let action ← .require (.ofRefusal .invalidAction) (Decision.ofWord? request.action)
  let outcome ← .ofTask (Pairing.decide user request.target action)
  pure (.json 200 outcome.encode)

/-- The caller forgets all decisions. -/
def forgetDecisions (r : Request) : Task Response := do
  let user ← caller r
  let n ← Pairing.reset user
  pure (.json 200 (Json.writeRecord [("removed", Json.writeNat n)]))

/-- Whom the caller is matched with. -/
def partners (r : Request) : Task Response := do
  let user ← caller r
  let users ← Pairing.partners user
  pure (.json 200 (Json.writeRecord [("matches", Json.writeList Json.writeInteger users)]))

/-- The chats of the caller. -/
def chats (r : Request) : Task Response := do
  let user ← caller r
  let summaries ← Correspondence.chats user
  pure (.json 200 (Json.writeList ChatView.encode summaries))

/-- A page of a chat of the caller. -/
def page (chat : List UInt8) (r : Request) : Answering Response := do
  let user ← .ofTask (caller r)
  let id ← .require badPath (pathNumber? chat)
  let query ← .require badQuery (PageWish.ofFields? (Form.decode r.query))
  let request ← .require bothCursors query.request?
  let messages ← .ofTask (Correspondence.page user id request)
  pure (.json 200 (Json.writeList Message.encode messages))

/-- A message of the caller. -/
def send (r : Request) : Answering Response := do
  let user ← .ofTask (caller r)
  let request ← content Letter.decode r
  let message ← .ofTask (Correspondence.send user request)
  pure (.json 201 message.encode)

/-- The answer that says how many messages were marked read. -/
def updated (n : Nat) : Response :=
  .json 200 (Json.writeRecord [("updated", Json.writeNat n)])

/-- The caller has read a chat. -/
def readChat (r : Request) : Answering Response := do
  let user ← .ofTask (caller r)
  let request ← content ReadAllRequest.decode r
  let n ← .ofTask (Correspondence.readChat user request.chat)
  pure (updated n)

/-- The caller has read some messages. -/
def readMessages (r : Request) : Answering Response := do
  let user ← .ofTask (caller r)
  let request ← content ReadSomeRequest.decode r
  let n ← .ofTask (Correspondence.readMessages user request.chat request.messages)
  pure (updated n)

/-! ### Connections -/

/-- The bytes stand somewhere in the others. -/
def standsIn (part : List UInt8) : List UInt8 → Bool
  | [] => part.isEmpty
  | b :: r => part.isPrefixOf (b :: r) || standsIn part r

/-- Why the connection of a request cannot be promoted, if it cannot. -/
def upgradeObjection? (r : Request) : Option Response :=
  if r.method != "GET" then some (.plain 405 "Request method must be \u0060GET\u0060")
  else if !((r.lowered "connection").map fun v =>
      (Utf8.decode v).isSome && standsIn (Utf8.encode "upgrade") v).getD false then
    some (.plain 400 "Connection header did not include 'upgrade'")
  else if r.lowered "upgrade" != some (Utf8.encode "websocket") then
    some (.plain 400 "\u0060Upgrade\u0060 header did not include 'websocket'")
  else if (r.header? "sec-websocket-key").isNone then
    some (.plain 400 "\u0060Sec-WebSocket-Key\u0060 header missing")
  else if r.lowered "sec-websocket-version" != some (Utf8.encode "13") then
    some (.plain 400 "\u0060Sec-WebSocket-Version\u0060 header did not include '13'")
  else if !r.canUpgrade then
    some (.plain 426
      "WebSocket request couldn't be upgraded since no upgrade state was present")
  else none

/-- The session token that a request brings: the last one in its query, if that is not empty. -/
def sessionToken? (r : Request) : Option String :=
  ((Form.values "session" (Form.decode r.query)).getLast?).filter (!·.isEmpty)

/-- A connection for the owner of a session token. The token is used up by that. -/
def connect (terms : Terms) (r : Request) : Answering Outcome :=
  match upgradeObjection? r with
  | some answer => throw answer
  | none =>
    if !mayConnect terms.connectionOrigins (r.text? "origin") then throw (.ofRefusal .foreignOrigin)
    else
      match sessionToken? r with
      | none => throw (.ofRefusal .noSession)
      | some token => do
        match ← (Flow.call (.redeem token) : Flow (Except HolderError (Option UserId))) with
        | .ok (some user) => pure (.promote user token)
        | .ok none => throw (.ofRefusal .deadSession)
        | .error _ => throw (.ofRefusal .unverifiedSession)

/-! ### All of it -/

/-- What a route does. -/
def serve (terms : Terms) (r : Request) : Route → Answering Outcome
  | .health => do return .respond (← (health : Flow Response))
  | .startSession => do return .respond (← .ofTask (startSession terms r))
  | .connect => connect terms r
  | .swipe => do return .respond (← swipe r)
  | .forgetDecisions => do return .respond (← .ofTask (forgetDecisions r))
  | .partners => do return .respond (← .ofTask (partners r))
  | .chats => do return .respond (← .ofTask (chats r))
  | .page chat => do return .respond (← page chat r)
  | .readChat => do return .respond (← readChat r)
  | .send => do return .respond (← send r)
  | .readMessages => do return .respond (← readMessages r)

/-- What comes of a request, early answers included. -/
def settle (answering : Answering Outcome) : Flow Outcome := do
  match ← answering.run with
  | .ok outcome => pure outcome
  | .error answer => pure (.respond answer)

/-- The answer to a method that a route does not have. -/
def wrongMethod (v : Verb) : Response :=
  ⟨405, .none, [("allow", ",".intercalate v.methods)]⟩

/-- Something done to an answer; a promise of a connection is left as it is. -/
def Outcome.mapAnswer (f : Response → Response) : Outcome → Outcome
  | .respond answer => .respond (f answer)
  | .promote user token => .promote user token

/-- What comes of a request, before the headers that depend on its origin are added. -/
def answerRoute (terms : Terms) (r : Request) : Flow Outcome :=
  match Route.ofPath? r.path with
  | none => pure (.respond (.empty 404))
  | some route =>
    if route.verb.admits r.method then do
      let outcome ← settle (serve terms r route)
      pure (if r.method = "HEAD" then outcome.mapAnswer Response.headOnly else outcome)
    else pure (.respond (wrongMethod route.verb))

/-- What comes of a request. -/
def handle (terms : Terms) (r : Request) : Flow Outcome :=
  if Cors.isPreflight r then pure (.respond (Cors.preflight terms.sharing r))
  else do
    let outcome ← answerRoute terms r
    pure (outcome.mapAnswer (Cors.mark terms.sharing r))

end Rendezvous.Http
