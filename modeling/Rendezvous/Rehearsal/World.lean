import Rendezvous.Http.Answering
import Rendezvous.Recurrence
import Rendezvous.Rehearsal.Names
import Rendezvous.Rehearsal.Socket
import Rendezvous.Rehearsal.StandIn
import Rendezvous.Rehearsal.Surroundings
import Rendezvous.Session.Ledger
import Rendezvous.Session.Token
import Rendezvous.Store.Records
import Rendezvous.Switchboard.Round

/-!
# The world of a rehearsal

A rehearsal runs the whole service in a world of its own, in which time moves only when it is told
to and every accident can be planned. The world holds the tables, the session tokens and the
connections of the service, its periodic tasks, the stand-ins and clients at the other ends of the
connections, and the failures that are still to come. Where the service is set up to keep its
records in the database or its tokens at the key server, those are asked instead of the tables and
the ledger in the world. Points in time count the steps of the rehearsal: each one is later than all
before it.

A request runs as a flow: each of its calls is answered from the world.
-/

namespace Rendezvous.Rehearsal

/-! ### Planned failures -/

/-- The word for what a store is asked. -/
def requestWord : StoreRequest → String
  | .recordSwipe .. => "upsert_swipe"
  | .likes .. => "has_liked"
  | .forgetSwipes .. => "clear_swipes"
  | .matchesOf .. => "matches_for_user"
  | .openChat .. => "get_or_create_chat"
  | .openMatch .. => "open_match_chat"
  | .chat .. => "get_chat"
  | .chatsOf .. => "chats_for_user"
  | .append .. => "append_message"
  | .page .. => "list_messages"
  | .markAllRead .. => "mark_chat_read"
  | .markSomeRead .. => "mark_messages_read"

/-- The failures that are still to come, as so many for each word. -/
abbrev Accidents := Table String Nat

/-- One failure fewer under a word; `none` when none is planned. -/
def Accidents.happen? (a : Accidents) (word : String) : Option Accidents :=
  match a.get? word with
  | some (n + 1) => some (a.insert word n)
  | _ => none

/-- What is said of a planned failure. -/
def accidentText (word : String) : String :=
  "injected failure in " ++ word

/-! ### Periodic work -/

/-- What a periodic task of a rehearsal does. -/
inductive Work where
  /-- A round of the heartbeat. -/
  | heartbeat
  /-- A sweep of the session tokens. -/
  | sweep
  /-- It counts, and takes so long for it. -/
  | count (busy : Nanos)
  deriving DecidableEq, Repr

/-- The name of a task. -/
def Work.name : Work → String
  | .heartbeat => "heartbeat"
  | .sweep => "session-sweeper"
  | .count _ => "counter"

/-- A periodic task and what it is in the middle of. -/
structure Job where
  /-- The task. -/
  task : Recurrence
  /-- What it does. -/
  work : Work
  /-- How often it has counted. -/
  ticks : Nat
  /-- The round that is under way. -/
  round : Option Round
  /-- When it will have counted. -/
  busyUntil : Option Nanos

/-! ### The world -/

/-- The world of a rehearsal. -/
structure World where
  /-- The time. -/
  now : Nanos
  /-- The number of the step. -/
  step : Nat
  /-- How many points in time were taken. -/
  moments : Nat
  /-- How many session tokens were made. -/
  minted : Nat
  /-- The terms on which requests are answered. -/
  terms : Terms
  /-- What the store keeps. -/
  records : Records
  /-- The database that keeps everything instead of the tables, if one does. -/
  database : Option ScriptedDatabase
  /-- The session tokens. -/
  ledger : Ledger
  /-- The session tokens are kept by the key server instead. -/
  usesKeys : Bool
  /-- The key server, if it can be reached. -/
  keys : Option RehearsedKeys
  /-- The connections. -/
  board : Switchboard
  /-- The failures that are still to come. -/
  accidents : Accidents
  /-- The stand-ins for writers. -/
  standIns : Table ConnectionId StandIn
  /-- The connections with a client at the other end. -/
  sockets : Table ConnectionId Socket
  /-- The periodic tasks. -/
  jobs : Table Nat Job
  /-- What connections are called. -/
  connectionNames : Table String ConnectionId
  /-- What clients are called. -/
  clientNames : Table String ConnectionId
  /-- What session tokens are called. -/
  tokenNames : Table String String
  /-- What periodic tasks are called. -/
  jobNames : Table String Nat

namespace World

/-- How a rehearsal is set up. -/
structure Setup where
  /-- The bearer tokens that are known. -/
  tokens : List (String × UserId)
  /-- How long a session token lives. -/
  sessionLife : Nanos
  /-- From where connections may be opened. -/
  connectionOrigins : Option (List String)
  /-- The list of the origins to which answers may be shown. -/
  sharedOrigins : Option String
  /-- The records are kept in the database. -/
  usesDatabase : Bool
  /-- The session tokens are kept by the key server. -/
  usesKeys : Bool

/-- The world in which a rehearsal begins; `none` when the service does not start with this
setup, because the list of origins cannot be followed or the database is out of reach. -/
def start? (around : Surroundings) (setup : Setup) : Option World :=
  if setup.usesDatabase && around.database.isNone then none
  else (Sharing.ofList? setup.sharedOrigins).map fun sharing =>
    { now := 0, step := 0, moments := 0, minted := 0
      terms := ⟨setup.sessionLife, setup.connectionOrigins, sharing⟩
      records := setup.tokens.foldl (fun t (token, user) => t.grant token user) .empty
      database := if setup.usesDatabase then around.database else none
      ledger := .empty, usesKeys := setup.usesKeys, keys := around.keys
      board := .empty, accidents := .empty
      standIns := .empty, sockets := .empty, jobs := .empty
      connectionNames := .empty, clientNames := .empty, tokenNames := .empty, jobNames := .empty }

/-- The point in time of something that happens now: later than all before it. -/
def moment (w : World) : Timestamp :=
  ⟨w.step, w.moments⟩

/-! ### Answering calls -/

/-- Something that fails if a failure is planned under the word, and else happens. -/
def unlessAccident {α : Type} (w : World) (word : String) (failure : String → α)
    (otherwise : World → α × World) : α × World :=
  match Accidents.happen? w.accidents word with
  | some accidents => (failure (accidentText word), { w with accidents })
  | none => otherwise w

/-- The answer of the store. -/
def askStore (w : World) (r : StoreRequest) : Except StoreError r.Answer × World :=
  w.unlessAccident (requestWord r) (fun text => .error (.unavailable text)) fun w =>
    match w.database with
    | some d =>
      let (answer, d) := d.converse (Database.ask r)
      (answer, { w with database := some d })
    | none =>
      let (answer, records) := w.records.answer w.moment r
      (answer, { w with records, moments := w.moments + 1 })

/-- Who goes by a bearer token. -/
def authenticate (w : World) (token : String) : Except StoreError (Option UserId) × World :=
  w.unlessAccident "authenticate" (fun text => .error (.unavailable text)) fun w =>
    match w.database with
    | some d =>
      let (answer, d) := d.converse (Database.bearer? token)
      (answer, { w with database := some d })
    | none => (.ok (w.records.bearer? token), w)

/-- The reply of the key server. -/
def tellKeys (w : World) (c : KeyCommand) : KeyReply × World :=
  let (reply, keys) := RehearsedKeys.tell w.keys c
  (reply, { w with keys })

/-- A new session token. -/
def issue (w : World) (user : UserId) (life : Nanos) : Except HolderError String × World :=
  w.unlessAccident "issue" (fun text => .error (.backend text)) fun w =>
    let token := Token.replayed w.minted
    let w := { w with minted := w.minted + 1 }
    if w.usesKeys then
      let (reply, w) := w.tellKeys (KeySession.issue token user life)
      (KeySession.issued token reply, w)
    else
      match w.ledger.issue? w.now token user life with
      | some ledger => (.ok token, { w with ledger })
      | none => (.error (.backend "the clock ends before the token"), w)

/-- A session token is used. -/
def redeem (w : World) (token : String) : Except HolderError (Option UserId) × World :=
  w.unlessAccident "redeem" (fun text => .error (.backend text)) fun w =>
    if w.usesKeys then
      let (reply, w) := w.tellKeys (KeySession.redeem token)
      (KeySession.redeemed reply, w)
    else
      let (user, ledger) := w.ledger.redeem w.now token
      (.ok user, { w with ledger })

/-- A session token is revoked. -/
def revoke (w : World) (token : String) : Except HolderError Unit × World :=
  w.unlessAccident "revoke" (fun text => .error (.backend text)) fun w =>
    if w.usesKeys then
      let (reply, w) := w.tellKeys (KeySession.revoke token)
      (KeySession.revoked reply, w)
    else (.ok (), { w with ledger := w.ledger.revoke token })

/-- The answer to a call of a request. -/
def serve : Flow.Server World
  | .store r, w => w.askStore r
  | .authenticate token, w => w.authenticate token
  | .issue user life, w => w.issue user life
  | .redeem token, w => w.redeem token
  | .revoke token, w => w.revoke token
  | .push user notice, w =>
    let (taken, board) := w.board.send user notice
    (taken, { w with board })
  | .connected, w => (w.board.count, w)

/-- A flow that runs in the world. -/
def perform {α : Type} (w : World) (flow : Flow α) : α × World :=
  flow.run serve w

/-! ### Names -/

/-- The connection that goes by a name. -/
def connection? (w : World) (name : String) : Option ConnectionId :=
  w.connectionNames.get? name

/-- The name of a connection. -/
def nameOf? (w : World) (id : ConnectionId) : Option String :=
  (w.connectionNames.entries.find? fun e => e.2 == id).map (·.1)

/-- A text in which the names of session tokens stand for them. -/
def expandText (w : World) (s : String) : String :=
  Names.expand w.tokenNames s

end World

end Rendezvous.Rehearsal
