import Rendezvous.Rehearsal.Turns

/-!
# The steps of a rehearsal

A rehearsal is a list of steps: something is asked of the store, of a part of the service or of the
whole of it, a connection is made, used or ended, a task is started, time passes. Each step has an
outcome, and when it is done everything that can be done because of it is done before the next one.
-/

namespace Rendezvous.Rehearsal

/-! ### Steps -/

/-- What a user asks of the service. -/
inductive Wish where
  /-- To decide about another user. -/
  | decide (target : UserId) (action : Decision)
  /-- To forget all decisions. -/
  | reset
  /-- The matches. -/
  | partners
  /-- To send a message. -/
  | send (message : Letter)
  /-- To send so many messages that begin alike. -/
  | sendMany (receiver : UserId) (chat : Option ChatId) (beginning : String) (count : Nat)
  /-- A page of a chat. -/
  | page (chat : ChatId) (query : PageWish)
  /-- The chats. -/
  | chats
  /-- To mark a chat read. -/
  | readChat (chat : ChatId)
  /-- To mark messages read. -/
  | readMessages (chat : ChatId) (messages : List MessageId)

/-- What a client sends. -/
inductive ClientMove where
  /-- A frame. -/
  | frame (opcode : WebSocket.Opcode) (isFinal : Bool) (content : List UInt8)
  /-- Bytes. -/
  | raw (bytes : List UInt8)

/-- What is done to the service's end right after a client is cut off. -/
inductive Farewell where
  /-- Nothing. -/
  | nothing
  /-- A text is pushed. -/
  | push (content : String)
  /-- A ping is asked for. -/
  | probe (wait : Nanos)

/-- A step of a rehearsal. -/
inductive Step where
  /-- Something is asked of the store. -/
  | store (r : StoreRequest)
  /-- How many chats are there? -/
  | chatCount
  /-- A bearer token is made known. -/
  | grant (token : String) (user : UserId)
  /-- Who goes by a bearer token? -/
  | authenticate (token : String)
  /-- So many failures are planned under a word. -/
  | plan (word : String) (times : Nat)
  /-- A user asks something of the service. -/
  | wish (user : UserId) (w : Wish)
  /-- A session token is given out and gets a name. -/
  | issue (user : UserId) (life : Nanos) (name : Option String)
  /-- A session token is used. -/
  | redeem (token : String)
  /-- A session token is revoked. -/
  | revoke (token : String)
  /-- The session tokens are swept. -/
  | sweepSessions
  /-- How many session tokens are kept? -/
  | sessionCount
  /-- Time passes. -/
  | wait (span : Nanos)
  /-- A periodic task starts under a name. -/
  | startTask (name : String) (period : Nanos) (work : Work)
  /-- How is a task? -/
  | taskState (name : String)
  /-- A task is told to stop and waited for. -/
  | stopTask (name : String)
  /-- A task is told to stop. -/
  | abandonTask (name : String)
  /-- A connection is opened under a name, with a stand-in or without. -/
  | connection (name : String) (user : UserId) (writer : Option (Manner × Nanos))
  /-- A connection is registered. -/
  | register (name : String)
  /-- A connection is taken out of the switchboard. -/
  | unregister (user : UserId) (name : String)
  /-- A connection is taken out of the switchboard and closed. -/
  | evict (name : String)
  /-- A connection is closed. -/
  | close (name : String)
  /-- Is a connection closed? -/
  | isEnding (name : String)
  /-- Something came from the client of a connection. -/
  | touch (name : String)
  /-- For how long did nothing come from a client? -/
  | idle (name : String)
  /-- A text is pushed to a connection. -/
  | push (name : String) (content : String)
  /-- So many texts that begin alike are pushed to a connection. -/
  | pushMany (name : String) (beginning : String) (count : Nat)
  /-- A ping is asked for and waited for. -/
  | probe (name : String) (wait : Nanos)
  /-- The frames that a stand-in took, or those that wait if there is none, at most so many. -/
  | drain (name : String) (most : Option Nat)
  /-- The writer of a connection is sent away. -/
  | dropWriter (name : String)
  /-- Which connection is a user's? -/
  | current (user : UserId)
  /-- A notice is pushed to a user. -/
  | notice (user : UserId) (notice : Notice)
  /-- A text is pushed to a user. -/
  | text (user : UserId) (content : String)
  /-- Is a user connected? -/
  | isOnline (user : UserId)
  /-- How many users are connected? -/
  | clients
  /-- Which connections are current? -/
  | snapshot
  /-- A round of the heartbeat. -/
  | round (writeWait liveness : Nanos)
  /-- A request; the session token in its answer gets a name. -/
  | http (r : Http.Request) (name : Option String)
  /-- A request for a connection under a name. -/
  | connect (name : String) (r : Http.Request)
  /-- A client sends something. -/
  | clientSend (name : String) (move : ClientMove)
  /-- A client looks at what it got. -/
  | clientLook (name : String)
  /-- A client is cut off. -/
  | clientCut (name : String) (farewell : Farewell)

/-! ### Outcomes -/

/-- What comes of a step. -/
inductive Outcome where
  /-- Nothing to say. -/
  | nothing
  /-- Yes or no. -/
  | flag (b : Bool)
  /-- A number. -/
  | count (n : Nat)
  /-- Numbers of users or messages. -/
  | ids (ids : List Int64)
  /-- A user, or nobody. -/
  | user (id : Option UserId)
  /-- A name, or none. -/
  | name (name : Option String)
  /-- A chat that was there or is opened. -/
  | opened (chat : ChatId) (created : Bool)
  /-- A chat, or none. -/
  | chat (chat : Option Chat)
  /-- Chats as a user sees them. -/
  | summaries (chats : List ChatView)
  /-- A message. -/
  | message (m : Message)
  /-- Messages. -/
  | messages (ms : List Message)
  /-- What came of a decision. -/
  | swipe (o : DecisionOutcome)
  /-- The first and the last of many messages. -/
  | sent (first last : Option MessageId)
  /-- A session token. -/
  | token
  /-- How much is kept. -/
  | size (n : Nat)
  /-- How a task is: whether it runs, and how often it has counted. -/
  | task (state : Option (Bool × Nat))
  /-- How often a task has counted, if there was one. -/
  | ticks (n : Option Nat)
  /-- Frames from a queue. -/
  | frames (fs : List Outgoing)
  /-- What a client sees. -/
  | seen (all : List Socket.Seen)
  /-- The current connections by their names. -/
  | snapshot (entries : List (UserId × String))
  /-- An answer. -/
  | response (r : Http.Response)
  /-- A connection for a user. -/
  | connected (user : UserId)
  /-- A refusal of the store. -/
  | storeError (e : StoreError)
  /-- A refusal of the service. -/
  | refused (r : Refusal)
  /-- A failure of the holder of session tokens. -/
  | sessionError (e : HolderError)
  /-- The step itself makes no sense. -/
  | invalid (message : String)
  /-- Nothing goes by that name. -/
  | unknown (name : String)

namespace Outcome

/-- The outcome of something asked of the store. -/
def ofStore (r : StoreRequest) : Except StoreError r.Answer → Outcome
  | .error e => .storeError e
  | .ok a =>
    match r, a with
    | .recordSwipe .., _ => .nothing
    | .likes .., b => .flag b
    | .forgetSwipes .., n => .count n
    | .matchesOf .., users => .ids users
    | .openChat .., (id, created) => .opened id created
    | .openMatch .., (id, created) => .opened id created
    | .chat .., c => .chat c
    | .chatsOf .., cs => .summaries cs
    | .append .., m => .message m
    | .page .., ms => .messages ms
    | .markAllRead .., n => .count n
    | .markSomeRead .., marked => .ids marked

/-- The outcome of a task. -/
def ofTask {α : Type} (f : α → Outcome) : Except Refusal α → Outcome
  | .ok a => f a
  | .error r => .refused r

/-- The outcome of something asked of the holder of session tokens. -/
def ofSession {α : Type} (f : α → Outcome) : Except HolderError α → Outcome
  | .ok a => f a
  | .error e => .sessionError e

end Outcome

/-! ### What users ask -/

/-- Many messages that begin alike, one after the other. -/
def sendAll (user : UserId) (m : Letter) (beginning : String) :
    List Nat → Option MessageId → Option MessageId → Task (Option MessageId × Option MessageId)
  | [], first, last => pure (first, last)
  | n :: rest, first, _ => do
    let stored ← Correspondence.send user { m with content := beginning ++ n.repr }
    sendAll user m beginning rest (first.or (some stored.id)) (some stored.id)

namespace World

/-- What comes of a task that runs in the world. -/
def attempt {α : Type} (w : World) (task : Task α) (f : α → Outcome) : Outcome × World :=
  let (result, w) := w.perform task.run
  (.ofTask f result, w)

/-- What comes of what a user asks. -/
def grantWish (w : World) (user : UserId) : Wish → Outcome × World
  | .decide target action => w.attempt (Pairing.decide user target action) .swipe
  | .reset => w.attempt (Pairing.reset user) .count
  | .partners => w.attempt (Pairing.partners user) .ids
  | .send m => w.attempt (Correspondence.send user m) .message
  | .sendMany receiver chat beginning count =>
    let numbers := (List.range count).map (· + 1)
    w.attempt (sendAll user ⟨receiver, "", chat⟩ beginning numbers none none)
      fun (first, last) => .sent first last
  | .page chat query =>
    match query.request? with
    | some request => w.attempt (Correspondence.page user chat request) .messages
    | none => (.invalid PageWish.bothCursors, w)
  | .chats => w.attempt (Correspondence.chats user) .summaries
  | .readChat chat => w.attempt (Correspondence.readChat user chat) .count
  | .readMessages chat messages => w.attempt (Correspondence.readMessages user chat messages) .count

/-! ### Connections -/

/-- Something done to a connection that goes by a name. -/
def withConnection (w : World) (name : String) (f : ConnectionId → Outcome × World) :
    Outcome × World :=
  match w.connection? name with
  | some id => f id
  | none => (.unknown name, w)

/-- Something done in the switchboard. -/
def onBoard {α : Type} (w : World) (result : α × Switchboard) (f : α → Outcome) : Outcome × World :=
  (f result.1, { w with board := result.2 })

/-- A connection under a name. -/
def openConnection (w : World) (name : String) (user : UserId)
    (writer : Option (Manner × Nanos)) : World :=
  let (id, board) := w.board.open user w.now
  let standIns := match writer with
    | some (manner, delay) => w.standIns.insert id ⟨id, manner, delay, [], none, false⟩
    | none => w.standIns
  { w with board, standIns, connectionNames := w.connectionNames.insert name id }

/-- Many texts into the queue of a connection; the answer is how many the queue took. -/
def pushAll (h : Switchboard) (id : ConnectionId) (beginning : String) :
    List Nat → Nat × Switchboard
  | [] => (0, h)
  | n :: rest =>
    let (taken, h) := h.push id (beginning ++ n.repr)
    let (more, h) := pushAll h id beginning rest
    ((if taken then 1 else 0) + more, h)

/-- A ping that is waited for. -/
def awaitProbe (w : World) (id : ConnectionId) (span : Nanos) : Outcome × World :=
  let (ticket, board) := w.board.probe id w.now span
  let (verdict, w) := { w with board }.awaitFor (fun w => w.board.verdict? ticket) span
  (.flag (verdict.getD false), w)

/-- The frames that wait in a queue, at most so many. -/
def takeFrames (h : Switchboard) (id : ConnectionId) : Nat → List Outgoing × Switchboard
  | 0 => ([], h)
  | n + 1 =>
    match h.take? id with
    | none => ([], h)
    | some (frame, h) =>
      let h := match frame with
        | .probe ticket => h.settle ticket false
        | _ => h
      let (more, h) := takeFrames h id n
      (frame :: more, h)

/-- The frames that a stand-in took, or those that wait. -/
def drainConnection (w : World) (id : ConnectionId) (most : Option Nat) : Outcome × World :=
  match w.standIns.get? id with
  | some s =>
    let n := most.getD s.taken.length
    (.frames (s.taken.take n),
      { w with standIns := w.standIns.insert id { s with taken := s.taken.drop n } })
  | none =>
    let (frames, board) := takeFrames w.board id (most.getD (Limit.outboundFrames + 1))
    (.frames frames, { w with board })

/-- The writer of a connection is sent away. -/
def dismissWriter (w : World) (id : ConnectionId) : World :=
  match w.standIns.get? id with
  | some s =>
    let (s, board) := s.dismiss w.board
    { w with board, standIns := w.standIns.insert id s }
  | none => { w with board := w.board.abandon id }

/-- The current connections by their names, in the order of their users. -/
def named (w : World) : List (UserId × String) :=
  (w.board.snapshot.map fun (user, id) => (user, (w.nameOf? id).getD "")).mergeSort
    fun a b => a.1 ≤ b.1

/-- A round of the heartbeat that is waited for. -/
def awaitRound (w : World) (writeWait liveness : Nanos) : Outcome × World :=
  let (round, board) := (Round.start writeWait liveness w.board).checkAll w.now w.board
  let see (w : World) : Option Round :=
    let judged := round.judgeAll w.board
    if judged.isJudged then some judged else none
  let (judged, w) := { w with board }.awaitFor see writeWait
  let (n, board) := (judged.getD (round.judgeAll w.board)).conclude w.board
  (.count n, { w with board })

/-! ### Periodic tasks -/

/-- A task that goes by a name is told to stop, and the name is free. -/
def cancelTask (w : World) (name : String) : World :=
  match w.jobNames.get? name with
  | none => w
  | some id =>
    { w with
      jobs := w.jobs.modify id fun j => { j with task := j.task.cancel }
      jobNames := w.jobNames.erase name }

/-- A task starts under a name; one that went by it before is told to stop. -/
def startTask (w : World) (name : String) (period : Nanos) (work : Work) : World :=
  let w := w.cancelTask name
  let id := w.jobs.size
  { w with
    jobs := w.jobs.insert id (.start w.now period work)
    jobNames := w.jobNames.insert name id }

/-- The task that goes by a name. -/
def job? (w : World) (name : String) : Option (Nat × Job) :=
  (w.jobNames.get? name).bind fun id => (w.jobs.get? id).map (id, ·)

/-- How often a task has counted. -/
def ticksOf (w : World) (id : Nat) : Nat :=
  ((w.jobs.get? id).map (·.ticks)).getD 0

/-- How long a task may take to finish what it is doing. -/
def patience (j : Job) : Nanos :=
  match j.work with
  | .heartbeat => Limit.probeWrite
  | .sweep => 0
  | .count busy => busy

/-- A task is told to stop, and waited for if that is wanted. -/
def endTask (w : World) (name : String) (isAwaited : Bool) : Outcome × World :=
  match w.job? name with
  | none => (.ticks none, w)
  | some (id, j) =>
    let w := w.cancelTask name
    let see (w : World) : Option Unit :=
      match w.jobs.get? id with
      | some j => if j.task.isAlive then none else some ()
      | none => some ()
    let w := if isAwaited then (w.awaitFor see (patience j)).2 else w
    (.ticks (some (w.ticksOf id)), w)

/-! ### Clients -/

/-- The session token in an answer to a request for one. -/
def sessionTokenIn? (r : Http.Response) : Option String :=
  match r.body with
  | .json text =>
    match Json.parse (Utf8.encode text) with
    | .ok (.record members) =>
      match members.lookup "session_token" with
      | some (.text token) => some token
      | _ => none
    | _ => none
  | _ => none

/-- A token gets a name, if both are there. -/
def nameToken (w : World) (name : Option String) (token : Option String) : World :=
  match name, token with
  | some name, some token => { w with tokenNames := w.tokenNames.insert name token }
  | _, _ => w

/-- A request in whose target the names of session tokens stand for them. -/
def expandTarget (w : World) (r : Http.Request) : Http.Request :=
  match Utf8.decodeString r.target with
  | some target => { r with target := Utf8.encode (w.expandText target) }
  | none => r

/-- What comes of a request whose connection is not promoted. -/
def request (w : World) (r : Http.Request) (name : Option String) : Outcome × World :=
  let (outcome, w) := w.perform (Http.handle w.terms (w.expandTarget r))
  match outcome with
  | .respond answer => (.response answer, w.nameToken name (sessionTokenIn? answer))
  | .promote user _ => (.connected user, w)

/-- The client that goes by a name is cut off. -/
def cutClient (w : World) (name : String) : World :=
  match w.clientNames.get? name with
  | some id =>
    { w with
      sockets := w.sockets.modify id Socket.cut
      clientNames := w.clientNames.erase name }
  | none => w

/-- What comes of a request for a connection. -/
def requestConnection (w : World) (name : String) (r : Http.Request) : Outcome × World :=
  let (outcome, w) := w.perform (Http.handle w.terms (w.expandTarget r))
  match outcome with
  | .respond answer => (.response answer, w)
  | .promote user token =>
    let w := w.cutClient name
    let (serving, board) := Serving.start w.board user token w.now
    (.connected user,
      { w with
        board
        sockets := w.sockets.insert serving.id (.start serving)
        connectionNames := w.connectionNames.insert name serving.id
        clientNames := w.clientNames.insert name serving.id })

/-- The mask of every frame that a client sends. -/
def clientMask : List UInt8 := [0x37, 0xFA, 0x21, 0x3D]

/-- The bytes of what a client sends. -/
def bytesOf : ClientMove → List UInt8
  | .raw bytes => bytes
  | .frame opcode isFinal content =>
    WebSocket.Frame.write ⟨isFinal, false, opcode, content⟩ (some clientMask)

/-- Something done with the client that goes by a name. -/
def withClient (w : World) (name : String) (f : Socket → Outcome × Socket) : Outcome × World :=
  match (w.clientNames.get? name).bind fun id => (w.sockets.get? id).map (id, ·) with
  | some (id, s) =>
    let (outcome, s) := f s
    (outcome, { w with sockets := w.sockets.insert id s })
  | none => (.unknown name, w)

/-- A client is cut off, and something is done to the service's end before it has noticed. -/
def bidFarewell (w : World) (name : String) (farewell : Farewell) : Outcome × World :=
  match w.clientNames.get? name with
  | none => (.unknown name, w)
  | some id =>
    let w := w.cutClient name
    match farewell with
    | .nothing => (.nothing, w)
    | .push content => w.onBoard (w.board.push id content) .flag
    | .probe span => w.awaitProbe id span

/-! ### All of it -/

/-- What comes of a step, before everything that can be done because of it is done. -/
def perceive (w : World) : Step → Outcome × World
  | .store r => let (answer, w) := w.askStore r; (.ofStore r answer, w)
  | .chatCount => (.count w.records.chats.size, w)
  | .grant token user => (.nothing, { w with records := w.records.grant token user })
  | .authenticate token =>
    match w.authenticate token with
    | (.ok user, w) => (.user user, w)
    | (.error e, w) => (.storeError e, w)
  | .plan word times => (.nothing, { w with accidents := w.accidents.insert word times })
  | .wish user wish => w.grantWish user wish
  | .issue user life name =>
    match w.issue user life with
    | (.ok token, w) => (.token, w.nameToken name (some token))
    | (.error e, w) => (.sessionError e, w)
  | .redeem token => let (r, w) := w.redeem (w.expandText token); (.ofSession .user r, w)
  | .revoke token =>
    let (r, w) := w.revoke (w.expandText token)
    (.ofSession (fun _ => .nothing) r, w)
  | .sweepSessions =>
    let (n, ledger) := w.ledger.sweep w.now
    (.count n, { w with ledger })
  | .sessionCount => (.size w.ledger.size, w)
  | .wait span => (.nothing, w.wait span)
  | .startTask name period work => (.name (some work.name), w.startTask name period work)
  | .taskState name =>
    (.task ((w.job? name).map fun (_, j) => (j.task.isAlive, j.ticks)), w)
  | .stopTask name => w.endTask name true
  | .abandonTask name => w.endTask name false
  | .connection name user writer => (.user (some user), w.openConnection name user writer)
  | .register name => w.withConnection name fun id =>
      let (old, board) := w.board.register id
      (.name (old.bind w.nameOf?), { w with board })
  | .unregister user name => w.withConnection name fun id =>
      w.onBoard (w.board.unregister user id) .flag
  | .evict name => w.withConnection name fun id => w.onBoard (w.board.evict id) .flag
  | .close name => w.withConnection name fun id =>
      (.nothing, { w with board := w.board.close id })
  | .isEnding name => w.withConnection name fun id =>
      (.flag (((w.board.connection? id).map (·.closed)).getD true), w)
  | .touch name => w.withConnection name fun id =>
      (.nothing, { w with board := w.board.touch id w.now })
  | .idle name => w.withConnection name fun id =>
      (.count (wholeMillis (((w.board.connection? id).map (·.silence w.now)).getD 0)), w)
  | .push name content => w.withConnection name fun id => w.onBoard (w.board.push id content) .flag
  | .pushMany name beginning count => w.withConnection name fun id =>
      w.onBoard (pushAll w.board id beginning ((List.range count).map (· + 1))) .count
  | .probe name span => w.withConnection name fun id => w.awaitProbe id span
  | .drain name most => w.withConnection name fun id => w.drainConnection id most
  | .dropWriter name =>
    match w.connection? name with
    | some id => (.nothing, w.dismissWriter id)
    | none => (.nothing, w)
  | .current user => (.name ((w.board.current? user).bind w.nameOf?), w)
  | .notice user notice => w.onBoard (w.board.send user notice) .flag
  | .text user content => w.onBoard (w.board.pushText user content) .flag
  | .isOnline user => (.flag (w.board.current? user).isSome, w)
  | .clients => (.count w.board.count, w)
  | .snapshot => (.snapshot w.named, w)
  | .round writeWait liveness => w.awaitRound writeWait liveness
  | .http r name => w.request r name
  | .connect name r => w.requestConnection name r
  | .clientSend name move => w.withClient name fun s =>
      let (taken, s) := s.send (bytesOf move)
      (.flag taken, s)
  | .clientLook name => w.withClient name fun s =>
      let (all, s) := s.look
      (.seen all, s)
  | .clientCut name farewell => w.bidFarewell name farewell

/-- What comes of a step, and the world when everything is done because of it. -/
def act (w : World) (step : Step) : Outcome × World :=
  let (outcome, w) := w.perceive step
  let w := w.settle
  (outcome, { w with step := w.step + 1 })

/-- A step that does nothing. -/
def skip (w : World) : World :=
  { w with step := w.step + 1 }

/-- What comes of the steps of a rehearsal. -/
def rehearse (w : World) : List Step → List Outcome
  | [] => []
  | step :: rest =>
    let (outcome, w) := w.act step
    outcome :: w.rehearse rest

end World

end Rendezvous.Rehearsal
