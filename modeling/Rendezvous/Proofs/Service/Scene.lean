import Rendezvous.Channel.Serving
import Rendezvous.Proofs.Service.Requests
import Rendezvous.Proofs.Store.Annals
import Rendezvous.Session.Ledger

/-!
# The whole service at work

Requests come in and are answered, connections are opened and end, clients send their signals,
writers empty the queues, the heartbeat and the sweeper do their rounds, and time goes by: all of it
at once, and in any order. This module is about all the ways in which that can go, where the service
keeps its records and its session tokens itself.

## Scenes

A *scene* is what there is at one moment. The *house* is what everybody shares: the tables with
their past, the ledger of the session tokens, the switchboard, and the clock. A *visit* is something
that is to be done by calls, because of a request or because a reader has something to pass on, with
its past and with what is left of it. A *channel* is a connection that is served.

## Moves

A *move* is the smallest thing that can happen (`Service.Move`). A call is answered as a whole, with
one exception: a push first looks for the connection of its user, and puts its text into the queue
of this connection in a move of its own, when the user may have another connection already. What a
reply depends on beside the house is the *luck* of the move: what the clocks say, whether the store
or the ledger fails, and whom the authenticator names, about whom nothing is known here at all. The
writers and the heartbeat take part by what they do to the switchboard (`Service.Chore`), which they
may do at any time and in any order.

A *course* is any sequence of moves, and `Service.Course.scene` is what it has led to after so many
of them. A move that cannot be made changes nothing. All that a move can do is said once, by
`Service.Scene.Effect`.
-/

namespace Rendezvous.Service

/-! ### The house -/

/-- What a reply depends on beside the house. -/
structure Luck where
  /-- What time it is to the store. -/
  now : Timestamp
  /-- How far away from the moment of a turn at the ledger the clock is looked at. -/
  delay : Nanos
  /-- Why the store fails, if it does. It does nothing then. -/
  storeFailure : Option StoreError
  /-- Why the holder of the session tokens fails, if it does. -/
  holderFailure : Option HolderError
  /-- A failure has taken the token out all the same. -/
  tokenLost : Bool
  /-- What the authenticator says. -/
  bearer : Except StoreError (Option UserId)

/-- What everybody shares. -/
structure House where
  /-- What time it is. -/
  now : Nanos
  /-- The tables with their past. -/
  annals : Annals
  /-- The session tokens. -/
  ledger : Ledger
  /-- The connections. -/
  board : Switchboard

namespace House

/-- Nothing has happened yet. -/
def empty : House :=
  ⟨0, .empty, .empty, .empty⟩

/-- A session token is given out. The clock is looked at before the turn. -/
def issue (h : House) (luck : Luck) (fresh : String) (user : UserId) (life : Nanos) :
    Except HolderError String × House :=
  match luck.holderFailure with
  | some e => (.error e, h)
  | none =>
    match h.ledger.issue? (h.now - luck.delay) fresh user life with
    | some ledger => (.ok fresh, { h with ledger })
    | none => (.error (.backend "the clock ends before the token"), h)

/-- A session token is used. The clock is looked at after the turn. -/
def redeem (h : House) (luck : Luck) (token : String) :
    Except HolderError (Option UserId) × House :=
  match luck.holderFailure with
  | some e =>
    (.error e, if luck.tokenLost then { h with ledger := h.ledger.revoke token } else h)
  | none =>
    let (owner, ledger) := h.ledger.redeem (h.now + luck.delay) token
    (.ok owner, { h with ledger })

/-- A session token is revoked. -/
def revoke (h : House) (luck : Luck) (token : String) : Except HolderError Unit × House :=
  match luck.holderFailure with
  | some e =>
    (.error e, if luck.tokenLost then { h with ledger := h.ledger.revoke token } else h)
  | none => (.ok (), { h with ledger := h.ledger.revoke token })

/-- A notice into the queue of the connection that was found for it. -/
def hand (h : House) (found : Option ConnectionId) (notice : Notice) : Bool × House :=
  match found with
  | none => (false, h)
  | some id =>
    let (taken, board) := h.board.push id notice.encode
    (taken, { h with board })

/-- The reply to a call. A new session token is `fresh`, and a notice goes to the connection that
was found for it. -/
def serve (fresh : String) (luck : Luck) (found : Option ConnectionId) : Flow.Server House
  | .store q, h =>
    match luck.storeFailure with
    | some e => (.error e, h)
    | none =>
      let (reply, annals) := h.annals.answer luck.now q
      (reply, { h with annals })
  | .authenticate _, h => (luck.bearer, h)
  | .issue user life, h => h.issue luck fresh user life
  | .redeem token, h => h.redeem luck token
  | .revoke token, h => h.revoke luck token
  | .push _ notice, h => h.hand found notice
  | .connected, h => (h.board.count, h)

theorem issue_eq (h : House) (luck : Luck) (fresh : String) (user : UserId) (life : Nanos) :
    ∃ ledger, (h.issue luck fresh user life).2 = { h with ledger } := by
  unfold issue
  split
  · exact ⟨h.ledger, rfl⟩
  · split <;> exact ⟨_, rfl⟩

theorem redeem_eq (h : House) (luck : Luck) (token : String) :
    ∃ ledger, (h.redeem luck token).2 = { h with ledger } := by
  unfold redeem
  split
  · dsimp only
    split <;> exact ⟨_, rfl⟩
  · exact ⟨_, rfl⟩

theorem revoke_eq (h : House) (luck : Luck) (token : String) :
    ∃ ledger, (h.revoke luck token).2 = { h with ledger } := by
  unfold revoke
  split
  · dsimp only
    split <;> exact ⟨_, rfl⟩
  · exact ⟨_, rfl⟩

/-- **What a reply changes in the house**: at most the ledger, the tables if the store was asked, or
the queue of the connection to which something was pushed. -/
theorem serve_cases (fresh : String) (luck : Luck) (found : Option ConnectionId) (call : Call)
    (h : House) :
    (∃ ledger, (serve fresh luck found call h).2 = { h with ledger }) ∨
    (∃ q, call = .store q ∧ luck.storeFailure = none ∧ (serve fresh luck found call h).2 =
      { h with annals := (h.annals.answer luck.now q).2 }) ∨
    (∃ user notice id, call = .push user notice ∧ found = some id ∧
      (serve fresh luck found call h).2 =
        { h with board := (h.board.push id notice.encode).2 }) := by
  cases call with
  | store q =>
    unfold serve
    cases luck.storeFailure with
    | some e => exact Or.inl ⟨h.ledger, rfl⟩
    | none => exact Or.inr (Or.inl ⟨q, rfl, rfl, rfl⟩)
  | push user notice =>
    cases found with
    | none => exact Or.inl ⟨h.ledger, rfl⟩
    | some id => exact Or.inr (Or.inr ⟨user, notice, id, rfl, rfl, rfl⟩)
  | issue user life => exact Or.inl (h.issue_eq luck fresh user life)
  | redeem token => exact Or.inl (h.redeem_eq luck token)
  | revoke token => exact Or.inl (h.revoke_eq luck token)
  | authenticate token => exact Or.inl ⟨h.ledger, rfl⟩
  | connected => exact Or.inl ⟨h.ledger, rfl⟩

/-- A notice to a user whose connection is looked for and given the notice in one go. -/
theorem hand_current (h : House) (user : UserId) (notice : Notice) :
    h.hand (h.board.current? user) notice =
      ((h.board.send user notice).1, { h with board := (h.board.send user notice).2 }) := by
  unfold hand Switchboard.send Switchboard.pushText
  cases h.board.current? user <;> rfl

end House

/-! ### Visits and channels -/

/-- Why something is done. -/
inductive Cause where
  /-- Somebody has come with a request. -/
  | request (r : Http.Request)
  /-- A reader passes a notice on. -/
  | relay (receiver : UserId) (notice : Notice)

/-- What has to be done. Only a request comes to something. -/
def Cause.flow (terms : Terms) : Cause → Flow (Option Http.Outcome)
  | .request r => Http.handle terms r >>= fun outcome => .done (some outcome)
  | .relay receiver notice => .ask (.push receiver notice) fun _ => .done none

/-- Something that is done, and what is left of it. -/
structure Visit where
  /-- Why it is done. -/
  cause : Cause
  /-- The calls that were answered, the last one first. -/
  past : List Exchange
  /-- What is left to do. -/
  flow : Flow (Option Http.Outcome)
  /-- The connection that was found for the push that comes next, if it was looked for. -/
  found : Option (Option ConnectionId)
  /-- The connection that was promised is taken over. -/
  promoted : Bool

namespace Visit

/-- Something of which nothing is done yet. -/
def begun (terms : Terms) (cause : Cause) : Visit :=
  ⟨cause, [], cause.flow terms, none, false⟩

/-- Nothing is left to do. -/
def isOver (v : Visit) : Bool :=
  v.flow.result?.isSome

/-- The user to whom a visit has something to push and whose connection it has not looked for. -/
def seeks? (v : Visit) : Option UserId :=
  match v.flow, v.found with
  | .ask (.push user _) _, none => some user
  | _, _ => none

/-- The user to whom a connection is promised, and the token. -/
def promise? (v : Visit) : Option (UserId × String) :=
  match v.flow with
  | .done (some (.promote user token)) => if v.promoted then none else some (user, token)
  | _ => none

/-- A visit whose next call was answered. -/
def answered (v : Visit) (call : Call) (reply : call.Reply) (rest : Flow (Option Http.Outcome)) :
    Visit :=
  { v with past := ⟨call, reply⟩ :: v.past, flow := rest, found := none }

/-- A visit goes on. It looks for a connection, or its next call is answered. -/
def turn? (v : Visit) (fresh : String) (luck : Luck) (h : House) : Option (Visit × House) :=
  match v.seeks? with
  | some user => some ({ v with found := some (h.board.current? user) }, h)
  | none =>
    match v.flow with
    | .done _ => none
    | .ask call next =>
      let (reply, h') := h.serve fresh luck v.found.join call
      some (v.answered call reply (next reply), h')

end Visit

/-- A connection that is served. -/
structure Channel where
  /-- How far it is in its life. -/
  serving : Serving
  /-- The visit by which its reader passes a notice on, if there was one. -/
  relaying : Option Nat

/-- What writers and the heartbeat do to the switchboard. -/
inductive Chore where
  /-- The writer of a connection takes a frame. -/
  | take (id : ConnectionId)
  /-- The writer of a connection is gone. -/
  | abandon (id : ConnectionId)
  /-- A connection is to end. -/
  | close (id : ConnectionId)
  /-- It is known what has come of a ping. -/
  | settle (ticket : Nat) (written : Bool)
  /-- A connection is pinged. -/
  | probe (id : ConnectionId) (wait : Nanos)
  /-- Pings whose time is over are settled. -/
  | expire
  /-- A connection is taken out, if it is the current one of the user. -/
  | unregister (user : UserId) (id : ConnectionId)

/-- The switchboard after a chore. -/
def Chore.perform (now : Nanos) (h : Switchboard) : Chore → Switchboard
  | .take id => ((h.take? id).map (·.2)).getD h
  | .abandon id => h.abandon id
  | .close id => h.close id
  | .settle ticket written => h.settle ticket written
  | .probe id wait => (h.probe id now wait).2
  | .expire => h.expire now
  | .unregister user id => (h.unregister user id).2

/-! ### Scenes and moves -/

/-- **What there is at one moment.** -/
structure Scene where
  /-- What everybody shares. -/
  house : House
  /-- What was begun, in the order in which it was begun. -/
  visits : List Visit
  /-- The connections that were promoted, in their order. -/
  channels : List Channel

/-- What happens next. -/
inductive Move where
  /-- Somebody comes with a request. -/
  | arrive (r : Http.Request)
  /-- A visit goes on. -/
  | turn (n : Nat) (luck : Luck)
  /-- The connection that a visit was promised is taken over. -/
  | promote (n : Nat)
  /-- A connection takes the next step of its life. -/
  | live (i : Nat) (luck : Luck)
  /-- Something has come from the client of a connection. -/
  | hear (i : Nat) (m : Inbound)
  /-- The reader of a connection sees that it is to end. -/
  | leave (i : Nat)
  /-- A writer or the heartbeat is at work. -/
  | chore (chore : Chore)
  /-- Session tokens are swept out by somebody who has looked at the clock before. -/
  | sweep (delay : Nanos)
  /-- Time goes by. -/
  | wait (span : Nanos)

namespace Scene

variable (terms : Terms) (fresh : String)

/-- Nobody has come yet. -/
def empty : Scene :=
  ⟨.empty, [], []⟩

/-- Something is begun. -/
def begin (s : Scene) (cause : Cause) : Scene :=
  { s with visits := s.visits ++ [.begun terms cause] }

/-- The reader of a channel has nothing more to pass on. -/
def isFree (s : Scene) (ch : Channel) : Bool :=
  ch.relaying.all fun n => s.visits[n]?.all Visit.isOver

/-- A sign of life of a client. -/
def touch (s : Scene) (id : ConnectionId) (m : Inbound) : Scene :=
  if Reader.isActivity m then
    { s with house := { s.house with board := s.house.board.touch id s.house.now } }
  else s

/-- A connection takes the next step of its life: in the switchboard, by having its session token
revoked, or by ending with its writer. -/
def live (s : Scene) (i : Nat) (ch : Channel) (luck : Luck) : Scene :=
  match ch.serving.step? s.house.board with
  | some (serving, board) =>
    { s with house := { s.house with board }, channels := s.channels.set i { ch with serving } }
  | none =>
    if ch.serving.stage = .registered then
      { s with
        house := (s.house.revoke luck ch.serving.token).2
        channels := s.channels.set i { ch with serving := ch.serving.tokenRevoked } }
    else { s with channels := s.channels.set i { ch with serving := ch.serving.writerEnded } }

/-- The reader of a connection deals with what has come. -/
def hear (s : Scene) (i : Nat) (ch : Channel) (m : Inbound) : Scene :=
  match Reader.react ch.serving.user m with
  | .ignore => s.touch ch.serving.id m
  | .relay receiver notice =>
    let s := (s.touch ch.serving.id m).begin terms (.relay receiver notice)
    { s with channels := s.channels.set i { ch with relaying := some (s.visits.length - 1) } }
  | .exit reason =>
    let s := s.touch ch.serving.id m
    { s with channels := s.channels.set i { ch with serving := ch.serving.leave reason } }

/-- The reader of a connection sees that it is to end, if it is. -/
def leave (s : Scene) (i : Nat) (ch : Channel) : Scene :=
  if (s.house.board.connection? ch.serving.id).all (·.closed) then
    { s with channels := s.channels.set i { ch with serving := ch.serving.leave .byService } }
  else s

/-- The connection that a visit was promised is taken over. -/
def promote (s : Scene) (n : Nat) (v : Visit) (user : UserId) (token : String) : Scene :=
  let (serving, board) := Serving.start s.house.board user token s.house.now
  { house := { s.house with board }
    visits := s.visits.set n { v with promoted := true }
    channels := s.channels ++ [⟨serving, none⟩] }

/-- What is there after a move. -/
def step (s : Scene) : Move → Scene
  | .arrive r => s.begin terms (.request r)
  | .turn n luck =>
    match s.visits[n]? with
    | none => s
    | some v =>
      match v.turn? fresh luck s.house with
      | none => s
      | some (v', house) => { s with house, visits := s.visits.set n v' }
  | .promote n =>
    match s.visits[n]? with
    | none => s
    | some v =>
      match v.promise? with
      | none => s
      | some (user, token) => s.promote n v user token
  | .live i luck =>
    match s.channels[i]? with
    | none => s
    | some ch => s.live i ch luck
  | .hear i m =>
    match s.channels[i]? with
    | none => s
    | some ch => if ch.serving.isReading && s.isFree ch then s.hear terms i ch m else s
  | .leave i =>
    match s.channels[i]? with
    | none => s
    | some ch => s.leave i ch
  | .chore chore =>
    { s with house := { s.house with board := chore.perform s.house.now s.house.board } }
  | .sweep delay =>
    { s with house := { s.house with
        ledger := (s.house.ledger.sweep (s.house.now - delay)).2 } }
  | .wait span => { s with house := { s.house with now := s.house.now + span } }

end Scene

/-! ### What a move does -/

/-- **What a move does.** -/
inductive Scene.Effect (terms : Terms) (fresh : String) (s : Scene) : Move → Scene → Prop where
  /-- Nothing. -/
  | idle {m : Move} : Effect terms fresh s m s
  /-- A request is begun. -/
  | arrived {r : Http.Request} : Effect terms fresh s (.arrive r) (s.begin terms (.request r))
  /-- A connection is looked for. -/
  | sought {n : Nat} {luck : Luck} {v : Visit} {user : UserId} (hv : s.visits[n]? = some v)
      (hseeks : v.seeks? = some user) :
      Effect terms fresh s (.turn n luck)
        { s with visits := s.visits.set n { v with found := some (s.house.board.current? user) } }
  /-- A call is answered. -/
  | answered {n : Nat} {luck : Luck} {v : Visit} {call : Call}
      {next : call.Reply → Flow (Option Http.Outcome)} (hv : s.visits[n]? = some v)
      (hseeks : v.seeks? = none) (hflow : v.flow = .ask call next) :
      Effect terms fresh s (.turn n luck)
        { s with
          house := (House.serve fresh luck v.found.join call s.house).2
          visits := s.visits.set n (v.answered call
            (House.serve fresh luck v.found.join call s.house).1
            (next (House.serve fresh luck v.found.join call s.house).1)) }
  /-- A connection is taken over. -/
  | promoted {n : Nat} {v : Visit} {user : UserId} {token : String} (hv : s.visits[n]? = some v)
      (hpromise : v.promise? = some (user, token)) :
      Effect terms fresh s (.promote n) (s.promote n v user token)
  /-- A connection takes a step in the switchboard. -/
  | lived {i : Nat} {luck : Luck} {ch : Channel} {serving : Serving} {board : Switchboard}
      (hch : s.channels[i]? = some ch)
      (hstep : ch.serving.step? s.house.board = some (serving, board)) :
      Effect terms fresh s (.live i luck)
        { s with house := { s.house with board }, channels := s.channels.set i { ch with serving } }
  /-- A session token is revoked. -/
  | revoked {i : Nat} {luck : Luck} {ch : Channel} (hch : s.channels[i]? = some ch)
      (hstage : ch.serving.stage = .registered) :
      Effect terms fresh s (.live i luck)
        { s with
          house := (s.house.revoke luck ch.serving.token).2
          channels := s.channels.set i { ch with serving := ch.serving.tokenRevoked } }
  /-- A connection comes to its end. -/
  | ended {i : Nat} {luck : Luck} {ch : Channel} (hch : s.channels[i]? = some ch) :
      Effect terms fresh s (.live i luck)
        { s with channels := s.channels.set i { ch with serving := ch.serving.writerEnded } }
  /-- A reader deals with what has come. -/
  | heard {i : Nat} {m : Inbound} {ch : Channel} (hch : s.channels[i]? = some ch)
      (hreading : ch.serving.isReading = true) : Effect terms fresh s (.hear i m) (s.hear terms i ch m)
  /-- A reader sees that its connection is to end. -/
  | left {i : Nat} {ch : Channel} (hch : s.channels[i]? = some ch) :
      Effect terms fresh s (.leave i)
        { s with channels := s.channels.set i { ch with serving := ch.serving.leave .byService } }
  /-- A writer or the heartbeat is at work. -/
  | chore {chore : Chore} :
      Effect terms fresh s (.chore chore)
        { s with house := { s.house with board := chore.perform s.house.now s.house.board } }
  /-- Session tokens are swept out. -/
  | swept {delay : Nanos} :
      Effect terms fresh s (.sweep delay)
        { s with house := { s.house with
            ledger := (s.house.ledger.sweep (s.house.now - delay)).2 } }
  /-- Time goes by. -/
  | waited {span : Nanos} :
      Effect terms fresh s (.wait span)
        { s with house := { s.house with now := s.house.now + span } }

/-- **Every move has one of these effects.** -/
theorem Scene.step_effect (terms : Terms) (fresh : String) (s : Scene) (m : Move) :
    s.Effect terms fresh m (s.step terms fresh m) := by
  cases m with
  | arrive r => exact .arrived
  | turn n luck =>
    rw [step]
    cases hv : s.visits[n]? with
    | none => exact .idle
    | some v =>
      cases hseeks : v.seeks? with
      | some user => simpa only [Visit.turn?, hseeks] using .sought hv hseeks
      | none =>
        cases hflow : v.flow with
        | done result => simpa only [Visit.turn?, hseeks, hflow] using .idle
        | ask call next => simpa only [Visit.turn?, hseeks, hflow] using .answered hv hseeks hflow
  | promote n =>
    rw [step]
    cases hv : s.visits[n]? with
    | none => exact .idle
    | some v =>
      cases hpromise : v.promise? with
      | none => simpa only [hpromise] using .idle
      | some promise => simpa only [hpromise] using .promoted hv hpromise
  | live i luck =>
    rw [step]
    cases hch : s.channels[i]? with
    | none => exact .idle
    | some ch =>
      simp only [live]
      cases hstep : ch.serving.step? s.house.board with
      | some next => exact .lived hch hstep
      | none =>
        by_cases hstage : ch.serving.stage = .registered
        · simpa only [hstage, if_true] using .revoked hch hstage
        · simpa only [hstage, if_false] using .ended hch
  | hear i m =>
    rw [step]
    cases hch : s.channels[i]? with
    | none => exact .idle
    | some ch =>
      cases hready : ch.serving.isReading && s.isFree ch with
      | false => simpa only [hready] using .idle
      | true => simpa only [hready] using .heard hch (Bool.and_eq_true_iff.1 hready).1
  | leave i =>
    rw [step]
    cases hch : s.channels[i]? with
    | none => exact .idle
    | some ch =>
      simp only [leave]
      split
      · exact .left hch
      · exact .idle
  | chore chore => exact .chore
  | sweep delay => exact .swept
  | wait span => exact .waited

/-! ### Courses -/

/-- **A course of events**: one move after another, on some terms, with session tokens that somebody
has made up for it. -/
structure Course where
  /-- The terms on which requests are answered. -/
  terms : Terms
  /-- The session token that is given out in a move, if one is. -/
  mint : Nat → String
  /-- The moves. -/
  move : Nat → Move

namespace Course

/-- What a course has led to after so many moves. -/
def scene (c : Course) : Nat → Scene
  | 0 => .empty
  | k + 1 => (c.scene k).step c.terms (c.mint k) (c.move k)

@[simp] theorem scene_zero (c : Course) : c.scene 0 = .empty := rfl

theorem scene_succ (c : Course) (k : Nat) :
    c.scene (k + 1) = (c.scene k).step c.terms (c.mint k) (c.move k) := rfl

theorem effect (c : Course) (k : Nat) :
    (c.scene k).Effect c.terms (c.mint k) (c.move k) (c.scene (k + 1)) :=
  Scene.step_effect ..

end Course

end Rendezvous.Service
