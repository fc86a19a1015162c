import Rendezvous.Rehearsal.Names
import Rendezvous.Session.KeyServer
import Rendezvous.Session.Token

/-!
# A rehearsal with a key server

The holder of session tokens that asks a key server is rehearsed on its own: tokens are given out,
used and revoked, and beside that something is written to the server directly, or it is told to fail
for a while. The server of a rehearsal drops nothing by itself, for no time passes there. It notes
every command.

The server may also be out of reach. Then no command arrives anywhere, and everything that the
holder of tokens is asked fails.
-/

namespace Rendezvous.Rehearsal

/-- A key server that fails when it is told to. -/
structure RehearsedKeys where
  /-- What it keeps. -/
  server : KeyServer
  /-- How many of the next commands fail. -/
  failing : Nat
  /-- The commands that arrived, in order. -/
  heard : List KeyCommand

namespace RehearsedKeys

/-- A server that keeps nothing. -/
def blank : RehearsedKeys :=
  ⟨.empty, 0, []⟩

/-- The answer to a command. -/
def answer (s : RehearsedKeys) (c : KeyCommand) : KeyReply × RehearsedKeys :=
  let s := { s with heard := s.heard ++ [c] }
  match s.failing with
  | n + 1 => (.failed "refused", { s with failing := n })
  | 0 =>
    let (reply, server) := s.server.execute 0 c
    (reply, { s with server })

/-- The answer to a command, where the server may be out of reach. -/
def tell (s : Option RehearsedKeys) (c : KeyCommand) : KeyReply × Option RehearsedKeys :=
  match s with
  | some s =>
    let (reply, s) := s.answer c
    (reply, some s)
  | none => (.failed "out of reach", none)

/-- A text is written to the server directly. -/
def put (s : RehearsedKeys) (key value : String) : RehearsedKeys :=
  { s with server := ⟨s.server.entries.insert key ⟨value, none⟩⟩ }

end RehearsedKeys

/-- A step of a rehearsal with a key server. -/
inductive KeyStep where
  /-- A token is given out and gets a name. -/
  | issue (user : UserId) (life : Nanos) (name : Option String)
  /-- A token is used. -/
  | redeem (token : String)
  /-- A token is revoked. -/
  | revoke (token : String)
  /-- A text is written to the server directly. -/
  | put (key value : String)
  /-- So many commands are going to fail. -/
  | fail (times : Nat)

/-- What comes of such a step. -/
inductive KeyOutcome where
  /-- A token, by its name. -/
  | token (name : Option String)
  /-- A user, or nobody. -/
  | user (id : Option UserId)
  /-- Nothing to say. -/
  | nothing
  /-- The holder of tokens failed. -/
  | failed (e : HolderError)
  deriving DecidableEq, Repr

/-- A rehearsal with a key server. -/
structure KeyRehearsal where
  /-- The server, if it can be reached. -/
  keys : Option RehearsedKeys
  /-- How many tokens were made. -/
  minted : Nat
  /-- What tokens are called. -/
  names : Names

namespace KeyRehearsal

/-- A rehearsal that begins. -/
def start (keys : Option RehearsedKeys) : KeyRehearsal :=
  ⟨keys, 0, .empty⟩

/-- A command is sent. -/
def tell (r : KeyRehearsal) (c : KeyCommand) : KeyReply × KeyRehearsal :=
  let (reply, keys) := RehearsedKeys.tell r.keys c
  (reply, { r with keys })

/-- What comes of a step. -/
def act (r : KeyRehearsal) : KeyStep → KeyOutcome × KeyRehearsal
  | .issue user life name =>
    let token := Token.replayed r.minted
    let (reply, r) := { r with minted := r.minted + 1 }.tell (KeySession.issue token user life)
    match KeySession.issued token reply, name with
    | .ok token, some name => (.token (some name), { r with names := r.names.insert name token })
    | .ok _, none => (.token none, r)
    | .error e, _ => (.failed e, r)
  | .redeem token =>
    let (reply, r) := r.tell (KeySession.redeem (r.names.expand token))
    match KeySession.redeemed reply with
    | .ok user => (.user user, r)
    | .error e => (.failed e, r)
  | .revoke token =>
    let (reply, r) := r.tell (KeySession.revoke (r.names.expand token))
    match KeySession.revoked reply with
    | .ok _ => (.nothing, r)
    | .error e => (.failed e, r)
  | .put key value => (.nothing, { r with keys := r.keys.map (·.put key value) })
  | .fail times => (.nothing, { r with keys := r.keys.map fun s => { s with failing := times } })

/-- The commands that arrived so far. -/
def heard (r : KeyRehearsal) : List KeyCommand :=
  match r.keys with
  | some s => s.heard
  | none => []

/-- How a token is shown that was given out: by its name if it has one. -/
def shownToken (r : KeyRehearsal) (token : String) : String :=
  match r.names.entries.find? fun e => e.2 == token with
  | some (name, _) => "$\x7b" ++ name ++ "\x7d"
  | none => "<token>"

/-- How a word of a command is shown: the key of a token that was given out by what the token is
shown as, every other word as it is. -/
def shownWord (r : KeyRehearsal) (word : String) : String :=
  match ((List.range r.minted).map Token.replayed).find? fun token =>
      KeySession.key token == word with
  | some token => KeySession.key (r.shownToken token)
  | none => word

/-- What comes of the steps, each with the words of the commands that arrived in it. -/
def rehearse (r : KeyRehearsal) : List KeyStep → List (KeyOutcome × List (List String))
  | [] => []
  | step :: rest =>
    let before := r.heard.length
    let (outcome, r) := r.act step
    let commands := (r.heard.drop before).map fun c => c.words.map r.shownWord
    (outcome, commands) :: r.rehearse rest

end KeyRehearsal

end Rendezvous.Rehearsal
