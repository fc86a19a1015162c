import Rendezvous.Failure
import Rendezvous.Table
import Rendezvous.Text.Numeral

/-!
# Session tokens kept by a key server

A key server keeps texts under keys, each for some time if that is asked for. The tokens are its
keys, behind a word that sets them apart, and the numbers of their users its texts. Three commands
are all that is needed: a token is given out by setting its key for some milliseconds, it is used by
taking the text out and deleting the key in one go, and it is revoked by deleting the key.

A command is answered or fails. What an answer means for the caller is said apart from the server,
so that any server will do.
-/

namespace Rendezvous

/-- What a key server is told. -/
inductive KeyCommand where
  /-- Keep a text under a key for so many milliseconds. -/
  | set (key value : String) (millis : Nat)
  /-- Give the text under a key and delete the key. -/
  | take (key : String)
  /-- Delete a key. -/
  | delete (key : String)
  deriving DecidableEq, Repr

/-- The words of a command. -/
def KeyCommand.words : KeyCommand → List String
  | .set key value millis => ["SET", key, value, "PX", millis.repr]
  | .take key => ["GETDEL", key]
  | .delete key => ["DEL", key]

/-- What a key server answers. -/
inductive KeyReply where
  /-- It is done. -/
  | done
  /-- The text that was asked for, if there was one. -/
  | text (value : Option String)
  /-- How many keys there were. -/
  | count (n : Nat)
  /-- The command failed. -/
  | failed (reason : String)
  deriving DecidableEq, Repr

/-! ### The commands of the service -/

namespace KeySession

/-- The key of a token. -/
def key (token : String) : String :=
  "ws_session:" ++ token

/-- The milliseconds of a life: the whole ones, as far as 64 bits hold them, and at least one. -/
def millis (life : Nanos) : Nat :=
  max 1 (wholeMillis life % 18446744073709551616)

/-- Gives out a token. -/
def issue (token : String) (user : UserId) (life : Nanos) : KeyCommand :=
  .set (key token) (Numeral.printInt user.toInt) (millis life)

/-- Uses a token. -/
def redeem (token : String) : KeyCommand :=
  .take (key token)

/-- Revokes a token. -/
def revoke (token : String) : KeyCommand :=
  .delete (key token)

/-- What is said of an answer of another kind than the command has. -/
def strangeReply : HolderError :=
  .backend "unexpected reply"

/-- What comes of giving out a token. -/
def issued (token : String) : KeyReply → Except HolderError String
  | .done => .ok token
  | .failed reason => .error (.backend reason)
  | _ => .error strangeReply

/-- What comes of using a token. -/
def redeemed : KeyReply → Except HolderError (Option UserId)
  | .text none => .ok none
  | .text (some stored) =>
    match Numeral.readInt64 stored with
    | some user => .ok (some user)
    | none => .error (.notNumeric stored)
  | .failed reason => .error (.backend reason)
  | _ => .error strangeReply

/-- What comes of revoking a token. -/
def revoked : KeyReply → Except HolderError Unit
  | .count _ => .ok ()
  | .failed reason => .error (.backend reason)
  | _ => .error strangeReply

end KeySession

/-! ### A key server -/

/-- A text that is kept, and until when. -/
structure KeyEntry where
  /-- The text. -/
  value : String
  /-- When it is dropped; `none` when it is kept for good. -/
  dropAt : Option Nanos
  deriving DecidableEq, Repr

/-- What a key server keeps. -/
structure KeyServer where
  /-- The texts under their keys. -/
  entries : Table String KeyEntry

namespace KeyServer

/-- Nothing is kept. -/
def empty : KeyServer :=
  ⟨.empty⟩

/-- An entry that is still kept. -/
def isKept (now : Nanos) (e : KeyEntry) : Bool :=
  match e.dropAt with
  | some t => now < t
  | none => true

/-- What is still kept under a key. -/
def get? (s : KeyServer) (now : Nanos) (key : String) : Option String :=
  ((s.entries.get? key).filter (isKept now)).map (·.value)

/-- Does what a command says, and answers it. -/
def execute (s : KeyServer) (now : Nanos) : KeyCommand → KeyReply × KeyServer
  | .set key value millis =>
    (.done, ⟨s.entries.insert key ⟨value, some (now + ofMillis millis)⟩⟩)
  | .take key => (.text (s.get? now key), ⟨s.entries.erase key⟩)
  | .delete key => (.count (if (s.get? now key).isSome then 1 else 0), ⟨s.entries.erase key⟩)

end KeyServer

end Rendezvous
