import Rendezvous.Database.Dialogue
import Rendezvous.Digest.Sha384
import Rendezvous.Text.Hex
import Rendezvous.Text.Utf8

/-!
# The schema of the database

The tables of the database are put in place by versions, each a text of commands. The database keeps
the books: which versions it has, and by the digest of what text each came about. Bringing it up to
date means to put in place, one transaction each, the versions that it has not. This is refused when
a version was begun and not ended, when the database has a version that is not known here, and when
a version came about by another text.
-/

namespace Rendezvous.Database

/-- A version of the schema. -/
structure SchemaVersion where
  /-- Its number. -/
  number : Nat
  /-- The commands that put it in place. -/
  text : String
  deriving DecidableEq, Repr

namespace SchemaVersion

/-- The digest of the commands in hexadecimal. -/
def digest (v : SchemaVersion) : String :=
  Hex.encode (Sha384.digest (Utf8.encode v.text))

/-- How the version stands in the books. -/
def entry (v : SchemaVersion) : Applied :=
  ⟨v.number, v.digest⟩

end SchemaVersion

namespace Schema

/-- The lines of the commands of the first version: swipes, chats, messages and bearer tokens. -/
def firstLines : List String := [
  "-- Directional swipe decisions; one row per (user_id, target_id), overwritten in place.",
  "CREATE TABLE IF NOT EXISTS swipes (",
  "    id BIGSERIAL PRIMARY KEY,",
  "    user_id BIGINT NOT NULL,",
  "    target_id BIGINT NOT NULL,",
  "    action TEXT NOT NULL CHECK (action IN ('like', 'dislike')),",
  "    created_at TIMESTAMPTZ NOT NULL DEFAULT NOW(),",
  "    CONSTRAINT swipes_no_self CHECK (user_id <> target_id),",
  "    CONSTRAINT swipes_pair_unique UNIQUE (user_id, target_id)",
  ");",
  "",
  "CREATE INDEX IF NOT EXISTS swipes_target_idx ON swipes (target_id, user_id);",
  "",
  "-- One chat per unordered pair, stored canonically with user1_id < user2_id.",
  "CREATE TABLE IF NOT EXISTS chats (",
  "    id BIGSERIAL PRIMARY KEY,",
  "    user1_id BIGINT NOT NULL,",
  "    user2_id BIGINT NOT NULL,",
  "    created_at TIMESTAMPTZ NOT NULL DEFAULT NOW(),",
  "    CONSTRAINT chats_canonical_pair CHECK (user1_id < user2_id),",
  "    CONSTRAINT chats_pair_unique UNIQUE (user1_id, user2_id)",
  ");",
  "",
  "CREATE INDEX IF NOT EXISTS chats_user2_idx ON chats (user2_id);",
  "",
  "-- Append-only message log; id doubles as the pagination cursor.",
  "CREATE TABLE IF NOT EXISTS messages (",
  "    id BIGSERIAL PRIMARY KEY,",
  "    chat_id BIGINT NOT NULL REFERENCES chats (id),",
  "    sender_id BIGINT NOT NULL,",
  "    receiver_id BIGINT NOT NULL,",
  "    content TEXT NOT NULL,",
  "    kind TEXT NOT NULL DEFAULT 'text' CHECK (kind IN ('text', 'system')),",
  "    is_read BOOLEAN NOT NULL DEFAULT FALSE,",
  "    created_at TIMESTAMPTZ NOT NULL DEFAULT NOW()",
  ");",
  "",
  "CREATE INDEX IF NOT EXISTS messages_chat_id_idx ON messages (chat_id, id);",
  "CREATE INDEX IF NOT EXISTS messages_unread_idx ON messages (receiver_id," ++
    " chat_id) WHERE is_read = FALSE;",
  "",
  "-- Bearer sessions written by the auth service; read here to resolve user identity.",
  "CREATE TABLE IF NOT EXISTS sessions (",
  "    id BIGSERIAL PRIMARY KEY,",
  "    user_id BIGINT NOT NULL,",
  "    device_id TEXT NOT NULL,",
  "    access_token TEXT NOT NULL UNIQUE,",
  "    refresh_token TEXT NOT NULL UNIQUE,",
  "    access_expires TIMESTAMPTZ NOT NULL,",
  "    refresh_expires TIMESTAMPTZ NOT NULL,",
  "    CONSTRAINT sessions_user_device_unique UNIQUE (user_id, device_id)",
  ");"]

/-- The first version. -/
def first : SchemaVersion :=
  ⟨20250601000000, String.join (firstLines.map (· ++ "\n"))⟩

/-- The versions that are known, in their order. -/
def versions : List SchemaVersion :=
  [first]

/-- A version that the database has is known here. -/
def isKnown (a : Applied) : Bool :=
  versions.any fun v => v.number == a.version

/-- The books can be gone on with. -/
def isSound (h : History) : Bool :=
  h.unfinished.isNone && h.applied.all isKnown

/-- The digest under which the database has a version. -/
def digestOf? (h : History) (v : SchemaVersion) : Option String :=
  (h.applied.find? fun a => a.version == v.number).map (·.digest)

/-- Puts a version in place. -/
def install (v : SchemaVersion) : Exchange Unit :=
  Exchange.transaction do
    Exchange.command v.text
    ExceptT.mk do
      if ← Dialogue.send (.record v.entry) then pure (.ok ()) else pure (.error .schema)

/-- Puts a version in place unless the database has it. -/
def bring (h : History) (v : SchemaVersion) : Exchange Unit :=
  match digestOf? h v with
  | some digest => if digest = v.digest then pure () else throw .schema
  | none => install v

/-- Puts every version of a list in place that the database has not. -/
def bringAll (h : History) : List SchemaVersion → Exchange Unit
  | [] => pure ()
  | v :: rest => do
    bring h v
    bringAll h rest

/-- Every failure of an exchange is one of the schema. -/
def asSchema {α : Type} (e : Exchange α) : Exchange α :=
  tryCatch e fun _ => throw .schema

/-- Brings the database up to date. -/
def bringUpToDate : Exchange Unit :=
  asSchema do
    let h ← ExceptT.lift (Dialogue.send .history)
    if isSound h then bringAll h versions else throw .schema

end Schema

end Rendezvous.Database
