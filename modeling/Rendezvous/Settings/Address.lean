import Rendezvous.Text.Lowercase
import Rendezvous.Text.Url

/-!
# Usable addresses

The key server and the database are named by addresses. An address is judged before anything is
sent: one that cannot be used is refused whether or not somebody answers at it.

A key server is reached over the network, at a host and with the number of a keyspace as the path,
or over a socket in the file system, with the number in the query. A database is reached at any
address whose parts can be read, whatever its scheme says.
-/

namespace Rendezvous

/-! ### Key servers -/

namespace KeyServerAddress

/-- The words for the versions of the protocol. -/
def protocols : List String :=
  ["2", "resp2", "3", "resp3"]

/-- The version of the protocol that the query asks for is known, if it asks for one. -/
def speaks (u : Url) : Bool :=
  match u.field? "protocol" with
  | some word => protocols.contains word
  | none => true

/-- The number of a keyspace. -/
def isKeyspace (s : List Char) : Bool :=
  (Numeral.readInt64 (String.ofList s)).isSome

/-- The address of a key server in the network. -/
def isNetwork (u : Url) : Bool :=
  u.host.isSome && (u.barePath.isEmpty || isKeyspace u.barePath) && Url.isText u.user &&
    Url.isText u.password && speaks u

/-- The address of a key server in the file system. -/
def isLocal (u : Url) : Bool :=
  (u.host.isNone || u.host == some "localhost".toList) && u.path.head? == some '/' &&
    (match u.field? "db" with
      | some n => isKeyspace n.toList
      | none => true) && speaks u

/-- The address can be used. -/
def isUsable (address : String) : Bool :=
  match Url.read? address with
  | none => false
  | some u =>
    if u.scheme = "redis" then isNetwork u
    else if u.scheme = "unix" ∨ u.scheme = "redis+unix" then isLocal u
    else false

end KeyServerAddress

/-! ### Databases -/

namespace DatabaseAddress

/-- The words for how much the connection is secured. -/
def securities : List String :=
  ["disable", "allow", "prefer", "require", "verify-ca", "verify-full"]

/-- An address of one of the internet protocols. -/
def isInternet (s : List Char) : Bool :=
  Host.isVersion4 s || Host.isVersion6 s

/-- A field of the query says something that can be used. -/
def isUsableField (field : String × String) : Bool :=
  let (name, value) := field
  if name = "sslmode" ∨ name = "ssl-mode" then securities.contains (Lowercase.lower value)
  else if name = "statement-cache-capacity" then
    (Numeral.readUpTo 18446744073709551615 value).isSome
  else if name = "port" then (Numeral.readUpTo 65535 value).isSome
  else if name = "hostaddr" then isInternet value.toList
  else true

/-- The address can be used. -/
def isUsable (address : String) : Bool :=
  match Url.read? address with
  | none => false
  | some u =>
    Url.isText (u.host.getD []) && Url.isText u.user && Url.isText u.password &&
      Url.isText u.path && u.query.all isUsableField

end DatabaseAddress

end Rendezvous
