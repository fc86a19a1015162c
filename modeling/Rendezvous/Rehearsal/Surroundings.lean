import Rendezvous.Rehearsal.Database
import Rendezvous.Rehearsal.Keys
import Rendezvous.Settings.Environment

/-!
# What is around the service

The service is not alone: a database and a key server may keep for it what it needs to keep, and
clients come to it over the network. A rehearsal says which of them are there. Where nothing is,
whatever needs the database or the key server fails when it turns to them, and no request arrives.
-/

namespace Rendezvous.Rehearsal

/-- What is around the service. -/
structure Surroundings where
  /-- The database, if it can be reached. -/
  database : Option ScriptedDatabase
  /-- The key server, if it can be reached. -/
  keys : Option RehearsedKeys
  /-- Clients can reach the service. -/
  hasClients : Bool

/-- Nothing is around the service. -/
def Surroundings.none : Surroundings :=
  ⟨Option.none, Option.none, false⟩

/-- What the addresses of the two servers of a rehearsal are called. -/
def Surroundings.addresses : Names :=
  (Table.empty.insert "pg" "postgres://service@localhost/service").insert "redis"
    "redis://localhost/"

/-- An environment with the addresses of the two servers in it. -/
def Surroundings.locate (env : Environment) : Environment :=
  env.map fun (name, value) => (name, addresses.expand value)

end Rendezvous.Rehearsal
