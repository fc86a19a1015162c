import Rendezvous.Log.Filter
import Rendezvous.Rehearsal.Surroundings
import Rendezvous.Settings.Address
import Rendezvous.Settings.Service

/-!
# Where a program runs

A program is started with an environment, turns to what is around it, writes log lines and ends,
well or with a failure. Of its log lines only those are written that the filter in its environment
admits. A program that needs the database judges its address first and then connects; both may fail.
-/

namespace Rendezvous.Program

open Rendezvous.Rehearsal (Surroundings)

/-- Why a program fails. -/
inductive Failure where
  /-- Its arguments cannot be used. -/
  | usage
  /-- Its settings are refused. -/
  | settings (e : SettingsError)
  /-- The address of the database cannot be used. -/
  | databaseAddress
  /-- Nobody answers at the address of the database. -/
  | noDatabase
  /-- The store failed. -/
  | store (e : StoreError)
  /-- The address of the key server cannot be used. -/
  | keyServerAddress
  /-- The list of the origins to which answers may be shown cannot be followed. -/
  | origins
  deriving DecidableEq, Repr

namespace Failure

/-- The exit status of a program that fails. -/
def status : Failure → UInt32
  | .usage => 2
  | .origins => 101
  | _ => 1

/-- What is said of a failure; nothing where the program says it in its own way. -/
def message? : Failure → Option String
  | .usage => none
  | .settings e => some e.message
  | .databaseAddress => some "the address of the database cannot be used"
  | .noDatabase => some "the database is out of reach"
  | .store e => some e.message
  | .keyServerAddress => some "session backend unavailable"
  | .origins => none

end Failure

/-- What a program that runs has to do with. -/
structure Stage where
  /-- The variables that it was started with. -/
  environment : Environment
  /-- What is around it. -/
  around : Surroundings
  /-- The log lines that it wrote. -/
  log : List Log.Line

/-- A program that runs. -/
abbrev Run (α : Type) := ExceptT Failure (StateM Stage) α

/-- What has come of a program. -/
structure Ending where
  /-- Why it failed, if it did. -/
  failure : Option Failure
  /-- The log lines that it wrote. -/
  log : List Log.Line
  /-- What is around it, as it left it. -/
  around : Surroundings

/-- The exit status of a program. -/
def Ending.status (e : Ending) : UInt32 :=
  match e.failure with
  | some f => f.status
  | none => 0

namespace Run

variable {α : Type}

/-- Writes a log line, if the filter admits it. -/
def note (level : Log.Level) (target message : String)
    (fields : List (String × Log.FieldValue)) : Run Unit :=
  modify fun s =>
    let line : Log.Line := ⟨level, target, message, fields⟩
    if (Log.Filter.ofEnvironment s.environment).admits line then { s with log := s.log ++ [line] }
    else s

/-- What was read, or the failure of it. -/
def orFail {ε : Type} (toFailure : ε → Failure) (r : Except ε α) : Run α :=
  match r with
  | .ok a => pure a
  | .error e => throw (toFailure e)

/-- Connects to the database that the environment names. -/
def connect : Run Unit := do
  let settings ← orFail .settings (DatabaseSettings.ofEnvironment (← get).environment)
  if !DatabaseAddress.isUsable settings.url then throw .databaseAddress
  if (← get).around.database.isNone then throw .noDatabase

/-- An exchange with the database. -/
def converse (e : Database.Exchange α) : Run α := do
  match (← get).around.database with
  | none => throw .noDatabase
  | some d =>
    let (result, d) := d.converse e
    modify fun s => { s with around := { s.around with database := some d } }
    orFail .store result

/-- Brings the schema of the database up to date. -/
def bringUpToDate : Run Unit := do
  note .info "matchchat::db::migrations"
    ("Applying " ++ Database.Schema.versions.length.repr ++ " schema migrations") []
  converse Database.Schema.bringUpToDate

/-- The program from its start to its end: what it comes to, if it ends well, and its ending. -/
def play (r : Run α) (around : Surroundings) (env : Environment) : Option α × Ending :=
  match (r.run.run ⟨env, around, []⟩ : Except Failure α × Stage) with
  | (.ok a, s) => (some a, ⟨none, s.log, s.around⟩)
  | (.error f, s) => (none, ⟨some f, s.log, s.around⟩)

end Run

end Rendezvous.Program
