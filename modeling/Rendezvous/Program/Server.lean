import Rendezvous.Program.Stage
import Rendezvous.Rehearsal.Step

/-!
# The server

The server reads its settings, opens the store and the holder of session tokens, starts its periodic
tasks and listens. When it is told to stop it stops its tasks in the order in which they were
started. Whatever cannot be opened ends it before it listens.

The requests of its clients are answered one after the other as long as it listens; where no client
can reach it, none of them is.
-/

namespace Rendezvous.Program

open Rendezvous.Rehearsal (Step Surroundings World)

/-! ### Periodic tasks -/

/-- How the log names what has to do with periodic tasks. -/
def periodicTarget : String := "matchchat::utils::periodic"

/-- How the log names the server. -/
def serverTarget : String := "server"

/-- A periodic task of the server. -/
structure Background where
  /-- Its name. -/
  name : String
  /-- The task. -/
  task : Recurrence

namespace Background

/-- The reading of the clock when the server starts. The clock has run before. -/
def startTime : Nanos := ofSeconds 1

/-- The name of a task as a field. -/
def about (name : String) : String × Log.FieldValue :=
  ("task", .text name)

/-- Starts a task. -/
def start (name : String) (period : Nanos) : Run Background := do
  let millis : Nat := wholeMillis period % 18446744073709551616
  Run.note .debug periodicTarget "periodic task started" [about name, ("period_ms", .number millis)]
  pure ⟨name, .start startTime period⟩

/-- Stops a task, and says so. A task that died before is found then. -/
def stop (b : Background) : Run Unit := do
  if b.task.isAlive then
    Run.note .debug periodicTarget "periodic task stopped" [about b.name]
  else
    Run.note .error periodicTarget
      "periodic task ended abnormally: the clock ends before its first time" [about b.name]
  Run.note .info serverTarget "Background task stopped" [about b.name]

end Background

/-! ### Opening -/

/-- Opens the store: the database, if its address is given, or else the tables in the process. -/
def prepareStore (settings : Settings) : Run Unit :=
  if settings.databaseUrl.isSome then do
    Run.connect
    Run.bringUpToDate
  else
    Run.note .warn serverTarget
      "DATABASE_URL not set, using the in-memory store; nothing survives a restart" []

/-- Opens the holder of session tokens, with the task that it needs. -/
def openHolder (settings : Settings) : Run (List Background) :=
  match settings.holder with
  | .process => do
    let sweeper ← Background.start "session-sweeper" Limit.sessionSweep
    pure [sweeper]
  | .keyServer url => do
    Run.note .info serverTarget "Using Redis for session tokens" []
    if KeyServerAddress.isUsable url then pure [] else throw .keyServerAddress

/-- How the world of the server is set up. -/
def setupOf (settings : Settings) (env : Environment) : World.Setup where
  tokens := settings.accessTokens
  sessionLife := ofSeconds settings.sessionSeconds.toNat
  connectionOrigins := settings.connectionOrigins
  sharedOrigins := env.get? "ALLOWED_ORIGINS"
  usesDatabase := settings.databaseUrl.isSome
  usesKeys := settings.holder != .process

/-- Opens the world in which requests are answered. -/
def openWorld (settings : Settings) : Run World := do
  let s ← get
  match World.start? s.around (setupOf settings s.environment) with
  | some w => pure w
  | none => throw .origins

/-! ### Answering -/

/-- What is answered to a request. -/
def answerOf : Rehearsal.Outcome → Option Http.Response
  | .response r => some r
  | _ => none

/-- Answers requests one after the other. -/
def answerAll (w : World) : List Http.Request → List (Option Http.Response) × World
  | [] => ([], w)
  | r :: rest =>
    let (outcome, w) := w.act (.http r none)
    let (answers, w) := answerAll w rest
    (answerOf outcome :: answers, w)

/-- Answers the requests that arrive. -/
def listen (w : World) (requests : List Http.Request) : Run (List (Option Http.Response)) := do
  if (← get).around.hasClients then
    let (answers, w) := answerAll w requests
    modify fun s =>
      { s with around := {
          s.around with
          database := w.database.orElse fun _ => s.around.database
          keys := w.keys } }
    pure answers
  else pure (requests.map fun _ => none)

/-! ### The whole -/

/-- The server with its clients: what each request is answered, `none` where nothing is. -/
def serve (requests : List Http.Request) : Run (List (Option Http.Response)) := do
  let settings ← Run.orFail .settings (Settings.ofEnvironment (← get).environment)
  prepareStore settings
  let holders ← openHolder settings
  let heartbeat ← Background.start "heartbeat" (ofSeconds settings.heartbeatSeconds.toNat)
  let world ← openWorld settings
  Run.note .info serverTarget ("Server running on port " ++ settings.port.repr) []
  let answers ← listen world requests
  Run.note .info serverTarget "Shutdown signal received" []
  for task in holders ++ [heartbeat] do
    task.stop
  pure answers

end Rendezvous.Program
