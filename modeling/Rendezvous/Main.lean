import Rendezvous.Program.Console
import Rendezvous.Program.Server
import Rendezvous.Program.Upkeep

/-!
# The command line

The first argument names the program: `server`, `migrate` or `reset-swipes`. The settings come from
the environment. The server takes its requests from standard input and stops when that ends; no
database and no key server are at hand. Log lines go to standard output, and what is said of a
failure to standard error.
-/

open Rendezvous

namespace Rendezvous.CommandLine

/-- The variables that programs are configured by. -/
def settingNames : List String :=
  ["DATABASE_URL", "DB_MAX_CONNECTIONS", "PORT", "SESSION_BACKEND", "REDIS_URL",
    "SESSION_TOKEN_TTL_SECS", "HEARTBEAT_INTERVAL_SECS", "WS_ALLOWED_ORIGINS", "ALLOWED_ORIGINS",
    "DEV_ACCESS_TOKENS", "RUST_LOG"]

/-- The variables that are set. -/
def environment : IO Environment := do
  let found ← settingNames.mapM fun name => do
    return (← IO.getEnv name).map (name, ·)
  return found.filterMap id

/-- All lines of a stream. -/
partial def lines (input : IO.FS.Stream) : IO (List String) := do
  let line ← input.getLine
  if line.isEmpty then return []
  return line :: (← lines input)

/-- Tells how a program has ended. -/
def tell (ending : Program.Ending) : IO UInt32 := do
  for line in ending.log do
    IO.println line.render
  match ending.failure.bind (·.message?) with
  | some text => IO.eprintln text
  | none => pure ()
  return ending.status

/-- What there is around a program that runs by hand. -/
def around : Rehearsal.Surroundings :=
  { Rehearsal.Surroundings.none with hasClients := true }

/-- How the programs are called. -/
def usage : String :=
  "usage: server | migrate | reset-swipes --user <id> [--confirm]"

/-- Runs the program that the arguments name. -/
def run : List String → IO UInt32
  | "server" :: _ => do
    let requests := (← lines (← IO.getStdin)).map Program.requestOfLine
    let (answers, ending) := (Program.serve requests).play around (← environment)
    for answer in answers.getD [] do
      IO.println (Program.lineOfAnswer answer)
    tell ending
  | "migrate" :: _ => do
    tell (Program.migrate.play around (← environment)).2
  | "reset-swipes" :: arguments => do
    tell ((Program.forgetDecisions arguments).play around (← environment)).2
  | _ => do
    IO.eprintln usage
    return 2

end Rendezvous.CommandLine

/-- The program. -/
def main (arguments : List String) : IO UInt32 :=
  CommandLine.run arguments
