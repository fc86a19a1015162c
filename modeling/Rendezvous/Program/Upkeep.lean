import Rendezvous.Program.Arguments
import Rendezvous.Program.Stage

/-!
# Upkeep of the database

Two small programs look after the database. One brings its schema up to date. The other forgets the
decisions of a user; unless that is confirmed it only says how many there are.
-/

namespace Rendezvous.Program

/-- Brings the schema up to date. -/
def migrate : Run Unit := do
  Run.connect
  Run.note .info "migrate" "Running database migrations..." []
  Run.bringUpToDate
  Run.note .info "migrate" "Migrations completed successfully" []

/-- Counts the decisions of a user, and forgets them if that is confirmed. -/
def forget (user : UserId) (isConfirmed : Bool) : Run Unit := do
  let about : List (String × Log.FieldValue) := [("user_id", .number user.toInt)]
  Run.connect
  Run.note .info "reset_swipes" "Connected to database" []
  let found ← Run.converse
    (Database.Exchange.first Database.firstInteger (Database.countSwipes user))
  Run.note .info "reset_swipes"
    ("User has " ++ Numeral.printInt found.toInt ++ " swipe decisions") about
  if isConfirmed then
    let removed ← Run.converse (Database.ask (.forgetSwipes user))
    Run.note .info "reset_swipes" ("Removed " ++ removed.repr ++ " swipe decisions") about
  else
    Run.note .warn "reset_swipes" "Deletion not confirmed. Use --confirm to remove them." []

/-- Does what the arguments tell. -/
def forgetDecisions (arguments : List String) : Run Unit :=
  match ResetOrder.ofArguments arguments with
  | .help => pure ()
  | .unusable => throw .usage
  | .reset user isConfirmed => forget user isConfirmed

end Rendezvous.Program
