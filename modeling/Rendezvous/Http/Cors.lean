import Rendezvous.Http.Message
import Rendezvous.Settings.Origins

/-!
# Answers to pages of other origins

Every answer tells the browser whether the page that asked may read it, and that this depends on the
origin of the page. A question about what may be asked is answered without looking at anything else.
-/

namespace Rendezvous.Http.Cors

/-- The origin that is told it may read the answer. -/
def admitted? (sharing : Sharing) (r : Request) : Option String :=
  match sharing with
  | .everyone => some Sharing.wildcard
  | .only origins =>
    match r.header? "origin" with
    | none => none
    | some value => origins.find? fun o => Utf8.encode o == value

/-- The headers that depend on the origin. -/
def originHeaders (sharing : Sharing) (r : Request) : List (String × String) :=
  ((admitted? sharing r).map fun o => ("access-control-allow-origin", o)).toList ++
    [("vary", "origin, access-control-request-method, access-control-request-headers")]

/-- A question about what may be asked. -/
def isPreflight (r : Request) : Bool :=
  r.method == "OPTIONS"

/-- The answer to a question about what may be asked. -/
def preflight (sharing : Sharing) (r : Request) : Response :=
  ⟨200, .none, originHeaders sharing r ++
    [("access-control-allow-methods", "GET,POST,DELETE,OPTIONS"),
      ("access-control-allow-headers", "*")]⟩

/-- An answer with the headers that depend on the origin. -/
def mark (sharing : Sharing) (r : Request) (answer : Response) : Response :=
  { answer with headers := answer.headers ++ originHeaders sharing r }

end Rendezvous.Http.Cors
