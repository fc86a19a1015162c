import Rendezvous.Failure
import Rendezvous.Text.Blank
import Rendezvous.Text.Form
import Rendezvous.Text.Lowercase

/-!
# Requests and answers

A request has a method, a target, headers and a body. The target is a path and, behind a question
mark, a query; a number sign ends it. The names of headers have no case, and where a header may come
once only, the first one counts. The value of a header is bytes; it is read as text only if all of
them are visible ASCII, spaces and tabs.
-/

namespace Rendezvous.Http

/-- A request. -/
structure Request where
  /-- What is to be done. -/
  method : String
  /-- The path, the query behind it, and more. -/
  target : List UInt8
  /-- The names and values of the headers. -/
  headers : List (String × List UInt8)
  /-- The body. -/
  body : List UInt8
  /-- The connection that carries the request can be taken over. -/
  canUpgrade : Bool
  deriving DecidableEq, Repr

/-- The body of an answer. -/
inductive Body where
  /-- None. -/
  | none
  /-- A JSON text. -/
  | json (text : String)
  /-- A JSON text that is not sent, since only the head of the answer was asked for. -/
  | headOfJson
  /-- A plain text. -/
  | plain (text : String)
  deriving DecidableEq, Repr

/-- An answer. -/
structure Response where
  /-- The status. -/
  status : Nat
  /-- The body. -/
  body : Body
  /-- The names and values of the headers beside those that the body needs. -/
  headers : List (String × String)
  deriving DecidableEq, Repr

namespace Request

/-- A name of a header without its case. -/
def lowerName (name : String) : String :=
  String.ofList (name.toList.map Char.toLower)

/-- The first value of a header. -/
def header? (r : Request) (name : String) : Option (List UInt8) :=
  (r.headers.find? fun h => lowerName h.1 == name).map (·.2)

/-- Visible ASCII, a space or a tab. -/
def isVisible (b : UInt8) : Bool :=
  (0x20 ≤ b && b < 0x7F) || b == 0x09

/-- The value of a header as a text. -/
def visible? (value : List UInt8) : Option String :=
  if value.all isVisible then some (String.ofList (value.map fun b => Char.ofNat b.toNat)) else none

/-- The first value of a header as a text. -/
def text? (r : Request) (name : String) : Option String :=
  (r.header? name).bind visible?

/-- The target up to a number sign. -/
def place (r : Request) : List UInt8 :=
  r.target.takeWhile (· != 0x23)

/-- The path. -/
def path (r : Request) : List UInt8 :=
  r.place.takeWhile (· != 0x3F)

/-- The query, empty if there is none. -/
def query (r : Request) : List UInt8 :=
  (r.place.dropWhile (· != 0x3F)).drop 1

/-- The first value of a header with its ASCII letters in lower case. -/
def lowered (r : Request) (name : String) : Option (List UInt8) :=
  (r.header? name).map (·.map Lowercase.asciiByte)

end Request

namespace Response

/-- An answer in JSON. -/
def json (status : Nat) (text : String) : Response :=
  ⟨status, .json text, []⟩

/-- An answer in plain text. -/
def plain (status : Nat) (text : String) : Response :=
  ⟨status, .plain text, []⟩

/-- An answer without a body. -/
def empty (status : Nat) : Response :=
  ⟨status, .none, []⟩

/-- The answer to a request that is refused. -/
def ofRefusal (r : Refusal) : Response :=
  json r.status r.body

/-- The answer without its body. -/
def headOnly (r : Response) : Response :=
  { r with body := match r.body with
    | .json _ => .headOfJson
    | .headOfJson => .headOfJson
    | _ => .none }

/-- The kind of the body as a header tells it. -/
def contentType? (r : Response) : Option String :=
  match r.body with
  | .json _ => some "application/json"
  | .headOfJson => some "application/json"
  | .plain _ => some "text/plain; charset=utf-8"
  | .none => none

/-- The first value of a header. -/
def header? (r : Response) (name : String) : Option String :=
  if name = "content-type" then r.contentType? else r.headers.lookup name

end Response

end Rendezvous.Http
