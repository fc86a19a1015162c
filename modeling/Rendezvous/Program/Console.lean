import Rendezvous.Http.Message
import Rendezvous.Text.Blank

/-!
# Requests by hand

Where no network is at hand the server is used from a console: a request is a line of words between
blanks, its method, its target, the bearer token of the client or a hyphen, and what is left of the
line as a JSON body. An answer is a line as well, its status and its body.
-/

namespace Rendezvous.Program

open Rendezvous.Http (Request Response)

/-- The first word of a line, and what comes behind the blanks after it. -/
def cutWord (s : List Char) : List Char × List Char :=
  let s := s.dropWhile isBlank
  (s.takeWhile (!isBlank ·), (s.dropWhile (!isBlank ·)).dropWhile isBlank)

/-- The header with a bearer token; none for a hyphen and for no word. -/
def bearerHeader (word : List Char) : List (String × List UInt8) :=
  if word.isEmpty || word == ['-'] then []
  else [("authorization", Utf8.encode "Bearer " ++ Utf8.encodeChars word)]

/-- The request of a line. -/
def requestOfLine (line : String) : Request :=
  let (method, s) := cutWord line.toList
  let (target, s) := cutWord s
  let (bearer, body) := cutWord s
  ⟨String.ofList method, Utf8.encodeChars target,
    bearerHeader bearer ++ [("content-type", Utf8.encode "application/json")],
    Utf8.encodeChars (trimChars body), false⟩

/-- The line of an answer. -/
def lineOfAnswer (answer : Option Response) : String :=
  match answer with
  | none => "no answer"
  | some r =>
    r.status.repr ++ match r.body with
      | .json text => " " ++ text
      | .plain text => " " ++ text
      | _ => ""

end Rendezvous.Program
