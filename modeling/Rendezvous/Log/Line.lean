import Rendezvous.Text.Numeral
import Rendezvous.Text.Quoted

/-!
# Log lines

A log line has a level, names the part of the program that it is about, says what happened, and
adds fields. A text in a field is quoted, a number is not, so that a reader can tell the one from
the other.
-/

namespace Rendezvous.Log

/-- How grave a line is. -/
inductive Level where
  /-- Something failed. -/
  | error
  /-- Something is not as it should be. -/
  | warn
  /-- Something of interest happened. -/
  | info
  /-- Something of interest to those who look for a fault. -/
  | debug
  /-- Anything else. -/
  | trace
  deriving DecidableEq, Repr

namespace Level

/-- The place of a level among the others, the gravest first. -/
def rank : Level → Nat
  | .error => 1
  | .warn => 2
  | .info => 3
  | .debug => 4
  | .trace => 5

/-- The word for a level. -/
def word : Level → String
  | .error => "ERROR"
  | .warn => "WARN"
  | .info => "INFO"
  | .debug => "DEBUG"
  | .trace => "TRACE"

end Level

/-- What a field of a line holds. -/
inductive FieldValue where
  /-- A text. -/
  | text (s : String)
  /-- A number. -/
  | number (n : Int)
  deriving DecidableEq, Repr

/-- The text of what a field holds. -/
def FieldValue.render : FieldValue → String
  | .text s => Quoted.encode s
  | .number n => Numeral.printInt n

/-- A log line. -/
structure Line where
  /-- How grave it is. -/
  level : Level
  /-- The part of the program that it is about. -/
  target : String
  /-- What happened. -/
  message : String
  /-- What else is known, by name. -/
  fields : List (String × FieldValue)
  deriving DecidableEq, Repr

/-- The text of a line. -/
def Line.render (l : Line) : String :=
  l.level.word ++ " " ++ l.target ++ ": " ++ l.message ++
    String.join (l.fields.map fun (name, value) => " " ++ name ++ "=" ++ value.render)

end Rendezvous.Log
