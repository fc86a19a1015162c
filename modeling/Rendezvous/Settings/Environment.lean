import Rendezvous.Text.Numeral

/-!
# The environment of a program

A program is configured by variables, each a name and a text. A numeric variable that does not
hold a number in its range counts as one that is not set.
-/

namespace Rendezvous

/-- The variables that are set. -/
abbrev Environment := List (String × String)

namespace Environment

/-- The text of a variable. -/
def get? (env : Environment) (name : String) : Option String :=
  List.lookup name env

/-- The number that a variable holds, if it is one up to `bound`. -/
def number? (env : Environment) (name : String) (bound : Nat) : Option Nat :=
  (env.get? name).bind (Numeral.readUpTo bound)

end Environment

end Rendezvous
