import Rendezvous.Table
import Rendezvous.Text.Split

/-!
# Names for what is not known beforehand

A session token is not known before it is given out, so a rehearsal refers to it by a name. In a
text, a dollar sign with a name in braces stands for what goes by that name; a name that nothing
goes by stands for itself, with all around it.
-/

namespace Rendezvous.Rehearsal

/-- What goes by which name. -/
abbrev Names := Table String String

namespace Names

/-- The end of a name in braces, and what comes behind it. -/
def cutBrace (s : List Char) : Option (List Char × List Char) :=
  splitFirst (Char.ofNat 0x7D) s

/-- The text with at most so many characters and names looked at. -/
def expandFrom (names : Names) : Nat → List Char → List Char
  | 0, s => s
  | fuel + 1, a :: b :: r =>
    if a = '$' && b.toNat = 0x7B then
      match (cutBrace r).bind fun (name, rest) =>
          (names.get? (String.ofList name)).map (·, rest) with
      | some (meant, rest) => meant.toList ++ expandFrom names fuel rest
      | none => a :: expandFrom names fuel (b :: r)
    else a :: expandFrom names fuel (b :: r)
  | _ + 1, s => s

/-- A text with what goes by the names in it. -/
def expand (names : Names) (s : String) : String :=
  String.ofList (expandFrom names (s.length + 1) s.toList)

end Names

end Rendezvous.Rehearsal
