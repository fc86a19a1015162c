import Rendezvous.Text.Numeral

/-!
# Writing JSON

Values are written compactly: no space between the parts, members in the order of their
declaration. In strings the quote and the backslash get a backslash, control characters their
letter or their number in four lower-case hexadecimal digits, and everything else stands as it is.
-/

namespace Rendezvous.Json

/-- How a character is written inside a string. -/
def escapeChar (c : Char) : List Char :=
  if c = '"' then ['\\', '"']
  else if c = '\\' then ['\\', '\\']
  else if c.toNat = 0x08 then ['\\', 'b']
  else if c.toNat = 0x09 then ['\\', 't']
  else if c.toNat = 0x0A then ['\\', 'n']
  else if c.toNat = 0x0C then ['\\', 'f']
  else if c.toNat = 0x0D then ['\\', 'r']
  else if c.toNat < 0x20 then
    ['\\', 'u', '0', '0', Nat.digitChar (c.toNat / 16), Nat.digitChar (c.toNat % 16)]
  else [c]

/-- A string in quotes. -/
def writeText (s : String) : String :=
  String.ofList ('"' :: s.toList.flatMap escapeChar ++ ['"'])

/-- An integer in decimal digits. -/
def writeInteger (n : Int64) : String :=
  Numeral.printInt n.toInt

/-- A natural number in decimal digits. -/
def writeNat (n : Nat) : String :=
  n.repr

/-- A truth value. -/
def writeFlag (b : Bool) : String :=
  if b then "true" else "false"

/-- A value that may be absent. -/
def writeOption {α : Type} (write : α → String) : Option α → String
  | some a => write a
  | none => "null"

/-- A list in square brackets. -/
def writeList {α : Type} (write : α → String) (items : List α) : String :=
  "[" ++ ",".intercalate (items.map write) ++ "]"

/-- A record in braces, each member a key and a value that is written already. -/
def writeRecord (members : List (String × String)) : String :=
  "\x7b" ++ ",".intercalate (members.map fun (name, v) => writeText name ++ ":" ++ v) ++ "\x7d"

end Rendezvous.Json
