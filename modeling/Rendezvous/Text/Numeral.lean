/-!
# Decimal integers in text

An integer is written as an optional sign and at least one ASCII digit, and nothing else: no
blanks, no separators, no digits of other scripts. Leading zeros are allowed. What a reader
accepts is bounded by the width of the type it reads for; a numeral out of range is refused like
one that is no numeral.
-/

namespace Rendezvous.Numeral

/-- An ASCII digit. -/
def isDigit (c : Char) : Bool :=
  '0' ≤ c && c ≤ '9'

/-- The value of an ASCII digit. -/
def digitValue (c : Char) : Nat :=
  c.toNat - '0'.toNat

/-- The number that a run of digits names, reading on from `n`. -/
def valueFrom (n : Nat) : List Char → Nat
  | [] => n
  | c :: r => valueFrom (10 * n + digitValue c) r

/-- The natural number written by a nonempty run of digits. -/
def readDigits (cs : List Char) : Option Nat :=
  if cs.isEmpty || !cs.all isDigit then none else some (valueFrom 0 cs)

/-- An integer with an optional sign in front. -/
def readInt : List Char → Option Int
  | '-' :: r => (readDigits r).map fun n => -(n : Int)
  | '+' :: r => (readDigits r).map fun n => (n : Int)
  | cs => (readDigits cs).map fun n => (n : Int)

/-- A natural number with an optional plus sign in front. -/
def readNat : List Char → Option Nat
  | '+' :: r => readDigits r
  | cs => readDigits cs

/-- The least and the greatest integer of 64 bits. -/
def inInt64 (n : Int) : Bool :=
  -9223372036854775808 ≤ n && n ≤ 9223372036854775807

/-- A signed integer of 64 bits. -/
def readInt64 (s : String) : Option Int64 :=
  match readInt s.toList with
  | some n => if inInt64 n then some (Int64.ofInt n) else none
  | none => none

/-- A natural number up to `bound`. -/
def readUpTo (bound : Nat) (s : String) : Option Nat :=
  (readNat s.toList).filter (· ≤ bound)

/-- A signed integer as decimal digits. -/
def printInt (n : Int) : String :=
  match n with
  | .ofNat n => n.repr
  | .negSucc n => "-" ++ (n + 1).repr

/-- A natural number with at least `width` digits, zeros in front. -/
def padded (width n : Nat) : String :=
  let ds := Nat.toDigits 10 n
  String.ofList (List.replicate (width - ds.length) '0' ++ ds)

end Rendezvous.Numeral
