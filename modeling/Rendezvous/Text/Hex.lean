/-!
# Hexadecimal

Bytes as pairs of lower-case hexadecimal digits, high half first. Reading accepts both cases.
-/

namespace Rendezvous.Hex

/-- The digit of a half byte. -/
def digit (n : Nat) : Char :=
  Nat.digitChar (n % 16)

/-- The value of a hexadecimal digit in either case. -/
def value? (c : Char) : Option Nat :=
  if '0' ≤ c ∧ c ≤ '9' then some (c.toNat - '0'.toNat)
  else if 'a' ≤ c ∧ c ≤ 'f' then some (c.toNat - 'a'.toNat + 10)
  else if 'A' ≤ c ∧ c ≤ 'F' then some (c.toNat - 'A'.toNat + 10)
  else none

/-- The value of a byte that is a hexadecimal digit in either case. -/
def byteValue? (b : UInt8) : Option Nat :=
  value? (Char.ofNat b.toNat)

/-- Two digits for each byte. -/
def encodeChars : List UInt8 → List Char
  | [] => []
  | b :: r => digit (b.toNat / 16) :: digit b.toNat :: encodeChars r

/-- Two digits for each byte. -/
def encode (bytes : List UInt8) : String :=
  String.ofList (encodeChars bytes)

/-- The bytes that pairs of digits name; `none` at an odd length or a character that is no digit. -/
def decodeChars : List Char → Option (List UInt8)
  | [] => some []
  | [_] => none
  | a :: b :: r =>
    match value? a, value? b, decodeChars r with
    | some h, some l, some rest => some (UInt8.ofNat (16 * h + l) :: rest)
    | _, _, _ => none

/-- The bytes that pairs of digits name. -/
def decode (s : String) : Option (List UInt8) :=
  decodeChars s.toList

end Rendezvous.Hex
