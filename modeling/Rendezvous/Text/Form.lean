import Rendezvous.Text.Hex
import Rendezvous.Text.Split
import Rendezvous.Text.Utf8

/-!
# Form-encoded queries

A query is a list of fields between ampersands, each a name and a value around the first equals
sign; a field without one has an empty value, and empty fields count for nothing. In names and
values a plus sign is a space, and a percent sign with two hexadecimal digits is the byte they
name; any other percent sign stands for itself. The bytes are read as UTF-8, leniently.
-/

namespace Rendezvous.Form

/-- The bytes of a percent-encoded text. An escape that is none stands for itself. -/
def percentDecode : List UInt8 → List UInt8
  | [] => []
  | [a] => [a]
  | [a, b] => [a, b]
  | a :: b :: c :: r =>
    if a = 0x25 then
      match Hex.byteValue? b, Hex.byteValue? c with
      | some h, some l => UInt8.ofNat (16 * h + l) :: percentDecode r
      | _, _ => a :: percentDecode (b :: c :: r)
    else a :: percentDecode (b :: c :: r)

/-- A name or a value of a field. -/
def decodePart (bytes : List UInt8) : String :=
  Utf8.decodeLossy (percentDecode (bytes.map fun b => if b = 0x2B then 0x20 else b))

/-- The name and the value of a field. -/
def decodeField (bytes : List UInt8) : String × String :=
  match splitFirst 0x3D bytes with
  | some (name, value) => (decodePart name, decodePart value)
  | none => (decodePart bytes, "")

/-- The fields of a query, in order. -/
def decode (query : List UInt8) : List (String × String) :=
  ((splitAll 0x26 query).filter (!·.isEmpty)).map decodeField

/-- Every value given for a name, in order. -/
def values (name : String) (fields : List (String × String)) : List String :=
  (fields.filter (·.1 == name)).map (·.2)

end Rendezvous.Form
