/-!
# UTF-8

Text as bytes. The reader is a machine that takes one byte at a time: between two characters it
stands at rest, inside one it knows how many bytes are owed, between which bounds the next one
must lie, and the value read so far. A byte outside the bounds rules the text out, so overlong
forms, surrogates and values past U+10FFFF are refused at the first byte that betrays them.

The strict reader (`Utf8.decode`) refuses such a text; the lenient one (`Utf8.decodeLossy`) writes
U+FFFD for each longest run that could have begun a character.
-/

namespace Rendezvous.Utf8

/-- The inside of a character of several bytes. -/
structure Partial where
  /-- How many bytes are still to come. -/
  owed : Nat
  /-- The least value of the next byte. -/
  low : Nat
  /-- The greatest value of the next byte. -/
  high : Nat
  /-- The bits read so far. -/
  value : Nat
  deriving DecidableEq, Repr

/-- What one byte leads to. -/
inductive Reading where
  /-- A character is complete. -/
  | whole (c : Char)
  /-- A character is under way. -/
  | begun (p : Partial)
  /-- No text goes on so. -/
  | refused
  deriving DecidableEq, Repr

/-- The first byte of a character. -/
def first (b : UInt8) : Reading :=
  let n := b.toNat
  if n ≤ 0x7F then .whole (Char.ofNat n)
  else if n < 0xC2 then .refused
  else if n ≤ 0xDF then .begun ⟨1, 0x80, 0xBF, n % 32⟩
  else if n = 0xE0 then .begun ⟨2, 0xA0, 0xBF, 0⟩
  else if n = 0xED then .begun ⟨2, 0x80, 0x9F, 13⟩
  else if n ≤ 0xEF then .begun ⟨2, 0x80, 0xBF, n % 16⟩
  else if n = 0xF0 then .begun ⟨3, 0x90, 0xBF, 0⟩
  else if n ≤ 0xF3 then .begun ⟨3, 0x80, 0xBF, n % 8⟩
  else if n = 0xF4 then .begun ⟨3, 0x80, 0x8F, 4⟩
  else .refused

/-- A further byte of a character. -/
def Partial.push (p : Partial) (b : UInt8) : Reading :=
  let n := b.toNat
  if p.low ≤ n ∧ n ≤ p.high then
    let value := 64 * p.value + n % 64
    if p.owed ≤ 1 then .whole (Char.ofNat value) else .begun ⟨p.owed - 1, 0x80, 0xBF, value⟩
  else .refused

/-- One byte, from rest or from inside a character. -/
def step : Option Partial → UInt8 → Reading
  | none, b => first b
  | some p, b => p.push b

/-- The characters of a text that goes on from `state`; `none` where it is no UTF-8 or ends inside
a character. -/
def decodeFrom (state : Option Partial) : List UInt8 → Option (List Char)
  | [] => if state.isNone then some [] else none
  | b :: r =>
    match step state b with
    | .whole c => (decodeFrom none r).map (c :: ·)
    | .begun p => decodeFrom (some p) r
    | .refused => none

/-- The characters of a text in UTF-8; `none` when it is not. -/
def decode (bytes : List UInt8) : Option (List Char) :=
  decodeFrom none bytes

/-- The text of bytes in UTF-8. -/
def decodeString (bytes : List UInt8) : Option String :=
  (decode bytes).map String.ofList

/-- Where the machine stands after some bytes; `none` once a byte was refused. -/
def advance (state : Option Partial) : List UInt8 → Option (Option Partial)
  | [] => some state
  | b :: r =>
    match step state b with
    | .whole _ => advance none r
    | .begun p => advance (some p) r
    | .refused => none

/-- The character that stands for bytes that are no text. -/
def replacement : Char :=
  Char.ofNat 0xFFFD

/-- The characters of a text that goes on from `state`, with U+FFFD for each run of bytes that
begins a character and does not end it, and for each byte that begins none. -/
def decodeLossyFrom (state : Option Partial) : List UInt8 → List Char
  | [] => if state.isNone then [] else [replacement]
  | b :: r =>
    match step state b with
    | .whole c => c :: decodeLossyFrom none r
    | .begun p => decodeLossyFrom (some p) r
    | .refused =>
      if state.isNone then replacement :: decodeLossyFrom none r
      else
        replacement ::
          match first b with
          | .whole c => c :: decodeLossyFrom none r
          | .begun p => decodeLossyFrom (some p) r
          | .refused => replacement :: decodeLossyFrom none r

/-- The text of bytes of which some may be no UTF-8. -/
def decodeLossy (bytes : List UInt8) : String :=
  String.ofList (decodeLossyFrom none bytes)

/-- The bytes of characters in UTF-8. -/
def encodeChars (cs : List Char) : List UInt8 :=
  cs.flatMap String.utf8EncodeChar

/-- The bytes of a text in UTF-8. -/
def encode (s : String) : List UInt8 :=
  encodeChars s.toList

@[simp] theorem encodeChars_nil : encodeChars [] = [] := rfl

@[simp] theorem encodeChars_cons (c : Char) (cs : List Char) :
    encodeChars (c :: cs) = String.utf8EncodeChar c ++ encodeChars cs := rfl

@[simp] theorem encodeChars_append (cs ds : List Char) :
    encodeChars (cs ++ ds) = encodeChars cs ++ encodeChars ds := by
  simp [encodeChars]

end Rendezvous.Utf8
