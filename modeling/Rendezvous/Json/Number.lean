import Rendezvous.Json.Scan
import Rendezvous.Text.Numeral

/-!
# Numbers in JSON

Only the integers of 64 bits mean something to this program; every other number is read for its
form alone. A number with a fraction, with an exponent or out of range is no such integer, and
neither is a zero with a minus sign. A number whose size no double can hold is no JSON here.

The size is judged as doubles judge it: the digits that fit a word of 64 bits are kept, rounded to
53 bits, and multiplied by the double nearest to the power of ten that the rest amounts to; the
number is too large when the product rounds past the greatest double.
-/

namespace Rendezvous.Json

/-- An ASCII digit. -/
def isDigit (b : UInt8) : Bool :=
  0x30 ≤ b && b ≤ 0x39

/-- The value of an ASCII digit. -/
def digitValue (b : UInt8) : Nat :=
  b.toNat - 0x30

/-- The number that a run of digits names, reading on from `n`. -/
def digitsValue (n : Nat) : Bytes → Nat
  | [] => n
  | b :: r => digitsValue (10 * n + digitValue b) r

/-! ### The size of a number -/

/-- A natural number rounded to 53 significant bits, ties to the even neighbour. -/
def round53 (n : Nat) : Nat :=
  let extra := Nat.log2 n + 1 - 53
  let unit := Nat.pow 2 extra
  let q := n / unit
  let r := n % unit
  if 2 * r > unit || (2 * r == unit && q % 2 == 1) then (q + 1) * unit else q * unit

/-- Whether `significand · 10^power` is too large for a double. Powers past 308 have no double. -/
def exceedsDouble (significand : Nat) (power : Int) : Bool :=
  match power with
  | .ofNat p =>
    if p > 308 then significand != 0
    else round53 significand * round53 (Nat.pow 10 p) ≥ Nat.pow 2 1024 - Nat.pow 2 970
  | .negSucc _ => false

/-- Digits taken into a word of 64 bits while they fit, with the number of digits left over. -/
def significand (n : Nat) : Bytes → Nat × Nat
  | [] => (n, 0)
  | b :: r =>
    let m := 10 * n + digitValue b
    if m < Nat.pow 2 64 then significand m r else (n, r.length + 1)

/-! ### The form of a number -/

/-- The digits before the point: one zero, or digits that begin with another one. -/
def integerDigits : Bytes → Scan Bytes
  | [] => .error .truncated
  | b :: r =>
    if b = 0x30 then
      if (r.head?.map isDigit).getD false then .error .malformed else .ok ([b], r)
    else if isDigit b then .ok (b :: r.takeWhile isDigit, r.dropWhile isDigit)
    else .error .malformed

/-- The digits after the point, at least one. -/
def fractionDigits (s : Bytes) : Scan Bytes :=
  match s.takeWhile isDigit, s.dropWhile isDigit with
  | [], [] => .error .truncated
  | [], _ => .error .malformed
  | ds, rest => .ok (ds, rest)

/-- An exponent from behind its letter. -/
def exponent (s : Bytes) : Scan Int :=
  let (negative, s) :=
    match s with
    | b :: r => if b = 0x2D then (true, r) else if b = 0x2B then (false, r) else (false, s)
    | [] => (false, [])
  match s with
  | [] => .error .truncated
  | b :: r =>
    if isDigit b then
      let n := digitsValue 0 (b :: r.takeWhile isDigit)
      .ok (if negative then -(n : Int) else n, r.dropWhile isDigit)
    else .error .malformed

/-- Refuses a number that no double can hold. -/
def bounded (size : Nat) (power : Int) (rest : Bytes) : Scan (Option Int64) :=
  if exceedsDouble size power then .error .malformed else .ok (none, rest)

/-- A number from behind its sign: the integer of 64 bits that it is, or `none` for another number.
-/
def number (negative : Bool) (s : Bytes) : Except Fault (Option Int64 × Bytes) := do
  let (whole, r) ← integerDigits s
  let (size, dropped) := significand 0 whole
  match r with
  | b :: r' =>
    if b = 0x2E then
      let (part, r'') ← fractionDigits r'
      let (size, left) := significand size part
      let power : Int := dropped - (part.length - left : Nat)
      match r'' with
      | e :: r''' =>
        if e = 0x65 || e = 0x45 then
          let (x, rest) ← exponent r'''
          bounded size (power + x) rest
        else bounded size power r''
      | [] => bounded size power []
    else if b = 0x65 || b = 0x45 then
      let (x, rest) ← exponent r'
      bounded size (dropped + x) rest
    else plain whole size dropped r
  | [] => plain whole size dropped []
where
  /-- Digits with neither a fraction nor an exponent. -/
  plain (whole : Bytes) (size dropped : Nat) (rest : Bytes) : Scan (Option Int64) :=
    if dropped > 0 then bounded size dropped rest
    else
      let n := digitsValue 0 whole
      if negative then
        if n = 0 then .ok (none, rest)
        else if n ≤ Nat.pow 2 63 then .ok (some (Int64.ofInt (-(n : Int))), rest)
        else .ok (none, rest)
      else if n < Nat.pow 2 63 then .ok (some (Int64.ofInt n), rest)
      else .ok (none, rest)

/-- The bytes after a number that nobody wants, from behind its sign. Its size does not matter, and
where a digit has to come the end of the text is no excuse. -/
def skipNumber (s : Bytes) : Except Fault Bytes :=
  match s with
  | [] => .error .malformed
  | b :: r =>
    if b = 0x30 then
      if (r.head?.map isDigit).getD false then .error .malformed else tail r
    else if isDigit b then tail (r.dropWhile isDigit)
    else .error .malformed
where
  /-- What follows the digits before the point. -/
  tail : Bytes → Except Fault Bytes
    | [] => .ok []
    | b :: r =>
      if b = 0x2E then
        if (r.head?.map isDigit).getD false then
          match r.dropWhile isDigit with
          | e :: r' => if e = 0x65 || e = 0x45 then power r' else .ok (e :: r')
          | [] => .ok []
        else .error .malformed
      else if b = 0x65 || b = 0x45 then power r
      else .ok (b :: r)
  /-- What follows the letter of an exponent. -/
  power (s : Bytes) : Except Fault Bytes :=
    let s :=
      match s with
      | b :: r => if b = 0x2B || b = 0x2D then r else s
      | [] => []
    if (s.head?.map isDigit).getD false then .ok (s.dropWhile isDigit) else .error .malformed

end Rendezvous.Json
