import Rendezvous.Text.Blank
import Rendezvous.Text.Numeral
import Rendezvous.Time.Calendar

/-!
# Points in time

A point in time is a second counted from 1970 in universal time and a part of that second in
nanoseconds. A leap second has no count of its own: it is the second before it with a part of one
second or more.

Points in time are written after RFC 3339 in universal time, with as many digits of the fraction as
the point needs out of 0, 3, 6 and 9. They are read in a wider form: the parts of date and time may
have blanks in front and fewer digits, the year may have a sign and any length, the date and the
time may be parted by a space, the offset may be `UTC` or have a real minus sign, and digits of the
fraction past the ninth do not count.
-/

namespace Rendezvous

/-- A point in time. -/
structure Timestamp where
  /-- The second, counted from the beginning of 1970 in universal time. -/
  second : Int
  /-- The part of the second in nanoseconds, one second or more in a leap second. -/
  nano : Nat
  deriving DecidableEq, Repr

namespace Timestamp

/-- The earlier of two points in time comes first. -/
def before (a b : Timestamp) : Bool :=
  a.second < b.second || (a.second == b.second && a.nano < b.nano)

/-- A second has so many nanoseconds. -/
def nanosPerSecond : Nat := 1000000000

/-- A day has so many seconds. -/
def secondsPerDay : Int := 86400

/-! ### Writing -/

/-- A year: four digits, or a sign and at least four digits outside of 0 to 9999. -/
def writeYear (year : Int) : String :=
  if 0 ≤ year ∧ year ≤ 9999 then Numeral.padded 4 year.toNat
  else (if year < 0 then "-" else "+") ++ Numeral.padded 4 year.natAbs

/-- The fraction of a second by the shortest of 0, 3, 6 and 9 digits that is exact. -/
def writeFraction (nano : Nat) : String :=
  if nano = 0 then ""
  else if nano % 1000000 = 0 then "." ++ Numeral.padded 3 (nano / 1000000)
  else if nano % 1000 = 0 then "." ++ Numeral.padded 6 (nano / 1000)
  else "." ++ Numeral.padded 9 nano

/-- A point in time in universal time. -/
def write (t : Timestamp) : String :=
  let date := CivilDate.ofDays (t.second / secondsPerDay)
  let ofDay := (t.second % secondsPerDay).toNat
  let leap := t.nano / nanosPerSecond
  writeYear date.year ++ "-" ++ Numeral.padded 2 date.month ++ "-" ++ Numeral.padded 2 date.day ++
    "T" ++ Numeral.padded 2 (ofDay / 3600) ++ ":" ++ Numeral.padded 2 (ofDay / 60 % 60) ++ ":" ++
    Numeral.padded 2 (ofDay % 60 + leap) ++ writeFraction (t.nano % nanosPerSecond) ++ "Z"

/-! ### Reading -/

/-- A text as its characters. -/
abbrev Chars := List Char

/-- The characters from the first one that is not blank. -/
def skipBlanks (s : Chars) : Chars :=
  s.dropWhile isBlank

/-- The digits in front, at least one and at most `most`. -/
def digits (most : Nat) (s : Chars) : Option (Nat × Chars) :=
  let ds := (s.takeWhile Numeral.isDigit).take most
  if ds.isEmpty then none else some (Numeral.valueFrom 0 ds, s.drop ds.length)

/-- A part of two digits or one, blanks in front passed over. -/
def part (s : Chars) : Option (Nat × Chars) :=
  digits 2 (skipBlanks s)

/-- A character that has to come next, blanks in front passed over. -/
def mark (c : Char) (s : Chars) : Option Chars :=
  match skipBlanks s with
  | d :: r => if d = c then some r else none
  | [] => none

/-- The year: four digits or fewer, or a sign and any number of digits. -/
def readYear (s : Chars) : Option (Int × Chars) :=
  match skipBlanks s with
  | '-' :: r => (digits r.length r).map fun (n, rest) => (-(n : Int), rest)
  | '+' :: r => (digits r.length r).map fun (n, rest) => ((n : Int), rest)
  | s => (digits 4 s).map fun (n, rest) => ((n : Int), rest)

/-- The years that can be dated. -/
def isDatable (year : Int) : Bool :=
  -262143 ≤ year && year ≤ 262142

/-- The date in front. -/
def readDate (s : Chars) : Option (CivilDate × Chars) := do
  let (year, s) ← readYear s
  let s ← mark '-' s
  let (month, s) ← part s
  let s ← mark '-' s
  let (day, s) ← part s
  let date : CivilDate := ⟨year, month, day⟩
  if isDatable year && date.isValid then some (date, s) else none

/-- The nanoseconds of a fraction, if one comes next. -/
def readFraction : Chars → Option (Nat × Chars)
  | '.' :: s => do
    let (n, rest) ← digits 9 s
    let count := s.length - rest.length
    some (n * Nat.pow 10 (9 - count), rest.dropWhile Numeral.isDigit)
  | s => some (0, s)

/-- The second of the day and its nanoseconds. The sixtieth second of any minute is a leap second.
-/
def readTime (s : Chars) : Option ((Nat × Nat) × Chars) := do
  let (hour, s) ← part s
  let s ← mark ':' s
  let (minute, s) ← part s
  let s ← mark ':' s
  let (second, s) ← part s
  let (nano, s) ← readFraction s
  if hour < 24 && minute < 60 && second ≤ 60 then
    if second = 60 then some ((hour * 3600 + minute * 60 + 59, nanosPerSecond + nano), s)
    else some ((hour * 3600 + minute * 60 + second, nano), s)
  else none

/-- Two digits that have to come right here. -/
def twoDigits : Chars → Option (Nat × Chars)
  | a :: b :: r =>
    if Numeral.isDigit a && Numeral.isDigit b then
      some (10 * Numeral.digitValue a + Numeral.digitValue b, r)
    else none
  | _ => none

/-- The hours and minutes of an offset, in seconds. Colons and blanks may part them. -/
def offsetAmount (s : Chars) : Option (Nat × Chars) := do
  let (hours, s) ← twoDigits s
  let s := s.dropWhile fun c => c = ':' || isBlank c
  let (minutes, s) ← twoDigits s
  if minutes < 60 && hours < 24 then some (hours * 3600 + minutes * 60, s) else none

/-- The offset from universal time, in seconds. -/
def readOffset (s : Chars) : Option (Int × Chars) :=
  match s with
  | c :: r =>
    if isUtc s then some (0, s.drop 3)
    else if c = 'Z' || c = 'z' then some (0, r)
    else if c = '+' then (offsetAmount r).map fun (n, rest) => ((n : Int), rest)
    else if c = '-' || c.toNat = 0x2212 then
      (offsetAmount r).map fun (n, rest) => (-(n : Int), rest)
    else none
  | [] => none
where
  /-- The letters UTC in any case. -/
  isUtc (s : Chars) : Bool :=
    match s with
    | u :: t :: c :: _ =>
      (u = 'U' || u = 'u') && (t = 'T' || t = 't') && (c = 'C' || c = 'c')
    | _ => false

/-- The letter or the space between date and time. -/
def readBetween : Chars → Option Chars
  | c :: r => if c = 'T' || c = 't' || c = ' ' then some r else none
  | [] => none

/-- The point in time that a text names. -/
def read (s : String) : Option Timestamp := do
  let (date, s) ← readDate s.toList
  let s ← readBetween s
  let ((ofDay, nano), s) ← readTime s
  let (offset, s) ← readOffset (skipBlanks s)
  let second := date.toDays * secondsPerDay + ofDay - offset
  if (skipBlanks s).isEmpty && isDatable (CivilDate.ofDays (second / secondsPerDay)).year then
    some ⟨second, nano⟩
  else none

end Timestamp

end Rendezvous
