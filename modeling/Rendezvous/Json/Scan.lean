import Rendezvous.Text.Hex
import Rendezvous.Text.Utf8

/-!
# Scanning JSON

The reader of JSON works on bytes, from left to right. Every scanner takes the bytes in front of it
and gives what it read with the bytes after it, or the cause why it stopped. There are three
causes: the text is no JSON, it ends too early, or it is JSON of another shape than was asked for.
Which of them is found first is part of what a caller sees, so a scanner never looks further ahead
than its own value.
-/

namespace Rendezvous.Json

/-- Why a text is not read. -/
inductive Fault where
  /-- The text is no JSON. -/
  | malformed
  /-- The text ends before its value does. -/
  | truncated
  /-- The text is JSON, of another shape than was asked for. -/
  | mismatched
  deriving DecidableEq, Repr

/-- A text as its bytes. -/
abbrev Bytes := List UInt8

/-- What a scanner gives: a value and the bytes after it, or a fault. -/
abbrev Scan (α : Type) := Except Fault (α × Bytes)

/-! ### Space between the parts -/

/-- Space, tab, line feed and carriage return may stand between the parts of a text. -/
def isSpace (b : UInt8) : Bool :=
  b == 0x20 || b == 0x09 || b == 0x0A || b == 0x0D

/-- The bytes from the first one that is no space. -/
def skipSpace (s : Bytes) : Bytes :=
  s.dropWhile isSpace

/-- A text is over: only space is left. -/
def finish {α : Type} (scan : Scan α) : Except Fault α :=
  match scan with
  | .error f => .error f
  | .ok (a, rest) => if (skipSpace rest).isEmpty then .ok a else .error .malformed

/-- The bytes after a word that has to come next. -/
def word : Bytes → Bytes → Except Fault Bytes
  | [], s => .ok s
  | _ :: _, [] => .error .truncated
  | e :: es, b :: r => if b = e then word es r else .error .malformed

/-- What follows the first letter of `null`. -/
def afterN : Bytes := [0x75, 0x6C, 0x6C]

/-- What follows the first letter of `true`. -/
def afterT : Bytes := [0x72, 0x75, 0x65]

/-- What follows the first letter of `false`. -/
def afterF : Bytes := [0x61, 0x6C, 0x73, 0x65]

/-! ### Strings -/

/-- The byte that a one-letter escape stands for. -/
def escapeByte? (e : UInt8) : Option UInt8 :=
  if e = 0x22 || e = 0x5C || e = 0x2F then some e
  else if e = 0x62 then some 0x08
  else if e = 0x66 then some 0x0C
  else if e = 0x6E then some 0x0A
  else if e = 0x72 then some 0x0D
  else if e = 0x74 then some 0x09
  else none

/-- The number that four hexadecimal digits name. -/
def hexUnit? (a b c d : UInt8) : Option Nat :=
  match Hex.byteValue? a, Hex.byteValue? b, Hex.byteValue? c, Hex.byteValue? d with
  | some a, some b, some c, some d => some (((a * 16 + b) * 16 + c) * 16 + d)
  | _, _, _, _ => none

/-- The first half of a surrogate pair. -/
def isHighSurrogate (n : Nat) : Bool :=
  0xD800 ≤ n && n ≤ 0xDBFF

/-- The second half of a surrogate pair. -/
def isLowSurrogate (n : Nat) : Bool :=
  0xDC00 ≤ n && n ≤ 0xDFFF

/-- The bytes of the character that a code point names. -/
def unitBytes (n : Nat) : Bytes :=
  String.utf8EncodeChar (Char.ofNat n)

/-- Bytes in front of what a scanner has read. -/
def prepend (bytes : Bytes) (scan : Scan Bytes) : Scan Bytes :=
  match scan with
  | .ok (more, rest) => .ok (bytes ++ more, rest)
  | .error f => .error f

/-- The bytes of a string, its escapes resolved, from behind the opening quote to the closing one.
Fewer than four bytes after `\u` are an early end whatever they are; a surrogate has to have its
other half right behind it. -/
def stringBytes : Bytes → Scan Bytes
  | [] => .error .truncated
  | b :: r =>
    if b = 0x22 then .ok ([], r)
    else if b = 0x5C then
      match r with
      | [] => .error .truncated
      | e :: r =>
        match escapeByte? e with
        | some c => prepend [c] (stringBytes r)
        | none =>
          if e = 0x75 then
            match r with
            | h1 :: h2 :: h3 :: h4 :: r =>
              match hexUnit? h1 h2 h3 h4 with
              | none => .error .malformed
              | some n =>
                if isLowSurrogate n then .error .malformed
                else if isHighSurrogate n then
                  match r with
                  | [] => .error .truncated
                  | [s] => if s = 0x5C then .error .truncated else .error .malformed
                  | s :: u :: r =>
                    if s = 0x5C ∧ u = 0x75 then
                      match r with
                      | l1 :: l2 :: l3 :: l4 :: r =>
                        match hexUnit? l1 l2 l3 l4 with
                        | none => .error .malformed
                        | some m =>
                          if isLowSurrogate m then
                            prepend (unitBytes (0x10000 + (n - 0xD800) * 0x400 + (m - 0xDC00)))
                              (stringBytes r)
                          else .error .malformed
                      | _ => .error .truncated
                    else .error .malformed
                else prepend (unitBytes n) (stringBytes r)
            | _ => .error .truncated
          else .error .malformed
    else if b < 0x20 then .error .malformed
    else prepend [b] (stringBytes r)

/-- A string from behind its opening quote. That its bytes are UTF-8 is looked at once they are
all read. -/
def string (s : Bytes) : Scan String :=
  match stringBytes s with
  | .error f => .error f
  | .ok (bytes, rest) =>
    match Utf8.decodeString bytes with
    | some text => .ok (text, rest)
    | none => .error .malformed

/-- The bytes after a string that nobody wants: its escapes have to be well formed, but halves of
surrogate pairs and bytes that are no UTF-8 pass. -/
def skipString : Bytes → Except Fault Bytes
  | [] => .error .truncated
  | b :: r =>
    if b = 0x22 then .ok r
    else if b = 0x5C then
      match r with
      | [] => .error .truncated
      | e :: r =>
        if (escapeByte? e).isSome then skipString r
        else if e = 0x75 then
          match r with
          | h1 :: h2 :: h3 :: h4 :: r =>
            if (hexUnit? h1 h2 h3 h4).isSome then skipString r else .error .malformed
          | _ => .error .truncated
        else .error .malformed
    else if b < 0x20 then .error .malformed
    else skipString r

end Rendezvous.Json
