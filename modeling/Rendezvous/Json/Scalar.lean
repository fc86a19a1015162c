import Rendezvous.Json.Value

/-!
# Reading what was asked for

Readers for the kinds of values that records hold. Each names the fault when something else stands
there: a well-formed beginning of another kind of value is a mismatch, and a text that begins no
value is malformed. Of a list or a record only the bracket is looked at.
-/

namespace Rendezvous.Json

/-- The fault of a value that is not of the kind asked for, from its first byte. -/
def wrongKind : Bytes → Fault
  | [] => .truncated
  | b :: r =>
    if b = 0x6E then ofWord (word afterN r)
    else if b = 0x74 then ofWord (word afterT r)
    else if b = 0x66 then ofWord (word afterF r)
    else if b = 0x2D then ofScan (number true r)
    else if isDigit b then ofScan (number false (b :: r))
    else if b = 0x22 then ofScan (string r)
    else if b = 0x5B || b = 0x7B then .mismatched
    else .malformed
where
  /-- The fault of a word. -/
  ofWord : Except Fault Bytes → Fault
    | .error f => f
    | .ok _ => .mismatched
  /-- The fault of a scan. -/
  ofScan {α : Type} : Scan α → Fault
    | .error f => f
    | .ok _ => .mismatched

/-- An integer of 64 bits. -/
def readInteger (s : Bytes) : Scan Int64 :=
  match skipSpace s with
  | [] => .error .truncated
  | b :: r =>
    if b = 0x2D then asInteger (number true r)
    else if isDigit b then asInteger (number false (b :: r))
    else .error (wrongKind (b :: r))
where
  /-- Refuses every other number. -/
  asInteger : Scan (Option Int64) → Scan Int64
    | .error f => .error f
    | .ok (some n, rest) => .ok (n, rest)
    | .ok (none, _) => .error .mismatched

/-- A string. -/
def readText (s : Bytes) : Scan String :=
  match skipSpace s with
  | [] => .error .truncated
  | b :: r => if b = 0x22 then string r else .error (wrongKind (b :: r))

/-- A truth value. -/
def readFlag (s : Bytes) : Scan Bool :=
  match skipSpace s with
  | [] => .error .truncated
  | b :: r =>
    if b = 0x74 then (word afterT r).map (true, ·)
    else if b = 0x66 then (word afterF r).map (false, ·)
    else .error (wrongKind (b :: r))

/-- The absent value. -/
def readNull (s : Bytes) : Scan Unit :=
  match skipSpace s with
  | [] => .error .truncated
  | b :: r => if b = 0x6E then (word afterN r).map ((), ·) else .error (wrongKind (b :: r))

/-- A value that may be absent. -/
def readOption {α : Type} (read : Bytes → Scan α) (s : Bytes) : Scan (Option α) :=
  match skipSpace s with
  | b :: r =>
    if b = 0x6E then (word afterN r).map (none, ·)
    else (read (b :: r)).map fun (a, rest) => (some a, rest)
  | [] => (read []).map fun (a, rest) => (some a, rest)

/-- The items of a list up to its end. -/
def readItems {α : Type} (read : Bytes → Scan α) (fuel : Nat) (first : Bool) (s : Bytes) :
    Except Fault (List α × Bytes) :=
  match fuel with
  | 0 => .error .truncated
  | fuel + 1 => do
    match ← nextItem first s with
    | .close rest => .ok ([], rest)
    | .member s =>
      let (a, rest) ← read s
      let (as, rest) ← readItems read fuel false rest
      .ok (a :: as, rest)

/-- A list. -/
def readList {α : Type} (read : Bytes → Scan α) (s : Bytes) : Except Fault (List α × Bytes) :=
  match skipSpace s with
  | [] => .error .truncated
  | b :: r =>
    if b = 0x5B then do
      let (as, rest) ← readItems read (turns r) true r
      let rest ← endList rest
      .ok (as, rest)
    else .error (wrongKind (b :: r))

/-- One of a few words: the word as a string, or as the only key of a record whose value is absent.
-/
def readChoice {α : Type} (choices : List (String × α)) (s : Bytes) : Except Fault (α × Bytes) :=
  match skipSpace s with
  | [] => .error .truncated
  | b :: r =>
    if b = 0x22 then choose (string r)
    else if b = 0x7B then do
      let (a, rest) ← choose (readText r)
      let rest ← colon rest
      let (_, rest) ← readNull rest
      let rest ← endRecord rest
      .ok (a, rest)
    else .error .malformed
where
  /-- The choice that a word names. -/
  choose : Scan String → Scan α
    | .error f => .error f
    | .ok (name, rest) =>
      match choices.lookup name with
      | some a => .ok (a, rest)
      | none => .error .mismatched

end Rendezvous.Json
