import Rendezvous.Json.Number

/-!
# JSON values

A tagged record is read whole before its fields are interpreted, because its tag may come last.
What it holds until then are values of JSON. Reading one checks everything: the numbers have to
fit a double, the strings have to be text, and brackets may be nested 127 deep, the record itself
counted.
-/

namespace Rendezvous.Json

/-- A value of JSON, of whose numbers only the integers of 64 bits are told apart. -/
inductive Value where
  /-- The absent value. -/
  | null
  /-- A truth value. -/
  | bool (b : Bool)
  /-- A number: an integer of 64 bits, or any other. -/
  | number (n : Option Int64)
  /-- A string. -/
  | text (s : String)
  /-- An ordered list. -/
  | list (items : List Value)
  /-- Named members in the order in which they are written. -/
  | record (members : List (String × Value))

/-- How deep brackets may be nested. -/
def nestingLimit : Nat := 127

/-- The key of a member, read from where the quote has to come. -/
def key (s : Bytes) : Scan String :=
  match s with
  | [] => .error .truncated
  | b :: r => if b = 0x22 then string r else .error .malformed

/-- The bytes after the colon that has to come next. -/
def colon (s : Bytes) : Except Fault Bytes :=
  match skipSpace s with
  | [] => .error .truncated
  | b :: r => if b = 0x3A then .ok r else .error .malformed

/-- Whether a bracket goes on. -/
inductive Next where
  /-- A member begins at these bytes. -/
  | member (s : Bytes)
  /-- The bracket closes here; the closing byte is still in front. -/
  | close (s : Bytes)

/-- Looks for the next item of a list. `first` says that none was read yet. -/
def nextItem (first : Bool) (s : Bytes) : Except Fault Next :=
  match skipSpace s with
  | [] => .error .truncated
  | b :: r =>
    if b = 0x5D then .ok (.close (b :: r))
    else if first then .ok (.member (b :: r))
    else if b = 0x2C then
      match skipSpace r with
      | [] => .error .truncated
      | c :: r => if c = 0x5D then .error .malformed else .ok (.member (c :: r))
    else .error .malformed

/-- Looks for the key of the next member of a record. `first` says that none was read yet. -/
def nextKey (first : Bool) (s : Bytes) : Except Fault Next :=
  match skipSpace s with
  | [] => .error .truncated
  | b :: r =>
    if b = 0x7D then .ok (.close (b :: r))
    else if first then
      if b = 0x22 then .ok (.member (b :: r)) else .error .malformed
    else if b = 0x2C then
      match skipSpace r with
      | [] => .error .truncated
      | c :: r => if c = 0x22 then .ok (.member (c :: r)) else .error .malformed
    else .error .malformed

/-- The bytes behind the end of a list, which has to come next. -/
def endList (s : Bytes) : Except Fault Bytes :=
  match skipSpace s with
  | [] => .error .truncated
  | b :: r => if b = 0x5D then .ok r else .error .malformed

/-- The bytes behind the end of a record, which has to come next. -/
def endRecord (s : Bytes) : Except Fault Bytes :=
  match skipSpace s with
  | [] => .error .truncated
  | b :: r => if b = 0x7D then .ok r else .error .malformed

mutual

/-- The value in front, inside brackets that leave `depth` levels. -/
def valueFrom (fuel depth : Nat) (s : Bytes) : Except Fault (Value × Bytes) :=
  match fuel with
  | 0 => .error .truncated
  | fuel + 1 =>
    match skipSpace s with
    | [] => .error .truncated
    | b :: r =>
      if b = 0x6E then (word afterN r).map (.null, ·)
      else if b = 0x74 then (word afterT r).map (.bool true, ·)
      else if b = 0x66 then (word afterF r).map (.bool false, ·)
      else if b = 0x2D then (number true r).map fun (n, rest) => (.number n, rest)
      else if isDigit b then (number false (b :: r)).map fun (n, rest) => (.number n, rest)
      else if b = 0x22 then (string r).map fun (t, rest) => (.text t, rest)
      else if b = 0x5B then
        match depth with
        | 0 => .error .malformed
        | depth + 1 => do
          let (items, rest) ← itemsFrom fuel depth true r
          let rest ← endList rest
          .ok (.list items, rest)
      else if b = 0x7B then
        match depth with
        | 0 => .error .malformed
        | depth + 1 => do
          let (members, rest) ← membersFrom fuel depth true r
          let rest ← endRecord rest
          .ok (.record members, rest)
      else .error .malformed

/-- The items of a list up to its end. -/
def itemsFrom (fuel depth : Nat) (first : Bool) (s : Bytes) :
    Except Fault (List Value × Bytes) :=
  match fuel with
  | 0 => .error .truncated
  | fuel + 1 => do
    match ← nextItem first s with
    | .close rest => .ok ([], rest)
    | .member s =>
      let (v, rest) ← valueFrom fuel depth s
      let (vs, rest) ← itemsFrom fuel depth false rest
      .ok (v :: vs, rest)

/-- The members of a record up to its end. -/
def membersFrom (fuel depth : Nat) (first : Bool) (s : Bytes) :
    Except Fault (List (String × Value) × Bytes) :=
  match fuel with
  | 0 => .error .truncated
  | fuel + 1 => do
    match ← nextKey first s with
    | .close rest => .ok ([], rest)
    | .member s =>
      let (name, rest) ← key s
      let rest ← colon rest
      let (v, rest) ← valueFrom fuel depth rest
      let (vs, rest) ← membersFrom fuel depth false rest
      .ok ((name, v) :: vs, rest)

end

/-- Turns enough for any text of this length. -/
def turns (s : Bytes) : Nat :=
  2 * s.length + 2

/-- The value in front, with `depth` levels of brackets left to it. -/
def value (depth : Nat) (s : Bytes) : Scan Value :=
  valueFrom (turns s) depth s

/-- The value that a whole text writes. -/
def parse (s : Bytes) : Except Fault Value :=
  finish (value nestingLimit s)

end Rendezvous.Json
