import Rendezvous.Json.Number

/-!
# Passing over a value

The value of a field that nobody asked for is scanned and thrown away. It has to be well formed,
but it may be nested to any depth, hold numbers of any size and strings that are no text. The
scanner keeps the brackets that are open on a stack and takes one turn for each bracket, comma,
key or simple value.
-/

namespace Rendezvous.Json

/-- An open bracket: a list or a record. -/
inductive Bracket where
  /-- An open square bracket. -/
  | list
  /-- An open brace. -/
  | record
  deriving DecidableEq, Repr

/-- The byte that closes a bracket. -/
def Bracket.closing : Bracket → UInt8
  | .list => 0x5D
  | .record => 0x7D

/-- What has to come next. -/
inductive Turn where
  /-- A value. -/
  | value
  /-- The first member of the innermost bracket, or its end. -/
  | opened
  /-- A comma or the end of the innermost bracket. -/
  | after
  /-- The key of a member, and its colon. -/
  | key
  deriving DecidableEq, Repr

/-- A key and its colon, thrown away. -/
def skipKey (s : Bytes) : Except Fault Bytes :=
  match skipSpace s with
  | [] => .error .truncated
  | b :: r =>
    if b = 0x22 then
      match skipString r with
      | .error f => .error f
      | .ok r =>
        match skipSpace r with
        | [] => .error .truncated
        | c :: r => if c = 0x3A then .ok r else .error .malformed
    else .error .malformed

/-- What a member of a bracket begins with. -/
def Bracket.memberTurn : Bracket → Turn
  | .list => .value
  | .record => .key

/-- The bytes after a value, given the open brackets around the present place. Every second turn
takes a byte, so `fuel` of twice the length of the text is enough. -/
def skipFrom (fuel : Nat) (stack : List Bracket) (turn : Turn) (s : Bytes) : Except Fault Bytes :=
  match fuel with
  | 0 => .error .truncated
  | fuel + 1 =>
    match turn with
    | .value =>
      match skipSpace s with
      | [] => .error .truncated
      | b :: r =>
        if b = 0x6E then andThen fuel stack (word afterN r)
        else if b = 0x74 then andThen fuel stack (word afterT r)
        else if b = 0x66 then andThen fuel stack (word afterF r)
        else if b = 0x2D then andThen fuel stack (skipNumber r)
        else if isDigit b then andThen fuel stack (skipNumber (b :: r))
        else if b = 0x22 then andThen fuel stack (skipString r)
        else if b = 0x5B then skipFrom fuel (.list :: stack) .opened r
        else if b = 0x7B then skipFrom fuel (.record :: stack) .opened r
        else .error .malformed
    | .opened =>
      match stack, skipSpace s with
      | [], _ => .ok s
      | _ :: _, [] => .error .truncated
      | top :: below, b :: r =>
        if b = top.closing then skipFrom fuel below .after r
        else skipFrom fuel (top :: below) top.memberTurn (b :: r)
    | .after =>
      match stack with
      | [] => .ok s
      | top :: below =>
        match skipSpace s with
        | [] => .error .truncated
        | b :: r =>
          if b = 0x2C then skipFrom fuel (top :: below) top.memberTurn r
          else if b = top.closing then skipFrom fuel below .after r
          else .error .malformed
    | .key =>
      match skipKey s with
      | .error f => .error f
      | .ok r => skipFrom fuel stack .value r
where
  /-- Goes on behind a simple value. -/
  andThen (fuel : Nat) (stack : List Bracket) : Except Fault Bytes → Except Fault Bytes
    | .error f => .error f
    | .ok r => skipFrom fuel stack .after r

/-- The bytes after the value in front. -/
def skipValue (s : Bytes) : Except Fault Bytes :=
  skipFrom (2 * s.length + 2) [] .value s

end Rendezvous.Json
