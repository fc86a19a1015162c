import Rendezvous.Json.Scalar

/-!
# Records that carry a tag

A record of several kinds names its kind in the field `type`. The tag may stand anywhere in the
object, or first in the list form, so everything else is read as plain values first and interpreted
once the tag is known. A tag that is no string, a second tag, or a tag that names no kind is a
mismatch as soon as it comes.
-/

namespace Rendezvous.Json

/-- What a tagged record holds beside its tag. -/
inductive Payload where
  /-- The members of the object form without the tag. -/
  | record (members : List (String × Value))
  /-- The items of the list form behind the tag. -/
  | list (items : List Value)

/-- The key of the tag. -/
def tagKey : String := "type"

/-- The tag in front, which has to be an accepted one. -/
def readTag (accept : String → Bool) (s : Bytes) : Scan String :=
  match readText s with
  | .error f => .error f
  | .ok (tag, rest) => if accept tag then .ok (tag, rest) else .error .mismatched

/-- The members of the object form; `tag` is the one read so far. -/
def taggedMembers (accept : String → Bool) (fuel : Nat) (first : Bool) (tag : Option String)
    (s : Bytes) : Except Fault ((Option String × List (String × Value)) × Bytes) :=
  match fuel with
  | 0 => .error .truncated
  | fuel + 1 => do
    match ← nextKey first s with
    | .close rest => .ok ((tag, []), rest)
    | .member s =>
      let (name, rest) ← key s
      if name = tagKey then
        if tag.isSome then .error .mismatched
        else
          let rest ← colon rest
          let (t, rest) ← readTag accept rest
          taggedMembers accept fuel false (some t) rest
      else
        let rest ← colon rest
        let (v, rest) ← value (nestingLimit - 1) rest
        let ((tag, members), rest) ← taggedMembers accept fuel false tag rest
        .ok ((tag, (name, v) :: members), rest)

/-- A tagged record: its tag, which has to be an accepted one, and the rest. -/
def readTagged (accept : String → Bool) (s : Bytes) :
    Except Fault ((String × Payload) × Bytes) :=
  match skipSpace s with
  | [] => .error .truncated
  | b :: r =>
    if b = 0x5B then do
      match ← nextItem true r with
      | .close _ => .error .mismatched
      | .member s =>
        let (tag, rest) ← readTag accept s
        let (items, rest) ← itemsFrom (turns rest) (nestingLimit - 1) false rest
        let rest ← endList rest
        .ok ((tag, .list items), rest)
    else if b = 0x7B then do
      let ((tag, members), rest) ← taggedMembers accept (turns r) true none r
      match tag with
      | none => .error .mismatched
      | some tag =>
        let rest ← endRecord rest
        .ok ((tag, .record members), rest)
    else .error (wrongKind (b :: r))

/-- The tagged record that a whole text writes. -/
def parseTagged (accept : String → Bool) (s : Bytes) : Except Fault (String × Payload) :=
  finish (readTagged accept s)

/-- The only value under a key. -/
def onlyValue? (name : String) (members : List (String × Value)) : Option Value :=
  match members.filter (·.1 == name) with
  | [(_, v)] => some v
  | _ => none

/-- The values of the named fields. In the object form each has to be there once, and other members
do not matter; in the list form they are all there is. -/
def Payload.arguments (names : List String) : Payload → Option (List Value)
  | .record members => names.mapM fun name => onlyValue? name members
  | .list items => if items.length = names.length then some items else none

/-- Nothing is asked of the fields; the list form has none. -/
def Payload.isVacant : Payload → Bool
  | .record _ => true
  | .list items => items.isEmpty

end Rendezvous.Json
