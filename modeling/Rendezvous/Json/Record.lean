import Rendezvous.Json.Scalar
import Rendezvous.Json.Skip

/-!
# Records read in one pass

A plain record is read field by field while its text goes by, so the first fault in the text is the
one that is named. It is written as a JSON object, whose keys may come in any order and among keys
that are not its own, or as a list of the fields in their order. A key given twice is a mismatch as
soon as it comes; a field that is missing is noticed at the end. In the list form only fields that
have a value by default may be missing, and more items than fields make the text malformed.

A `Shape` says how a record is read: its fields, each with the part of a draft that it fills in,
and how a draft becomes a record.
-/

namespace Rendezvous.Json

/-- A field of a record that is drafted in `σ`. -/
structure Field (σ : Type) where
  /-- The key of the field. -/
  name : String
  /-- Whether the draft holds the field. -/
  isSet : σ → Bool
  /-- Reads the field into the draft. -/
  read : σ → Bytes → Scan σ
  /-- Whether the list form may end before the field. -/
  mayEndBefore : Bool

/-- How a record is read. -/
structure Shape (σ α : Type) where
  /-- The draft that holds no field. -/
  blank : σ
  /-- The fields in their order. -/
  fields : List (Field σ)
  /-- The record of a draft; `none` when a field is missing. -/
  complete : σ → Option α

namespace Shape

variable {σ α : Type}

/-- The fields of the list form. -/
def readSequence (fields : List (Field σ)) (first : Bool) (draft : σ) (s : Bytes) :
    Except Fault (σ × Bytes) :=
  match fields with
  | [] => .ok (draft, s)
  | field :: fields => do
    match ← nextItem first s with
    | .close rest =>
      if field.mayEndBefore then readSequence fields first draft rest else .error .mismatched
    | .member s =>
      let (draft, rest) ← field.read draft s
      readSequence fields false draft rest

/-- The members of the object form. -/
def readMembers (shape : Shape σ α) (fuel : Nat) (first : Bool) (draft : σ) (s : Bytes) :
    Except Fault (σ × Bytes) :=
  match fuel with
  | 0 => .error .truncated
  | fuel + 1 => do
    match ← nextKey first s with
    | .close rest => .ok (draft, rest)
    | .member s =>
      let (name, rest) ← key s
      match shape.fields.find? (·.name == name) with
      | some field =>
        if field.isSet draft then .error .mismatched
        else
          let rest ← colon rest
          let (draft, rest) ← field.read draft rest
          readMembers shape fuel false draft rest
      | none =>
        let rest ← colon rest
        let rest ← skipValue rest
        readMembers shape fuel false draft rest

/-- The record that a draft has become. -/
def conclude (shape : Shape σ α) (draft : σ) : Except Fault α :=
  match shape.complete draft with
  | some a => .ok a
  | none => .error .mismatched

/-- The record in front. -/
def read (shape : Shape σ α) (s : Bytes) : Except Fault (α × Bytes) :=
  match skipSpace s with
  | [] => .error .truncated
  | b :: r =>
    if b = 0x5B then do
      let (draft, rest) ← readSequence shape.fields true shape.blank r
      let a ← shape.conclude draft
      let rest ← endList rest
      .ok (a, rest)
    else if b = 0x7B then do
      let (draft, rest) ← shape.readMembers (turns r) true shape.blank r
      let a ← shape.conclude draft
      let rest ← endRecord rest
      .ok (a, rest)
    else .error (wrongKind (b :: r))

/-- The record that a whole text writes. -/
def parse (shape : Shape σ α) (s : Bytes) : Except Fault α :=
  finish (shape.read s)

end Shape

/-- A field kept in an optional part of the draft. -/
def Field.of {σ β : Type} (name : String) (read : Bytes → Scan β) (get : σ → Option β)
    (set : σ → β → σ) (mayEndBefore : Bool := false) : Field σ where
  name := name
  isSet draft := (get draft).isSome
  read draft s := (read s).map fun (b, rest) => (set draft b, rest)
  mayEndBefore := mayEndBefore

end Rendezvous.Json
