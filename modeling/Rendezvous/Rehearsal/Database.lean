import Rendezvous.Database.Schema
import Rendezvous.Database.Store
import Rendezvous.Text.Blank

/-!
# A database that follows a script

In a rehearsal, what the database replies is written down beforehand: the results of the statements
in the order in which they are sent, one command that is refused, and what the books say about the
schema. A statement for which no result is left gives no rows and touches none. Everything that is
sent is noted; the books are read without note.
-/

namespace Rendezvous.Rehearsal

open Rendezvous.Database (Applied History Row Saying Yield)

/-- A result of a statement that was written down. -/
inductive ScriptedResult where
  /-- Rows. -/
  | rows (rows : List Row)
  /-- So many rows are touched. -/
  | touched (n : Nat)
  /-- The statement fails. -/
  | failure
  deriving DecidableEq, Repr

/-- What comes of a statement with this result. -/
def ScriptedResult.yield : ScriptedResult → Option Yield
  | .rows found => some ⟨found, found.length⟩
  | .touched n => some ⟨[], n⟩
  | .failure => none

/-- A database that follows a script. -/
structure ScriptedDatabase where
  /-- The results that are left. -/
  results : List ScriptedResult
  /-- How the command begins that is refused, if one is. -/
  refused : Option String
  /-- What the books say about the schema. -/
  history : History
  /-- What was sent, in order. -/
  heard : List Saying
  deriving DecidableEq, Repr

namespace ScriptedDatabase

/-- A database without a script. -/
def blank : ScriptedDatabase :=
  ⟨[], none, ⟨[], none⟩, []⟩

/-- Something is noted. -/
def note (d : ScriptedDatabase) (s : Saying) : ScriptedDatabase :=
  { d with heard := d.heard ++ [s] }

/-- The command is the one that is refused. -/
def refuses (d : ScriptedDatabase) (text : String) : Bool :=
  match d.refused with
  | some beginning => beginning.toList.isPrefixOf (squeezeChars text.toList)
  | none => false

/-- What the database replies. -/
def reply : Database.Dialogue.Partner ScriptedDatabase
  | .statement s, d =>
    let d := d.note (.statement s)
    match d.results with
    | [] => (some ⟨[], 0⟩, d)
    | r :: rest => (r.yield, { d with results := rest })
  | .command text, d =>
    let d := d.note (.command text)
    if d.refuses text then (false, { d with refused := none }) else (true, d)
  | .history, d => (d.history, d)
  | .record v, d =>
    let d := d.note (.record v)
    (true, { d with history := { d.history with applied := d.history.applied ++ [v] } })

/-- What an exchange with the database comes to. -/
def converse {α : Type} (d : ScriptedDatabase) (e : Database.Exchange α) :
    Except StoreError α × ScriptedDatabase :=
  Database.Dialogue.run reply e.run d

end ScriptedDatabase

end Rendezvous.Rehearsal
