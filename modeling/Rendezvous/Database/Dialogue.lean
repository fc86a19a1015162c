import Rendezvous.Database.Statement

/-!
# Talking to the database

The service sends the database one thing at a time and goes on with the answer: a statement, a
command without parameters, or what belongs to the bookkeeping of the schema. A *dialogue* is the
work seen this way: it is over, or something is sent and the dialogue goes on with the reply. What a
database is does not matter here, so that every database will do, one that fails at any point
included.

A transaction is a dialogue between two commands. It is committed only when all inside it succeeded,
and what it comes to is known only when the commitment is confirmed; in every other case it is
rolled back.
-/

namespace Rendezvous.Database

/-- A version of the schema that was put in place, and the digest of what put it there. -/
structure Applied where
  /-- The version. -/
  version : Nat
  /-- The digest in hexadecimal. -/
  digest : String
  deriving DecidableEq, Repr

/-- What the database knows about its schema. -/
structure History where
  /-- The versions that were put in place. -/
  applied : List Applied
  /-- A version that was begun and not ended. -/
  unfinished : Option Nat
  deriving DecidableEq, Repr

/-- What is sent to the database. -/
inductive Saying where
  /-- A statement with parameters. -/
  | statement (s : Statement)
  /-- A command without parameters. -/
  | command (text : String)
  /-- What is known about the schema? -/
  | history
  /-- A version of the schema is in place. -/
  | record (version : Applied)
  deriving DecidableEq, Repr

/-- What is replied: `none` or `false` when it failed. -/
abbrev Saying.Reply : Saying → Type
  | .statement _ => Option Yield
  | .command _ => Bool
  | .history => History
  | .record _ => Bool

/-- Work with the database, seen as what is sent and how it goes on. -/
inductive Dialogue (α : Type) where
  /-- It is over. -/
  | done (result : α)
  /-- Something is sent, and it goes on with the reply. -/
  | say (s : Saying) (next : s.Reply → Dialogue α)

namespace Dialogue

variable {α β σ : Type}

/-- One dialogue after another. -/
def bind : Dialogue α → (α → Dialogue β) → Dialogue β
  | .done a, f => f a
  | .say s next, f => .say s fun reply => (next reply).bind f

instance : Monad Dialogue where
  pure := .done
  bind := bind

@[simp] theorem pure_eq (a : α) : (pure a : Dialogue α) = .done a := rfl

@[simp] theorem done_bind (a : α) (f : α → Dialogue β) : (Dialogue.done a >>= f) = f a := rfl

@[simp] theorem say_bind (s : Saying) (next : s.Reply → Dialogue α) (f : α → Dialogue β) :
    (Dialogue.say s next >>= f) = .say s fun reply => next reply >>= f := rfl

/-- Sends one thing and gives the reply. -/
def send (s : Saying) : Dialogue s.Reply :=
  .say s .done

/-- What replies from a state. -/
abbrev Partner (σ : Type) := (s : Saying) → σ → s.Reply × σ

/-- A dialogue with a partner: what it comes to, and the state after it. -/
def run (partner : Partner σ) : Dialogue α → σ → α × σ
  | .done a, s => (a, s)
  | .say saying next, s =>
    let (reply, s') := partner saying s
    (next reply).run partner s'

@[simp] theorem run_done (partner : Partner σ) (a : α) (s : σ) :
    (Dialogue.done a).run partner s = (a, s) := rfl

theorem run_bind (partner : Partner σ) (x : Dialogue α) (f : α → Dialogue β) (s : σ) :
    (x >>= f).run partner s = (f (x.run partner s).1).run partner (x.run partner s).2 := by
  induction x generalizing s with
  | done a => rfl
  | say saying next ih => exact ih _ _

end Dialogue

/-- A dialogue that may fail. -/
abbrev Exchange (α : Type) := ExceptT StoreError Dialogue α

namespace Exchange

variable {α : Type}

/-- A statement fails with a fault. -/
def fault (f : SqlFault) : Exchange α :=
  throw (.sql f)

/-- What is read from the rows, or the fault in them. -/
def ofReading (r : Reading α) : Exchange α :=
  match r with
  | .ok a => pure a
  | .error f => fault f

/-- Sends a statement. -/
def perform (s : Statement) : Exchange Yield :=
  ExceptT.mk do
    match ← Dialogue.send (.statement s) with
    | some y => pure (.ok y)
    | none => pure (.error (.sql .refused))

/-- How many rows a statement touches. -/
def count (s : Statement) : Exchange Nat := do
  return (← perform s).touched

/-- All rows that a statement gives. -/
def all (read : Row → Reading α) (s : Statement) : Exchange (List α) := do
  ofReading ((← perform s).rows.mapM read)

/-- The first row that a statement gives, if there is one. -/
def first? (read : Row → Reading α) (s : Statement) : Exchange (Option α) := do
  match (← perform s).rows with
  | [] => pure none
  | row :: _ => some <$> ofReading (read row)

/-- The first row that a statement gives; it is a fault when there is none. -/
def first (read : Row → Reading α) (s : Statement) : Exchange α := do
  match ← first? read s with
  | some a => pure a
  | none => fault .noRow

/-- Begins a transaction. -/
def beginning : String := "BEGIN"

/-- Commits it. -/
def commitment : String := "COMMIT"

/-- Takes it back. -/
def retraction : String := "ROLLBACK"

/-- Sends a command. -/
def command (text : String) : Exchange Unit :=
  ExceptT.mk do
    if ← Dialogue.send (.command text) then pure (.ok ()) else pure (.error (.sql .refused))

/-- Takes a transaction back because of a failure. -/
def retract (e : StoreError) : Exchange α :=
  ExceptT.mk do
    let _ ← Dialogue.send (.command retraction)
    pure (.error e)

/-- A dialogue as a transaction. -/
def transaction (body : Exchange α) : Exchange α := do
  command beginning
  ExceptT.mk do
    match ← body.run with
    | .error e => (retract e).run
    | .ok a =>
      if ← Dialogue.send (.command commitment) then pure (.ok a)
      else (retract (.sql .refused)).run

end Exchange

end Rendezvous.Database
