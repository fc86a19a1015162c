import Rendezvous.Chat
import Rendezvous.Failure
import Rendezvous.Message

/-!
# Statements and rows

A statement is sent to the database as a text and its parameters by position. What comes back is a
list of rows, each a list of cells by position, and the number of rows that the statement touched.

A cell is read as what its column holds. A cell that is empty, or of another kind, is a fault,
unless the column may be empty.
-/

namespace Rendezvous.Database

/-- A parameter of a statement. -/
inductive Parameter where
  /-- A number. -/
  | integer (n : Int64)
  /-- A text. -/
  | text (s : String)
  /-- A list of numbers. -/
  | integers (ns : List Int64)
  deriving DecidableEq, Repr

/-- A statement with its parameters by position. -/
structure Statement where
  /-- The text. -/
  text : String
  /-- The parameters. -/
  parameters : List Parameter
  deriving DecidableEq, Repr

/-- A cell of a row. -/
inductive Cell where
  /-- Nothing. -/
  | empty
  /-- A number. -/
  | integer (n : Int64)
  /-- A text. -/
  | text (s : String)
  /-- Yes or no. -/
  | flag (b : Bool)
  /-- A point in time. -/
  | moment (t : Timestamp)
  deriving DecidableEq, Repr

/-- A row. -/
abbrev Row := List Cell

/-- What a statement gives. -/
structure Yield where
  /-- The rows. -/
  rows : List Row
  /-- How many rows it touched. -/
  touched : Nat
  deriving DecidableEq, Repr

/-! ### Reading cells -/

/-- What is read from a row. -/
abbrev Reading (α : Type) := Except SqlFault α

namespace Cell

/-- A number. -/
def readInteger : Cell → Reading Int64
  | integer n => .ok n
  | _ => .error .badColumn

/-- A text. -/
def readText : Cell → Reading String
  | text s => .ok s
  | _ => .error .badColumn

/-- Yes or no. -/
def readFlag : Cell → Reading Bool
  | flag b => .ok b
  | _ => .error .badColumn

/-- A point in time. -/
def readMoment : Cell → Reading Timestamp
  | moment t => .ok t
  | _ => .error .badColumn

/-- A cell that may be empty. -/
def readOptional {α : Type} (read : Cell → Reading α) : Cell → Reading (Option α)
  | .empty => .ok none
  | c => some <$> read c

end Cell

/-- The first cell of a row. -/
def readFirst {α : Type} (read : Cell → Reading α) : Row → Reading α
  | c :: _ => read c
  | [] => .error .badColumn

/-! ### Reading records -/

/-- A chat: its number, its two users and when it was opened. -/
def readChat : Row → Reading Chat
  | [id, user1, user2, createdAt] => do
    .ok ⟨← id.readInteger, ← user1.readInteger, ← user2.readInteger, ← createdAt.readMoment⟩
  | _ => .error .badColumn

/-- A chat as a user sees it. Only what is said of its last message may be missing. -/
def readSummary : Row → Reading ChatView
  | [id, other, createdAt, last, lastAt, lastUser, unread] => do
    .ok ⟨← id.readInteger, ← other.readInteger, ← createdAt.readMoment,
      ← Cell.readOptional Cell.readText last, ← Cell.readOptional Cell.readMoment lastAt,
      ← Cell.readOptional Cell.readInteger lastUser, ← unread.readInteger⟩
  | _ => .error .badColumn

/-- The kind of a message by its word. -/
def readKind (c : Cell) : Reading Authorship := do
  match Authorship.ofWord? (← c.readText) with
  | some kind => .ok kind
  | none => .error .badColumn

/-- A message. -/
def readMessage : Row → Reading Message
  | [id, chat, sender, receiver, content, kind, isRead, createdAt] => do
    .ok ⟨← id.readInteger, ← chat.readInteger, ← sender.readInteger, ← receiver.readInteger,
      ← content.readText, ← readKind kind, ← isRead.readFlag, ← createdAt.readMoment⟩
  | _ => .error .badColumn

/-! ### Writing records -/

/-- The row of a message. -/
def messageRow (m : Message) : Row :=
  [.integer m.id, .integer m.chat, .integer m.sender, .integer m.receiver, .text m.content,
    .text m.kind.word, .flag m.isRead, .moment m.createdAt]

/-- A message is read from its row. -/
theorem readMessage_messageRow (m : Message) :
    readMessage (messageRow m) = .ok m := by
  cases m with
  | mk id chat sender receiver content kind isRead createdAt =>
    cases kind <;> rfl

end Rendezvous.Database
