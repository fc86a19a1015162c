import Mathlib.Data.List.Basic
import Rendezvous.Database.Store

/-!
# What the statements about messages mean

The statements that read messages and mark them read are texts with parameters. This module says
what these texts mean. A statement is written as what it is made of, the conditions on a row, the
order of the rows and how many are wanted; from this follow both its text (`Selection.text`,
`Marking.text`) and what it does with a table of messages (`Selection.Gives`, `Marking.mark`). That
the texts are those of the statements that are sent is checked letter by letter
(`pageOf_eq`, `markAllRead_eq`, `markSomeRead_eq`).

A table is a list of rows in whatever order the database has them, and so are the rows that a
marking gives back. Only a selection asks for an order. A database *executes* the statements
(`Executes`) if it answers each of them with rows of its table as the statement says, and has the
table that the statement leaves afterwards, again in any order.
-/

namespace Rendezvous.Database

/-! ### Columns and conditions -/

/-- A column of the table of messages. -/
inductive Column where
  /-- The number of the message. -/
  | id
  /-- The chat that it belongs to. -/
  | chat
  /-- Who sent it. -/
  | sender
  /-- To whom it went. -/
  | receiver
  /-- What it says. -/
  | content
  /-- Who wrote it. -/
  | kind
  /-- Whether it is read. -/
  | isRead
  /-- When it was stored. -/
  | createdAt
  deriving DecidableEq, Repr

namespace Column

/-- The name of a column. -/
def name : Column → String
  | id => "id"
  | chat => "chat_id"
  | sender => "sender_id"
  | receiver => "receiver_id"
  | content => "content"
  | kind => "kind"
  | isRead => "is_read"
  | createdAt => "created_at"

/-- What a message has in a column. -/
def cell (m : Message) : Column → Cell
  | id => .integer m.id
  | chat => .integer m.chat
  | sender => .integer m.sender
  | receiver => .integer m.receiver
  | content => .text m.content
  | kind => .text m.kind.word
  | isRead => .flag m.isRead
  | createdAt => .moment m.createdAt

/-- The columns in their order. -/
def all : List Column :=
  [id, chat, sender, receiver, content, kind, isRead, createdAt]

end Column

/-- How the parameter at a position is written. -/
def placeholder (i : Nat) : String :=
  "$" ++ (i + 1).repr

/-- A condition on a row. -/
inductive Condition where
  /-- A number is the parameter at a position. -/
  | equals (c : Column) (i : Nat)
  /-- A number is less than the parameter. -/
  | isBelow (c : Column) (i : Nat)
  /-- A number is greater than the parameter. -/
  | isAbove (c : Column) (i : Nat)
  /-- A number is one of those that are the parameter. -/
  | isAmong (c : Column) (i : Nat)
  /-- A flag is not set. -/
  | isUnset (c : Column)
  deriving DecidableEq, Repr

namespace Condition

/-- How a condition is written. -/
def text : Condition → String
  | equals c i => c.name ++ " = " ++ placeholder i
  | isBelow c i => c.name ++ " < " ++ placeholder i
  | isAbove c i => c.name ++ " > " ++ placeholder i
  | isAmong c i => c.name ++ " = ANY(" ++ placeholder i ++ ")"
  | isUnset c => c.name ++ " = FALSE"

/-- Whether a number and a parameter that is a number are in a relation. -/
def relates (r : Int64 → Int64 → Bool) : Cell → Option Parameter → Bool
  | .integer a, some (.integer b) => r a b
  | _, _ => false

/-- Whether a message fulfils a condition. -/
def holds (ps : List Parameter) (m : Message) : Condition → Bool
  | equals c i => relates (· == ·) (c.cell m) ps[i]?
  | isBelow c i => relates (· < ·) (c.cell m) ps[i]?
  | isAbove c i => relates (fun a b => b < a) (c.cell m) ps[i]?
  | isAmong c i =>
    match c.cell m, ps[i]? with
    | .integer a, some (.integers bs) => bs.contains a
    | _, _ => false
  | isUnset c => c.cell m == .flag false

/-- Whether the parameter of a condition is there and is of its kind. -/
def fits (ps : List Parameter) : Condition → Bool
  | equals _ i => (ps[i]?.map (· matches .integer _)).getD false
  | isBelow _ i => (ps[i]?.map (· matches .integer _)).getD false
  | isAbove _ i => (ps[i]?.map (· matches .integer _)).getD false
  | isAmong _ i => (ps[i]?.map (· matches .integers _)).getD false
  | isUnset _ => true

end Condition

/-- Several conditions, written after each other. -/
def conjunction (cs : List Condition) : String :=
  " AND ".intercalate (cs.map Condition.text)

/-- Whether a message fulfils all conditions. -/
def meets (cs : List Condition) (ps : List Parameter) (m : Message) : Bool :=
  cs.all (Condition.holds ps m)

/-! ### Selections -/

/-- An order of numbers. -/
inductive Direction where
  /-- The least first. -/
  | ascending
  /-- The greatest first. -/
  | descending
  deriving DecidableEq, Repr

namespace Direction

/-- How an order is written. -/
def word : Direction → String
  | ascending => "ASC"
  | descending => "DESC"

/-- The one number does not have to come after the other. -/
def Admits : Direction → Int64 → Int64 → Prop
  | ascending, a, b => a ≤ b
  | descending, a, b => b ≤ a

instance : (d : Direction) → (a b : Int64) → Decidable (d.Admits a b)
  | ascending, a, b => inferInstanceAs (Decidable (a ≤ b))
  | descending, a, b => inferInstanceAs (Decidable (b ≤ a))

theorem Admits.trans {d : Direction} {a b c : Int64} (h : d.Admits a b) (h' : d.Admits b c) :
    d.Admits a c := by
  cases d with
  | ascending => exact Int64.le_trans h h'
  | descending => exact Int64.le_trans h' h

theorem Admits.total (d : Direction) (a b : Int64) : d.Admits a b ∨ d.Admits b a := by
  cases d with
  | ascending => exact Int64.le_total a b
  | descending => exact Int64.le_total b a

end Direction

/-- Some messages in the order of their numbers, up to as many as a parameter says. -/
structure Selection where
  /-- Which messages. -/
  conditions : List Condition
  /-- In which order. -/
  direction : Direction
  /-- The position of the parameter that says how many. -/
  limit : Nat
  deriving DecidableEq, Repr

namespace Selection

/-- How a selection is written. -/
def text (q : Selection) : String :=
  "SELECT " ++ ", ".intercalate (Column.all.map Column.name) ++ " FROM messages WHERE " ++
    conjunction q.conditions ++ " ORDER BY " ++ Column.id.name ++ " " ++ q.direction.word ++
    " LIMIT " ++ placeholder q.limit

/-- **What a selection gives**: the messages of the table that meet the conditions are put in order,
and the first of them are given. -/
def Gives (q : Selection) (ps : List Parameter) (table rows : List Message) : Prop :=
  ∃ (sorted : List Message) (n : Int64), sorted.Perm (table.filter (meets q.conditions ps)) ∧
    sorted.Pairwise (fun m m' => q.direction.Admits m.id m'.id) ∧
    ps[q.limit]? = some (.integer n) ∧ rows = sorted.take n.toInt.toNat

/-- Whether the parameters are there and are of their kinds. -/
def fits (q : Selection) (ps : List Parameter) : Bool :=
  q.conditions.all (Condition.fits ps) &&
    match ps[q.limit]? with
    | some (.integer n) => 0 ≤ n
    | _ => false

end Selection

/-! ### Markings -/

/-- Some messages that are marked read. -/
structure Marking where
  /-- Which messages. -/
  conditions : List Condition
  /-- Their numbers are given back. -/
  returning : Bool
  deriving DecidableEq, Repr

namespace Marking

/-- How a marking is written. -/
def text (u : Marking) : String :=
  "UPDATE messages SET " ++ Column.isRead.name ++ " = TRUE WHERE " ++ conjunction u.conditions ++
    if u.returning then " RETURNING " ++ Column.id.name else ""

/-- A message after the marking. -/
def mark (u : Marking) (ps : List Parameter) (m : Message) : Message :=
  if meets u.conditions ps m then { m with isRead := true } else m

/-- The rows that are given back of the messages that were marked. -/
def rows (u : Marking) (marked : List Message) : List Row :=
  if u.returning then marked.map fun m => [Column.id.cell m] else []

/-- Whether the parameters are there and are of their kinds. -/
def fits (u : Marking) (ps : List Parameter) : Bool :=
  u.conditions.all (Condition.fits ps)

end Marking

/-! ### The statements that are sent -/

/-- The page of a chat from a cursor. -/
def paging : Cursor → Selection
  | .latest => ⟨[.equals .chat 0], .descending, 1⟩
  | .before _ => ⟨[.equals .chat 0, .isBelow .id 1], .descending, 2⟩
  | .after _ => ⟨[.equals .chat 0, .isAbove .id 1], .ascending, 2⟩

/-- The parameters of a page. -/
def pagingParameters (chat : ChatId) (r : PageSpec) : List Parameter :=
  let limit : Parameter := .integer (Int64.ofNat r.limit.toNat)
  match r.cursor with
  | .latest => [.integer chat, limit]
  | .before id => [.integer chat, .integer id, limit]
  | .after id => [.integer chat, .integer id, limit]

/-- All messages of a chat to a user that are not read. -/
def markingAll : Marking :=
  ⟨[.equals .chat 0, .equals .receiver 1, .isUnset .isRead], false⟩

/-- Some of them. -/
def markingSome : Marking :=
  ⟨[.equals .chat 0, .equals .receiver 1, .isAmong .id 2, .isUnset .isRead], true⟩

/-- A page is asked for by a selection. -/
theorem pageOf_eq (chat : ChatId) (r : PageSpec) :
    pageOf chat r = ⟨(paging r.cursor).text, pagingParameters chat r⟩ := by
  obtain ⟨cursor, limit⟩ := r
  -- the texts have nothing to do with the numbers
  have hlatest : (pageOf 0 ⟨.latest, 0⟩).text = (paging .latest).text := by decide +kernel
  have hbefore : (pageOf 0 ⟨.before 0, 0⟩).text = (paging (.before 0)).text := by decide +kernel
  have hafter : (pageOf 0 ⟨.after 0, 0⟩).text = (paging (.after 0)).text := by decide +kernel
  cases cursor with
  | latest => exact congrArg (Statement.mk · _) hlatest
  | before id => exact congrArg (Statement.mk · _) hbefore
  | after id => exact congrArg (Statement.mk · _) hafter

theorem markAllRead_eq (chat : ChatId) (reader : UserId) :
    markAllRead chat reader = ⟨markingAll.text, [.integer chat, .integer reader]⟩ := by
  have htext : (markAllRead 0 0).text = markingAll.text := by decide +kernel
  exact congrArg (Statement.mk · _) htext

theorem markSomeRead_eq (chat : ChatId) (reader : UserId) (ids : List MessageId) :
    markSomeRead chat reader ids =
      ⟨markingSome.text, [.integer chat, .integer reader, .integers ids]⟩ := by
  have htext : (markSomeRead 0 0 []).text = markingSome.text := by decide +kernel
  exact congrArg (Statement.mk · _) htext

/-! ### Databases -/

/-- **A database executes the statements** about its table of messages. -/
structure Executes {σ : Type} (partner : Dialogue.Partner σ) (table : σ → List Message) : Prop where
  /-- A page is answered by the messages that the selection gives. -/
  select : ∀ s cursor ps, (paging cursor).fits ps = true →
    ∃ rows touched, (paging cursor).Gives ps (table s) rows ∧
      (partner (.statement ⟨(paging cursor).text, ps⟩) s).1 =
        some ⟨rows.map fun m => Column.all.map (Column.cell m), touched⟩ ∧
      (table (partner (.statement ⟨(paging cursor).text, ps⟩) s).2).Perm (table s)
  /-- A marking is done, and answered by how many messages there were and, if their numbers are
  wanted, by these in any order. -/
  update : ∀ s u ps, u = markingAll ∨ u = markingSome → u.fits ps = true →
    ∃ marked, marked.Perm ((table s).filter (meets u.conditions ps)) ∧
      (partner (.statement ⟨u.text, ps⟩) s).1 = some ⟨u.rows marked, marked.length⟩ ∧
      (table (partner (.statement ⟨u.text, ps⟩) s).2).Perm ((table s).map (u.mark ps))

end Rendezvous.Database
