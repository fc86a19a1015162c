import Rendezvous.Proofs.Database.Queries

/-!
# The statements that open a chat

A chat is opened by putting a row into one table and, in a match, another row into another. Which
rows these are, and by what a chat is looked up, is said here apart from the texts that are sent: an
insertion has what goes into each column (`Insertion.row`), and a lookup has what each column must
hold (`Lookup.key`). The text and the parameters by position both follow from this
(`Insertion.statement`, `Lookup.statement`), so that no parameter can end up in another column than
its own. That they are the statements that are sent is checked letter by letter (`addChat_eq`,
`findChat_eq`, `addGreeting_eq`).
-/

namespace Rendezvous.Database

/-! ### Insertions and lookups -/

/-- The names of columns, written after each other. -/
def columnList (columns : List String) : String :=
  ", ".intercalate columns

/-- **A row that is put into a table.** -/
structure Insertion where
  /-- The table. -/
  table : String
  /-- What goes into each column. -/
  row : List (String × Parameter)
  /-- The columns in which no two rows are alike. If there is a row that is like the new one in all
  of these, nothing is put in. No columns, no such condition. -/
  apart : List String
  /-- The column of the new row that is given back, if any. -/
  returning : Option String
  deriving DecidableEq, Repr

namespace Insertion

/-- How an insertion is written. -/
def text (q : Insertion) : String :=
  "INSERT INTO " ++ q.table ++ " (" ++ columnList (q.row.map (·.1)) ++ ") VALUES (" ++
    columnList ((List.range q.row.length).map placeholder) ++ ")" ++
    (if q.apart.isEmpty then "" else " ON CONFLICT (" ++ columnList q.apart ++ ") DO NOTHING") ++
    q.returning.elim "" (" RETURNING " ++ ·)

/-- The statement that puts the row in. -/
def statement (q : Insertion) : Statement :=
  ⟨q.text, q.row.map (·.2)⟩

end Insertion

/-- **A row that is looked up.** -/
structure Lookup where
  /-- The table. -/
  table : String
  /-- The column of the row that is wanted. -/
  wanted : String
  /-- What the row has to hold. -/
  key : List (String × Parameter)
  deriving DecidableEq, Repr

namespace Lookup

/-- How a lookup is written. -/
def text (q : Lookup) : String :=
  "SELECT " ++ q.wanted ++ " FROM " ++ q.table ++ " WHERE " ++
    " AND ".intercalate (q.key.mapIdx fun i column => column.1 ++ " = " ++ placeholder i)

/-- The statement that looks the row up. -/
def statement (q : Lookup) : Statement :=
  ⟨q.text, q.key.map (·.2)⟩

end Lookup

/-! ### Chats and first messages -/

/-- The two users of a chat, as its row has them. -/
def members (first second : UserId) : List (String × Parameter) :=
  [("user1_id", .integer first), ("user2_id", .integer second)]

/-- The chat of two users as a new row, if there is none yet. Its number is given back. -/
def newChat (first second : UserId) : Insertion :=
  ⟨"chats", members first second, ["user1_id", "user2_id"], some "id"⟩

/-- The number of the chat of two users. -/
def oldChat (first second : UserId) : Lookup :=
  ⟨"chats", "id", members first second⟩

/-- A message of the service's own in a chat, from the one user to the other, as a new row. -/
def firstMessage (chat : ChatId) (sender receiver : UserId) (content : String) : Insertion :=
  ⟨"messages", [("chat_id", .integer chat), ("sender_id", .integer sender),
    ("receiver_id", .integer receiver), ("content", .text content), ("kind", .text "system")],
    [], none⟩

/-- The two orders of a pair, one of which is canonical. -/
theorem canonical_pair (a b : UserId) : ∃ first second, first ≤ second ∧
    ((first = a ∧ second = b) ∨ (first = b ∧ second = a)) ∧
    pairOf a b = [.integer first, .integer second] := by
  rcases Int64.le_total a b with h | h
  · exact ⟨a, b, h, Or.inl ⟨rfl, rfl⟩, by simp [pairOf, orderedPair, h]⟩
  · exact ⟨b, a, h, Or.inr ⟨rfl, rfl⟩, by rw [pairOf_comm]; simp [pairOf, orderedPair, h]⟩

/-- A chat is put in as the new row of its two users. -/
theorem addChat_eq {a b first second : UserId}
    (h : pairOf a b = [.integer first, .integer second]) :
    addChat a b = (newChat first second).statement := by
  have htext : (addChat 0 0).text = (newChat 0 0).text := by decide +kernel
  unfold addChat
  rw [h]
  exact congrArg (Statement.mk · _) htext

/-- And it is looked up by its two users. -/
theorem findChat_eq {a b first second : UserId}
    (h : pairOf a b = [.integer first, .integer second]) :
    findChat a b = (oldChat first second).statement := by
  have htext : (findChat 0 0).text = (oldChat 0 0).text := by decide +kernel
  unfold findChat
  rw [h]
  exact congrArg (Statement.mk · _) htext

/-- The first message of a match is put in as a message of the service's own. -/
theorem addGreeting_eq (chat : ChatId) (actor target : UserId) (content : String) :
    addGreeting chat actor target content = (firstMessage chat actor target content).statement := by
  have htext : (addGreeting 0 0 0 "").text = (firstMessage 0 0 0 "").text := by decide +kernel
  exact congrArg (Statement.mk · _) htext

end Rendezvous.Database
