import Rendezvous.Identity
import Rendezvous.Time.Timestamp

/-!
# Swipes

A swipe is a user's decision about another user. A later decision replaces an earlier one.
-/

namespace Rendezvous

/-- The two decisions. -/
inductive Decision where
  /-- The user likes the other one. -/
  | like
  /-- The user does not. -/
  | dislike
  deriving DecidableEq, Repr

namespace Decision

/-- The word for a decision. -/
def word : Decision → String
  | .like => "like"
  | .dislike => "dislike"

/-- The decisions under their words. -/
def words : List (String × Decision) :=
  [("like", .like), ("dislike", .dislike)]

/-- The decision that a word names. -/
def ofWord? (s : String) : Option Decision :=
  words.lookup s

/-- What is said of a word that names no decision. -/
def unknown (s : String) : String :=
  "invalid swipe action '" ++ s ++ "'"

theorem ofWord?_word (action : Decision) : ofWord? action.word = some action := by
  cases action <;> rfl

end Decision

/-- A recorded decision. -/
structure Swipe where
  /-- Who decided. -/
  user : UserId
  /-- About whom. -/
  target : UserId
  /-- The decision. -/
  action : Decision
  /-- When it was recorded. -/
  createdAt : Timestamp
  deriving DecidableEq, Repr

end Rendezvous
