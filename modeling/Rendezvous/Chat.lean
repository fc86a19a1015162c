import Rendezvous.Identity
import Rendezvous.Time.Timestamp

/-!
# Chats

A chat belongs to an unordered pair of users. It is kept under its canonical pair, the lesser number
first, so that both orders name the same chat.
-/

namespace Rendezvous

/-- The two numbers with the lesser one first. -/
def orderedPair (a b : UserId) : UserId × UserId :=
  if a ≤ b then (a, b) else (b, a)

/-- A chat between two users. -/
structure Chat where
  /-- The number of the chat. -/
  id : ChatId
  /-- The first user of the pair. -/
  user1 : UserId
  /-- The second user of the pair. -/
  user2 : UserId
  /-- When the chat was opened. -/
  createdAt : Timestamp
  deriving DecidableEq, Repr

namespace Chat

/-- The user is one of the two. -/
def hasMember (chat : Chat) (user : UserId) : Bool :=
  chat.user1 == user || chat.user2 == user

/-- The other one of the two, seen from a participant. -/
def other? (chat : Chat) (user : UserId) : Option UserId :=
  if chat.user1 = user then some chat.user2
  else if chat.user2 = user then some chat.user1
  else none

/-- The chat is the one of this pair, in either order. -/
def isOf (chat : Chat) (a b : UserId) : Bool :=
  orderedPair a b == (chat.user1, chat.user2)

end Chat

/-- A chat as one of its users sees it in the list of chats. -/
structure ChatView where
  /-- The number of the chat. -/
  id : ChatId
  /-- The other user of the chat. -/
  other : UserId
  /-- When the chat was opened. -/
  createdAt : Timestamp
  /-- The content of the last message, if there is one. -/
  lastContent : Option String
  /-- When the last message was sent. -/
  lastAt : Option Timestamp
  /-- Who sent the last message. -/
  lastSender : Option UserId
  /-- How many messages to this user are unread. -/
  unread : Int64
  deriving DecidableEq, Repr

theorem orderedPair_comm (a b : UserId) : orderedPair a b = orderedPair b a := by
  unfold orderedPair
  split <;> split
  · next h h' => rw [Int64.le_antisymm h h']
  · rfl
  · rfl
  · next h h' => exact absurd (Int64.le_total a b) (by simp [h, h'])

theorem orderedPair_fst_eq_snd {a b : UserId} :
    (orderedPair a b).1 = (orderedPair a b).2 ↔ a = b := by
  unfold orderedPair
  split
  · exact Iff.rfl
  · exact eq_comm

/-- The canonical pair of two different users has the lesser one strictly first. -/
theorem orderedPair_lt {a b : UserId} (h : a ≠ b) : (orderedPair a b).1 < (orderedPair a b).2 := by
  unfold orderedPair
  split
  · next hle => exact Int64.lt_of_le_of_ne hle h
  · next hle => exact Int64.not_le.1 hle

/-- Two canonical pairs are the same exactly if their users are, in either order. -/
theorem orderedPair_eq_iff {a b c d : UserId} :
    orderedPair a b = orderedPair c d ↔ (a = c ∧ b = d) ∨ (a = d ∧ b = c) := by
  constructor
  · unfold orderedPair
    split <;> split <;> rintro h <;> obtain ⟨rfl, rfl⟩ := Prod.mk.inj h <;> simp
  · rintro (⟨rfl, rfl⟩ | ⟨rfl, rfl⟩)
    · rfl
    · exact orderedPair_comm _ _

namespace Chat

theorem isOf_comm (chat : Chat) (a b : UserId) : chat.isOf a b = chat.isOf b a := by
  simp [isOf, orderedPair_comm a b]

/-- A user faces another one in a chat exactly if the user takes part in it. -/
theorem isSome_other? (chat : Chat) (user : UserId) :
    (chat.other? user).isSome = chat.hasMember user := by
  unfold other? hasMember
  by_cases h : chat.user1 = user <;> by_cases h' : chat.user2 = user <;> simp [h, h']

end Chat

end Rendezvous
