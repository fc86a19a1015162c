import Rendezvous.Dealings.Flow

/-!
# Matching

A user decides about others one at a time. When the decision is to like someone who likes the user
already, the two are a match: their chat is opened, beginning with a message of the service, and
both are told. If they have a chat, whether from an earlier match or from messages, they are a match
without anyone being told again: only the request that opened the chat tells.
-/

namespace Rendezvous

/-- What came of a decision. -/
inductive DecisionStatus where
  /-- The user likes the other one. -/
  | like
  /-- The user does not. -/
  | dislike
  /-- Each likes the other. -/
  | paired
  deriving DecidableEq, Repr

/-- The word for what came of a decision. -/
def DecisionStatus.word : DecisionStatus → String
  | .like => "like"
  | .dislike => "dislike"
  | .paired => "match"

/-- What a user is told about a decision. -/
structure DecisionOutcome where
  /-- What came of it. -/
  status : DecisionStatus
  /-- What is said about a match. -/
  content : Option String
  /-- The chat of a match. -/
  chat : Option ChatId
  deriving DecidableEq, Repr

namespace DecisionOutcome

/-- A decision without a match. -/
def decided : Decision → DecisionOutcome
  | .like => ⟨.like, none, none⟩
  | .dislike => ⟨.dislike, none, none⟩

/-- A match. -/
def ofMatch (target : UserId) (chat : ChatId) : DecisionOutcome :=
  ⟨.paired, some ("It's a match with user " ++ Json.writeInteger target ++ "!"), some chat⟩

/-- The text of an outcome. What it has not does not stand there. -/
def encode (o : DecisionOutcome) : String :=
  Json.writeRecord
    (("status", Json.writeText o.status.word) ::
      ((o.content.map fun c => ("content", Json.writeText c)).toList ++
        (o.chat.map fun c => ("chat_id", Json.writeInteger c)).toList))

end DecisionOutcome

namespace Pairing

/-- Tells both users of a match, the one who decided last first. -/
def announce (chat : ChatId) (actor target : UserId) : Task Unit := do
  let _ ← Task.push actor (.paired chat target matchGreeting)
  let _ ← Task.push target (.paired chat actor matchGreeting)
  pure ()

/-- Two users who like each other: their chat, and the news if it was opened now. -/
def pair (actor target : UserId) : Task DecisionOutcome := do
  let (chat, created) ← Task.store (.openMatch actor target matchGreeting)
  if created then announce chat actor target
  pure (.ofMatch target chat)

/-- A user decides about another one. -/
def decide (actor target : UserId) (action : Decision) : Task DecisionOutcome :=
  if actor = target then throw .selfTarget
  else do
    Task.store (.recordSwipe actor target action)
    match action with
    | .dislike => pure (.decided .dislike)
    | .like =>
      if ← Task.store (.likes target actor) then pair actor target
      else pure (.decided .like)

/-- A user forgets everything decided so far; the answer is how much it was. -/
def reset (actor : UserId) : Task Nat :=
  Task.store (.forgetSwipes actor)

/-- Whom a user is matched with. -/
def partners (user : UserId) : Task (List UserId) :=
  Task.store (.matchesOf user)

end Pairing

end Rendezvous
