import Rendezvous.Identity
import Rendezvous.Json.Writer

/-!
# Failures

Three parts of the service fail, each for reasons of its own: the store, the holder of session
tokens, and a request as a whole. A request fails for one of five classes of reasons. Four of them
tell their client why; the fifth, a failure inside the service, keeps its cause to itself, so that
what a client reads about it is the same text whatever happened.
-/

namespace Rendezvous

/-! ### The store -/

/-- Why a database statement gives no result. -/
inductive SqlFault where
  /-- The server refused the statement. -/
  | refused
  /-- A row had to come and none came. -/
  | noRow
  /-- A value of a row is not of the kind that its column has. -/
  | badColumn
  deriving DecidableEq, Repr

/-- The word for a fault of a statement. -/
def SqlFault.word : SqlFault → String
  | .refused => "sql: Database"
  | .noRow => "sql: RowNotFound"
  | .badColumn => "sql: ColumnDecode"

/-- Why the store refuses an operation. -/
inductive StoreError where
  /-- A chat needs two users, and this one was named twice. -/
  | selfChat (user : UserId)
  /-- There is no such chat. -/
  | noChat (chat : ChatId)
  /-- The chat is not the one of these two users. -/
  | notConnected (chat : ChatId) (a b : UserId)
  /-- The database failed. -/
  | sql (fault : SqlFault)
  /-- The tables of the database could not be brought up to date. -/
  | schema
  /-- The store could not be used at all. -/
  | unavailable (reason : String)
  deriving DecidableEq, Repr

/-- The text of a failure of the store. -/
def StoreError.message : StoreError → String
  | .selfChat user =>
    "a chat needs two distinct users, got " ++ Json.writeInteger user ++ " twice"
  | .noChat chat => "chat " ++ Json.writeInteger chat ++ " does not exist"
  | .notConnected chat a b =>
    "chat " ++ Json.writeInteger chat ++ " does not connect users " ++ Json.writeInteger a ++
      " and " ++ Json.writeInteger b
  | .sql fault => fault.word
  | .schema => "failed to apply schema migrations"
  | .unavailable reason => reason

/-! ### Session tokens -/

/-- Why the holder of session tokens gives no answer. -/
inductive HolderError where
  /-- It could not be asked, or did not answer. -/
  | backend (reason : String)
  /-- What it holds under the token is no entry. -/
  | malformed (reason : String)
  deriving DecidableEq, Repr

/-- The text of a failure of the holder of session tokens. -/
def HolderError.message : HolderError → String
  | .backend reason => "session backend unavailable: " ++ reason
  | .malformed reason => "corrupt session entry: " ++ reason

/-- What is stored under the token names no user. -/
def HolderError.notNumeric (stored : String) : HolderError :=
  .malformed ("non-numeric user id '" ++ stored ++ "'")

/-! ### Requests -/

/-- The five classes of failed requests. -/
inductive RefusalClass where
  /-- The request asks for something that makes no sense. -/
  | badRequest
  /-- The client has not said who it is. -/
  | unauthorized
  /-- The client may not do this. -/
  | forbidden
  /-- What the request names is not there. -/
  | notFound
  /-- The service failed. -/
  | internal
  deriving DecidableEq, Repr

/-- The HTTP status of a class. -/
def RefusalClass.status : RefusalClass → Nat
  | .badRequest => 400
  | .unauthorized => 401
  | .forbidden => 403
  | .notFound => 404
  | .internal => 500

/-- Why a request fails: the class, and the cause in words. -/
structure Refusal where
  /-- The class of the failure. -/
  kind : RefusalClass
  /-- What happened. -/
  message : String
  deriving DecidableEq, Repr

namespace Refusal

/-- The HTTP status of a failed request. -/
def status (r : Refusal) : Nat :=
  r.kind.status

/-- What a client reads about a failure inside the service. -/
def undisclosed : String :=
  "internal error"

/-- What the client reads. -/
def shown (r : Refusal) : String :=
  if r.kind = .internal then undisclosed else r.message

/-- The body of the answer to a failed request. -/
def body (r : Refusal) : String :=
  Json.writeRecord [("error", Json.writeText r.shown)]

/-- A failure of the store is one of the service. -/
def ofStore (e : StoreError) : Refusal :=
  ⟨.internal, e.message⟩

/-- A failure of the holder of session tokens is one of the service. -/
def ofSession (e : HolderError) : Refusal :=
  ⟨.internal, e.message⟩

/-- Whatever failed inside the service, the client reads the same. -/
theorem body_eq_of_internal {r s : Refusal} (hr : r.kind = .internal) (hs : s.kind = .internal) :
    r.body = s.body := by
  simp [body, shown, hr, hs]

/-! ### The causes in words -/

/-- A swipe needs another user. -/
def selfTarget : Refusal := ⟨.badRequest, "target_id can't be yours"⟩

/-- A decision is one of two words. -/
def invalidAction : Refusal := ⟨.badRequest, "invalid action"⟩

/-- A message says something. -/
def emptyContent : Refusal := ⟨.badRequest, "content must not be empty"⟩

/-- A message is not too long. -/
def longContent : Refusal :=
  ⟨.badRequest, "content exceeds " ++ Json.writeNat Limit.messageChars ++ " characters"⟩

/-- A message goes to another user. -/
def selfMessage : Refusal := ⟨.badRequest, "cannot send a message to yourself"⟩

/-- A message stays between the two users of its chat. -/
def foreignReceiver : Refusal := ⟨.badRequest, "receiver is not part of this chat"⟩

/-- Read messages have to be named. -/
def noMessages : Refusal := ⟨.badRequest, "no message ids provided"⟩

/-- For a user, a chat of others is not there. -/
def noChat (chat : ChatId) : Refusal :=
  ⟨.notFound, "chat " ++ Json.writeInteger chat ++ " not found"⟩

/-- A request says who makes it. -/
def noBearer : Refusal := ⟨.unauthorized, "missing or invalid authorization header"⟩

/-- Nobody goes by that token. -/
def unknownBearer : Refusal := ⟨.unauthorized, "token expired or invalid"⟩

/-- A page of another origin may not connect. -/
def foreignOrigin : Refusal := ⟨.forbidden, "origin not allowed"⟩

/-- A connection needs a session token. -/
def noSession : Refusal := ⟨.unauthorized, "missing session token"⟩

/-- The session token opens nothing. -/
def deadSession : Refusal := ⟨.unauthorized, "invalid or expired session token"⟩

/-- Nobody could say whether the session token opens anything. -/
def unverifiedSession : Refusal := ⟨.unauthorized, "session token could not be verified"⟩

end Refusal

end Rendezvous
