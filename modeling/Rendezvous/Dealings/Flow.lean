import Rendezvous.Notice
import Rendezvous.Store.Request

/-!
# What a request does, step by step

A request does its work by calls: to the store, to the authenticator, to the holder of session
tokens, and to the connections of the users. Each call is answered at once and as a whole, but
between two calls of a request anything may happen, since other requests are under way at the same
time. A *flow* is a request seen this way: it is over, or it makes a call and goes on with the
reply.

A flow runs alone by `Flow.run`, which answers each call from a state. To run many of them at once,
`Flow.step?` lets one of them make its next call.
-/

namespace Rendezvous

/-- A call that a request makes. -/
inductive Call where
  /-- To the store. -/
  | store (request : StoreRequest)
  /-- Who goes by this bearer token? -/
  | authenticate (token : String)
  /-- A session token for a user, for some time. -/
  | issue (user : UserId) (life : Nanos)
  /-- Who may use this session token? It is used up. -/
  | redeem (token : String)
  /-- A session token is worth nothing any more. -/
  | revoke (token : String)
  /-- A notice to the connection of a user. -/
  | push (user : UserId) (notice : Notice)
  /-- How many users are connected? -/
  | connected
  deriving DecidableEq, Repr

/-- What a call is answered by. -/
abbrev Call.Reply : Call → Type
  | .store request => Except StoreError request.Answer
  | .authenticate _ => Except StoreError (Option UserId)
  | .issue .. => Except HolderError String
  | .redeem _ => Except HolderError (Option UserId)
  | .revoke _ => Except HolderError Unit
  | .push .. => Bool
  | .connected => Nat

/-- A request, seen as the calls that it makes. -/
inductive Flow (α : Type) where
  /-- It is over. -/
  | done (result : α)
  /-- It makes a call and goes on with the reply. -/
  | ask (call : Call) (next : call.Reply → Flow α)

namespace Flow

variable {α β σ : Type}

/-- One flow after another. -/
def bind : Flow α → (α → Flow β) → Flow β
  | .done a, f => f a
  | .ask call next, f => .ask call fun reply => (next reply).bind f

instance : Monad Flow where
  pure := .done
  bind := bind

@[simp] theorem pure_eq (a : α) : (pure a : Flow α) = .done a := rfl

@[simp] theorem done_bind (a : α) (f : α → Flow β) : (Flow.done a >>= f) = f a := rfl

@[simp] theorem ask_bind (call : Call) (next : call.Reply → Flow α) (f : α → Flow β) :
    (Flow.ask call next >>= f) = .ask call fun reply => next reply >>= f := rfl

/-- Makes one call and gives the reply. -/
def call (c : Call) : Flow c.Reply :=
  .ask c .done

/-- What answers calls from a state. -/
abbrev Server (σ : Type) := (c : Call) → σ → c.Reply × σ

/-- A flow that runs alone: what it comes to, and the state after it. -/
def run (serve : Server σ) : Flow α → σ → α × σ
  | .done a, s => (a, s)
  | .ask call next, s =>
    let (reply, s') := serve call s
    (next reply).run serve s'

@[simp] theorem run_done (serve : Server σ) (a : α) (s : σ) :
    (Flow.done a).run serve s = (a, s) := rfl

theorem run_bind (serve : Server σ) (x : Flow α) (f : α → Flow β) (s : σ) :
    (x >>= f).run serve s = (f (x.run serve s).1).run serve (x.run serve s).2 := by
  induction x generalizing s with
  | done a => rfl
  | ask call next ih => exact ih _ _

section Failing

variable {ε : Type} {serve : Server σ} {x : ExceptT ε Flow α} {f : α → ExceptT ε Flow β} {s s' : σ}

/-- What has gone well is followed by what comes next. -/
theorem run_bind_ok {a : α} (h : x.run.run serve s = (.ok a, s')) :
    (x >>= f).run.run serve s = (f a).run.run serve s' := by
  change (x.run >>= ExceptT.bindCont f).run serve s = _
  rw [run_bind, h]
  rfl

/-- What has gone wrong is not followed by anything. -/
theorem run_bind_error {e : ε} (h : x.run.run serve s = (.error e, s')) :
    (x >>= f).run.run serve s = (.error e, s') := by
  change (x.run >>= ExceptT.bindCont f).run serve s = _
  rw [run_bind, h]
  rfl

end Failing

/-- The next call of a flow, answered; `none` when the flow is over. -/
def step? (serve : Server σ) : Flow α → σ → Option (Flow α × σ)
  | .done _, _ => none
  | .ask call next, s =>
    let (reply, s') := serve call s
    some (next reply, s')

/-- The result of a flow that is over. -/
def result? : Flow α → Option α
  | .done a => some a
  | .ask .. => none

end Flow

/-- A flow that may refuse its request. -/
abbrev Task (α : Type) := ExceptT Refusal Flow α

namespace Task

/-- A call whose failure is one of the service. -/
def orFail {α ε : Type} (toRefusal : ε → Refusal) (flow : Flow (Except ε α)) : Task α :=
  ExceptT.mk do
    match ← flow with
    | .ok a => pure (.ok a)
    | .error e => pure (.error (toRefusal e))

/-- Asks the store. -/
def store (r : StoreRequest) : Task r.Answer :=
  orFail Refusal.ofStore (Flow.call (.store r))

/-- Pushes a notice to a user; the reply says whether it is on its way. -/
def push (user : UserId) (notice : Notice) : Task Bool :=
  ExceptT.lift (Flow.call (.push user notice))

section Runs

variable {α ε σ : Type} {serve : Flow.Server σ} {s : σ}

/-- What a call is answered by is what the task comes to. -/
theorem run_orFail (toRefusal : ε → Refusal) (flow : Flow (Except ε α)) :
    (orFail toRefusal flow).run.run serve s =
      ((flow.run serve s).1.mapError toRefusal, (flow.run serve s).2) := by
  change (flow >>= _ : Flow (Except Refusal α)).run serve s = _
  rw [Flow.run_bind]
  generalize flow.run serve s = out
  obtain ⟨reply, s⟩ := out
  cases reply <;> rfl

theorem run_store (q : StoreRequest) :
    (Task.store q).run.run serve s =
      ((serve (.store q) s).1.mapError Refusal.ofStore, (serve (.store q) s).2) :=
  run_orFail Refusal.ofStore (Flow.call (.store q))

end Runs

end Task

end Rendezvous
