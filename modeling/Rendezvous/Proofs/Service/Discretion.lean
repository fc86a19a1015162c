import Rendezvous.Proofs.Service.Scene

/-!
# Failures are kept to the service

A call to the store, to the authenticator or to the holder of session tokens may fail, and the
failure comes with a reason in words. This module is about where these words go. A flow *gives up*
at a failure: it makes no other call, and what it comes to depends on which call has failed and not
on why (`Flow.GivesUp`). So what a request is answered by is the same whatever the reasons are, and
so is all that is left behind (`Flow.GivesUp.run_congr`).

On its way to the answer a reason goes through several hands. It is put into a refusal first, which
still holds the words, so that two refusals for different reasons differ (`Http.Hides`); the answer
to the refusal is where they are dropped. A connection drops them by itself. Every request gives up
at every failure (`Http.givesUp_handle`), and the answer then says that the service has failed, or
that the session token could not be verified (`Http.discreet`).
-/

namespace Rendezvous

/-- **A call fails** with this reply. -/
def Call.Fails : (call : Call) → call.Reply → Prop
  | .store _, reply => ∃ e, reply = .error e
  | .authenticate _, reply => ∃ e, reply = .error e
  | .issue .., reply => ∃ e, reply = .error e
  | .redeem _, reply => ∃ e, reply = .error e
  | .revoke _, reply => ∃ e, reply = .error e
  | .push .., _ => False
  | .connected, _ => False

/-- **Two replies differ at most in the reason for a failure.** -/
def Call.SameButWhy (call : Call) (reply reply' : call.Reply) : Prop :=
  reply = reply' ∨ (call.Fails reply ∧ call.Fails reply')

/-! ### Flows that give up -/

namespace Flow

variable {α β σ : Type} {P : Call → α → Prop} {Q : Call → β → Prop} {x : Flow α}

/-- **A flow gives up** at any failure of a call: it is over then, and comes to something that the
call allows. -/
def GivesUp (P : Call → α → Prop) : Flow α → Prop
  | .done _ => True
  | .ask call next =>
    (∀ reply, call.Fails reply → ∃ a, next reply = .done a ∧ P call a) ∧
      ∀ reply, (next reply).GivesUp P

theorem GivesUp.bind {f : α → Flow β} (hx : x.GivesUp P)
    (hP : ∀ call a, P call a → ∃ b, f a = .done b ∧ Q call b) (hf : ∀ a, (f a).GivesUp Q) :
    (x >>= f).GivesUp Q := by
  induction x with
  | done a => exact hf a
  | ask call next ih =>
    refine ⟨fun reply hfails => ?_, fun reply => ih reply (hx.2 reply)⟩
    obtain ⟨a, he, ha⟩ := hx.1 reply hfails
    obtain ⟨b, hb, hQ⟩ := hP call a ha
    refine ⟨b, ?_, hQ⟩
    change (next reply >>= f) = .done b
    rw [he, done_bind, hb]

/-- The calls of a flow that runs alone, with their replies. -/
def exchanges (serve : Server σ) : Flow α → σ → List Exchange
  | .done _, _ => []
  | .ask call next, s =>
    ⟨call, (serve call s).1⟩ :: (next (serve call s).1).exchanges serve (serve call s).2

/-- **What a flow comes to after a failure** is what the call allows. -/
theorem GivesUp.result (hx : x.GivesUp P) {serve : Server σ} {s : σ} {e : Exchange}
    (he : e ∈ x.exchanges serve s) (hfails : e.call.Fails e.reply) :
    P e.call (x.run serve s).1 := by
  induction x generalizing s with
  | done a => exact absurd he (by simp [exchanges])
  | ask call next ih =>
    rcases List.mem_cons.1 he with rfl | he
    · obtain ⟨a, hdone, ha⟩ := hx.1 _ hfails
      change P call ((next (serve call s).1).run serve (serve call s).2).1
      rw [hdone]
      exact ha
    · exact ih _ (hx.2 _) he

/-- **Servers differ at most in the reasons for failures.** -/
def Server.SameButWhy (serve serve' : Server σ) : Prop :=
  ∀ call s, (serve call s).2 = (serve' call s).2 ∧
    call.SameButWhy (serve call s).1 (serve' call s).1

/-- **The reasons make no difference** to a flow that gives up, if each call allows only one
thing. -/
theorem GivesUp.run_congr (hx : x.GivesUp P) (hP : ∀ call a a', P call a → P call a' → a = a')
    {serve serve' : Server σ} (hsame : serve.SameButWhy serve') (s : σ) :
    x.run serve s = x.run serve' s := by
  induction x generalizing s with
  | done a => rfl
  | ask call next ih =>
    obtain ⟨hstate, hreply⟩ := hsame call s
    change (next (serve call s).1).run serve (serve call s).2 =
      (next (serve' call s).1).run serve' (serve' call s).2
    rw [← hstate]
    rcases hreply with heq | ⟨hfails, hfails'⟩
    · rw [← heq]
      exact ih _ (hx.2 _) _
    · obtain ⟨a, he, ha⟩ := hx.1 _ hfails
      obtain ⟨a', he', ha'⟩ := hx.1 _ hfails'
      rw [he, he', hP call a a' ha ha']
      rfl

end Flow

/-! ### What a failure comes to -/

namespace Http

/-- The answer when the service has failed. -/
def failure : Response :=
  .json 500 (Json.writeRecord [("error", Json.writeText Refusal.undisclosed)])

/-- **The answer when a call has failed.** -/
def failureAnswer : Call → Response
  | .redeem _ => .ofRefusal .unverifiedSession
  | _ => failure

/-- An early answer is the one to a failure of the call. -/
def Yields (call : Call) (answer : Response) : Prop :=
  answer = failureAnswer call

/-- The answer to a refusal is the one to a failure of the call, so that none of its words stand
there. -/
def Hides (call : Call) (refusal : Refusal) : Prop :=
  Response.ofRefusal refusal = failureAnswer call

theorem ofRefusal_of_internal {refusal : Refusal} (h : refusal.kind = .internal) :
    Response.ofRefusal refusal = failure := by
  simp [Response.ofRefusal, failure, Refusal.status, Refusal.body, Refusal.shown, h,
    RefusalClass.status]

end Http

namespace Attempt

variable {ε α β : Type} {E : Call → ε → Prop}

/-- **A flow that may fail gives up** at any failure of a call, and what it fails with then is
something that the call allows. -/
def GivesUp (E : Call → ε → Prop) (x : ExceptT ε Flow α) : Prop :=
  x.run.GivesUp fun call result => ∃ e, result = .error e ∧ E call e

theorem givesUp_pure (a : α) : GivesUp E (pure a : ExceptT ε Flow α) :=
  trivial

theorem givesUp_throw (e : ε) : GivesUp E (throw e : ExceptT ε Flow α) :=
  trivial

theorem GivesUp.bind {x : ExceptT ε Flow α} {f : α → ExceptT ε Flow β} (hx : GivesUp E x)
    (hf : ∀ a, GivesUp E (f a)) : GivesUp E (x >>= f) := by
  refine Flow.GivesUp.bind hx ?_ fun result => ?_
  · rintro call _ ⟨e, rfl, he⟩
    exact ⟨.error e, rfl, e, rfl, he⟩
  · cases result with
    | ok a => exact hf a
    | error e => trivial

/-- A task hides the reasons as soon as its refusal is the answer. -/
theorem GivesUp.ofTask {task : Task α} (h : GivesUp Http.Hides task) :
    GivesUp Http.Yields (Http.Answering.ofTask task) := by
  refine Flow.GivesUp.bind h ?_ fun result => ?_
  · rintro call _ ⟨refusal, rfl, hhides⟩
    exact ⟨.error (.ofRefusal refusal), rfl, _, rfl, hhides⟩
  · cases result <;> trivial

theorem givesUp_require (answer : Http.Response) (o : Option α) {E : Call → Http.Response → Prop} :
    GivesUp E (Http.Answering.require answer o) := by
  cases o <;> trivial

theorem givesUp_store (q : StoreRequest) : GivesUp Http.Hides (Task.store q) := by
  refine ⟨?_, fun reply => by cases reply <;> trivial⟩
  rintro _ ⟨e, rfl⟩
  exact ⟨_, rfl, _, rfl, Http.ofRefusal_of_internal rfl⟩

theorem givesUp_push (user : UserId) (notice : Notice) {E : Call → Refusal → Prop} :
    GivesUp E (Task.push user notice) :=
  ⟨fun _ hfails => hfails.elim, fun _ => trivial⟩

theorem givesUp_caller (r : Http.Request) : GivesUp Http.Hides (Http.caller r) := by
  unfold Http.caller
  cases Http.bearer? r with
  | none => exact givesUp_throw _
  | some token =>
    refine ⟨?_, fun reply => ?_⟩
    · rintro _ ⟨e, rfl⟩
      exact ⟨_, rfl, _, rfl, Http.ofRefusal_of_internal rfl⟩
    · match reply with
      | .error e => trivial
      | .ok none => trivial
      | .ok (some user) => trivial

end Attempt

/-! ### Dealings -/

namespace Pairing

open Attempt

theorem givesUp_announce (chat : ChatId) (actor target : UserId) :
    GivesUp Http.Hides (announce chat actor target) :=
  (givesUp_push _ _).bind fun _ => (givesUp_push _ _).bind fun _ => givesUp_pure _

theorem givesUp_pair (actor target : UserId) : GivesUp Http.Hides (pair actor target) := by
  refine (givesUp_store _).bind fun ⟨chat, created⟩ => ?_
  cases created with
  | true => exact (givesUp_announce chat actor target).bind fun _ => givesUp_pure _
  | false => exact givesUp_pure _

theorem givesUp_decide (actor target : UserId) (action : Decision) :
    GivesUp Http.Hides (Pairing.decide actor target action) := by
  unfold Pairing.decide
  split
  · exact givesUp_throw _
  · refine (givesUp_store _).bind fun _ => ?_
    cases action with
    | dislike => exact givesUp_pure _
    | like =>
      refine (givesUp_store _).bind fun liked => ?_
      cases liked with
      | true => exact givesUp_pair actor target
      | false => exact givesUp_pure _

end Pairing

namespace Correspondence

open Attempt

theorem givesUp_ownChat (user : UserId) (id : ChatId) :
    GivesUp Http.Hides (ownChat user id) := by
  refine (givesUp_store _).bind fun found => ?_
  cases found with
  | none => exact givesUp_throw _
  | some chat =>
    dsimp only
    split
    · exact givesUp_pure _
    · exact givesUp_throw _

theorem givesUp_chatFor (sender : UserId) (m : Letter) :
    GivesUp Http.Hides (chatFor sender m) := by
  unfold chatFor
  split
  · refine (givesUp_ownChat sender _).bind fun chat => ?_
    split
    · exact givesUp_pure _
    · exact givesUp_throw _
  · exact (givesUp_store _).bind fun _ => givesUp_pure _

theorem givesUp_send (sender : UserId) (m : Letter) : GivesUp Http.Hides (send sender m) := by
  unfold send
  split
  · exact givesUp_throw _
  · refine (givesUp_chatFor sender m).bind fun chat => (givesUp_store _).bind fun stored => ?_
    exact (givesUp_push _ _).bind fun _ => givesUp_pure _

theorem givesUp_page (user : UserId) (id : ChatId) (spec : PageSpec) :
    GivesUp Http.Hides (page user id spec) :=
  (givesUp_ownChat user id).bind fun _ => givesUp_store _

theorem givesUp_tellOther (chat : Chat) (reader : UserId) (notice : Notice) :
    GivesUp Http.Hides (tellOther chat reader notice) := by
  unfold tellOther
  split
  · exact (givesUp_push _ _).bind fun _ => givesUp_pure _
  · exact givesUp_pure _

theorem givesUp_readChat (reader : UserId) (id : ChatId) :
    GivesUp Http.Hides (readChat reader id) := by
  refine (givesUp_ownChat reader id).bind fun chat => (givesUp_store _).bind fun n => ?_
  split
  · exact (givesUp_tellOther _ _ _).bind fun _ => givesUp_pure _
  · exact givesUp_pure _

theorem givesUp_readMessages (reader : UserId) (id : ChatId) (ids : List MessageId) :
    GivesUp Http.Hides (readMessages reader id ids) := by
  unfold readMessages
  split
  · exact givesUp_throw _
  · refine (givesUp_ownChat reader id).bind fun chat => (givesUp_store _).bind fun marked => ?_
    split
    · exact (givesUp_tellOther _ _ _).bind fun _ => givesUp_pure _
    · exact givesUp_pure _

end Correspondence

/-! ### Requests -/

namespace Http

open Attempt

variable {terms : Terms} {r : Request}

theorem givesUp_content {α : Type} (decode : List UInt8 → Except Json.Fault α) (r : Request) :
    GivesUp Yields (content decode r) := by
  unfold content
  split
  · exact givesUp_throw _
  · split
    · exact givesUp_throw _
    · split
      · exact givesUp_pure _
      · exact givesUp_throw _

theorem givesUp_startSession (terms : Terms) (r : Request) :
    GivesUp Hides (startSession terms r) := by
  refine (givesUp_caller r).bind fun user => GivesUp.bind ?_ fun token => givesUp_pure _
  refine ⟨?_, fun reply => by cases reply <;> trivial⟩
  rintro _ ⟨e, rfl⟩
  exact ⟨_, rfl, _, rfl, ofRefusal_of_internal rfl⟩

theorem givesUp_connect (terms : Terms) (r : Request) : GivesUp Yields (connect terms r) := by
  unfold connect
  split
  · exact givesUp_throw _
  split
  · exact givesUp_throw _
  split
  · exact givesUp_throw _
  · refine ⟨?_, fun reply => ?_⟩
    · rintro _ ⟨e, rfl⟩
      exact ⟨_, rfl, _, rfl, rfl⟩
    · match reply with
      | .error e => trivial
      | .ok none => trivial
      | .ok (some user) => trivial

/-- **Every route gives up** at a failure. -/
theorem givesUp_serve (terms : Terms) (r : Request) (route : Route) :
    GivesUp Yields (serve terms r route) := by
  have hanswer : ∀ {x : Answering Response}, GivesUp Yields x →
      GivesUp Yields (x >>= fun answer => pure (Outcome.respond answer)) :=
    fun h => h.bind fun _ => givesUp_pure _
  have hcaller := givesUp_caller r
  cases route with
  | health => exact ⟨fun _ hfails => hfails.elim, fun _ => trivial⟩
  | startSession => exact hanswer (givesUp_startSession terms r).ofTask
  | connect => exact givesUp_connect terms r
  | swipe =>
    refine hanswer (hcaller.ofTask.bind fun user => (givesUp_content _ r).bind fun request => ?_)
    refine (givesUp_require _ _).bind fun action => ?_
    exact (Pairing.givesUp_decide user request.target action).ofTask.bind fun _ => givesUp_pure _
  | forgetDecisions =>
    exact hanswer (hcaller.bind fun _ => (givesUp_store _).bind fun _ => givesUp_pure _).ofTask
  | partners =>
    exact hanswer (hcaller.bind fun _ => (givesUp_store _).bind fun _ => givesUp_pure _).ofTask
  | chats =>
    exact hanswer (hcaller.bind fun _ => (givesUp_store _).bind fun _ => givesUp_pure _).ofTask
  | page chat =>
    refine hanswer (hcaller.ofTask.bind fun user => (givesUp_require _ _).bind fun id => ?_)
    refine (givesUp_require _ _).bind fun w => (givesUp_require _ _).bind fun spec => ?_
    exact (Correspondence.givesUp_page user id spec).ofTask.bind fun _ => givesUp_pure _
  | readChat =>
    refine hanswer (hcaller.ofTask.bind fun user => (givesUp_content _ r).bind fun request => ?_)
    exact (Correspondence.givesUp_readChat user request.chat).ofTask.bind fun _ => givesUp_pure _
  | send =>
    refine hanswer (hcaller.ofTask.bind fun user => (givesUp_content _ r).bind fun letter => ?_)
    exact (Correspondence.givesUp_send user letter).ofTask.bind fun _ => givesUp_pure _
  | readMessages =>
    refine hanswer (hcaller.ofTask.bind fun user => (givesUp_content _ r).bind fun request => ?_)
    exact (Correspondence.givesUp_readMessages user request.chat request.messages).ofTask.bind
      fun _ => givesUp_pure _

/-- What a request comes to at a failure. -/
def failureOutcome (terms : Terms) (r : Request) (call : Call) : Outcome :=
  finish terms r (.respond (failureAnswer call))

/-- **Every request gives up at every failure**, and comes to the answer for the call. -/
theorem givesUp_handle (terms : Terms) (r : Request) :
    (handle terms r).GivesUp fun call outcome => outcome = failureOutcome terms r call := by
  cases hroute : route? r with
  | none =>
    obtain ⟨answer, he⟩ := handle_of_route?_none terms hroute
    rw [he]
    trivial
  | some route =>
    rw [handle_of_route? hroute]
    refine Flow.GivesUp.bind (P := fun call outcome => outcome = .respond (failureAnswer call))
      ?_ ?_ fun _ => trivial
    · refine Flow.GivesUp.bind (givesUp_serve terms r route) ?_ fun result => ?_
      · rintro call _ ⟨answer, rfl, rfl⟩
        exact ⟨_, rfl, rfl⟩
      · cases result <;> trivial
    · rintro call _ rfl
      exact ⟨_, rfl, rfl⟩

end Http

/-! ### The house -/

namespace Service

/-- **Two lucks differ at most in the reasons for failures.** -/
structure Luck.SameButWhy (luck luck' : Luck) : Prop where
  /-- It is the same time to the store. -/
  now : luck.now = luck'.now
  /-- The clock is looked at at the same time. -/
  delay : luck.delay = luck'.delay
  /-- The store fails or does not. -/
  storeFailure : luck.storeFailure.isSome = luck'.storeFailure.isSome
  /-- The holder of the session tokens fails or does not. -/
  holderFailure : luck.holderFailure.isSome = luck'.holderFailure.isSome
  /-- A failure takes the token out or does not. -/
  tokenLost : luck.tokenLost = luck'.tokenLost
  /-- The authenticator says the same or fails. -/
  bearer : luck.bearer = luck'.bearer ∨ ∃ e e', luck.bearer = .error e ∧ luck'.bearer = .error e'

/-- The connection that a call is for. -/
def found (house : House) : Call → Option ConnectionId
  | .push user _ => house.board.current? user
  | _ => none

/-- The replies to the calls of one request, each with its own luck and its own session token to be
given out. -/
def attend (fresh : Nat → String) (luck : Nat → Luck) : Flow.Server (House × Nat) :=
  fun call s =>
    let (reply, house) := House.serve (fresh s.2) (luck s.2) (found s.1 call) call s.1
    (reply, house, s.2 + 1)

variable {luck luck' : Luck}

/-- Either both fail or none does. -/
theorem isSome_cases {ε : Type} {o o' : Option ε} (h : o.isSome = o'.isSome) :
    (o = none ∧ o' = none) ∨ ∃ e e', o = some e ∧ o' = some e' := by
  cases o <;> cases o' <;> simp_all

/-- **The house replies alike** when the reasons are others. -/
theorem Luck.SameButWhy.serve (h : luck.SameButWhy luck') (fresh : String)
    (found : Option ConnectionId) (call : Call) (house : House) :
    (House.serve fresh luck found call house).2 = (House.serve fresh luck' found call house).2 ∧
      call.SameButWhy (House.serve fresh luck found call house).1
        (House.serve fresh luck' found call house).1 := by
  cases call with
  | store q =>
    simp only [House.serve]
    rcases isSome_cases h.storeFailure with ⟨hnone, hnone'⟩ | ⟨e, e', hsome, hsome'⟩
    · rw [hnone, hnone', h.now]
      exact ⟨rfl, Or.inl rfl⟩
    · rw [hsome, hsome']
      exact ⟨rfl, Or.inr ⟨⟨e, rfl⟩, e', rfl⟩⟩
  | authenticate token =>
    refine ⟨rfl, ?_⟩
    rcases h.bearer with heq | ⟨e, e', he, he'⟩
    · exact Or.inl heq
    · exact Or.inr ⟨⟨e, he⟩, e', he'⟩
  | issue user life =>
    simp only [House.serve, House.issue]
    rcases isSome_cases h.holderFailure with ⟨hnone, hnone'⟩ | ⟨e, e', hsome, hsome'⟩
    · rw [hnone, hnone', h.delay]
      exact ⟨rfl, Or.inl rfl⟩
    · rw [hsome, hsome']
      exact ⟨rfl, Or.inr ⟨⟨e, rfl⟩, e', rfl⟩⟩
  | redeem token =>
    simp only [House.serve, House.redeem]
    rcases isSome_cases h.holderFailure with ⟨hnone, hnone'⟩ | ⟨e, e', hsome, hsome'⟩
    · rw [hnone, hnone', h.delay]
      exact ⟨rfl, Or.inl rfl⟩
    · rw [hsome, hsome', h.tokenLost]
      exact ⟨rfl, Or.inr ⟨⟨e, rfl⟩, e', rfl⟩⟩
  | revoke token =>
    simp only [House.serve, House.revoke]
    rcases isSome_cases h.holderFailure with ⟨hnone, hnone'⟩ | ⟨e, e', hsome, hsome'⟩
    · rw [hnone, hnone']
      exact ⟨rfl, Or.inl rfl⟩
    · rw [hsome, hsome', h.tokenLost]
      exact ⟨rfl, Or.inr ⟨⟨e, rfl⟩, e', rfl⟩⟩
  | push user notice => exact ⟨rfl, Or.inl rfl⟩
  | connected => exact ⟨rfl, Or.inl rfl⟩

theorem attend_sameButWhy {luck luck' : Nat → Luck} (h : ∀ n, (luck n).SameButWhy (luck' n))
    (fresh : Nat → String) : (attend fresh luck).SameButWhy (attend fresh luck') := by
  intro call s
  obtain ⟨hstate, hreply⟩ := (h s.2).serve (fresh s.2) (found s.1 call) call s.1
  exact ⟨congrArg (·, s.2 + 1) hstate, hreply⟩

end Service

/-! ### Requests and failures -/

namespace Http

variable {terms : Terms} {r : Request}

/-- **An answer does not tell why**: it says that the service has failed, unless only its head was
asked for. -/
def TellsNothing (r : Request) (answer : Response) : Prop :=
  answer.status = 500 ∧
    answer.body = if r.method = "HEAD" then .headOfJson
      else .json (Json.writeRecord [("error", Json.writeText "internal error")])

/-- **Reasons for failures stay with the service.** -/
structure Discreet (terms : Terms) (r : Request) : Prop where
  /-- Whatever replies to the calls of the request: if the reasons for failures are others, the
  request comes to the same, and leaves the same behind. -/
  alike : ∀ (σ : Type) (serve serve' : Flow.Server σ), serve.SameButWhy serve' → ∀ s,
    (handle terms r).run serve s = (handle terms r).run serve' s
  /-- In particular this is so when the house replies. -/
  house : ∀ (fresh : Nat → String) (luck luck' : Nat → Service.Luck),
    (∀ n, (luck n).SameButWhy (luck' n)) → ∀ house : Service.House,
    (handle terms r).run (Service.attend fresh luck) (house, 0) =
      (handle terms r).run (Service.attend fresh luck') (house, 0)
  /-- When the store or the authenticator fails, or no session token can be given out, the answer
  says that the service has failed. -/
  failed : ∀ (σ : Type) (serve : Flow.Server σ) (s : σ) (e : Exchange),
    e ∈ (handle terms r).exchanges serve s → e.call.Fails e.reply →
    (∀ token, e.call ≠ .redeem token) →
    ∃ answer, ((handle terms r).run serve s).1 = .respond answer ∧ TellsNothing r answer
  /-- When nobody can say who may use a session token, it is worth nothing. -/
  unverified : ∀ (σ : Type) (serve : Flow.Server σ) (s : σ) (e : Exchange) (token : String),
    e ∈ (handle terms r).exchanges serve s → e.call.Fails e.reply → e.call = .redeem token →
    ∃ answer, ((handle terms r).run serve s).1 = .respond answer ∧ answer.status = 401

theorem failureOutcome_eq (terms : Terms) (r : Request) {call : Call}
    (hcall : ∀ token, call ≠ .redeem token) :
    ∃ answer, failureOutcome terms r call = .respond answer ∧ TellsNothing r answer := by
  have hanswer : failureAnswer call = failure := by
    cases call with
    | redeem token => exact absurd rfl (hcall token)
    | _ => rfl
  unfold failureOutcome finish
  rw [hanswer]
  by_cases hhead : r.method = "HEAD"
  · rw [if_pos hhead]
    exact ⟨_, rfl, rfl, (if_pos hhead).symm⟩
  · rw [if_neg hhead]
    exact ⟨_, rfl, rfl, (if_neg hhead).symm⟩

/-- **Nobody learns from an answer why a part of the service has failed**, nor does the reason make
a difference to anything that is left behind. -/
theorem discreet (terms : Terms) (r : Request) : Discreet terms r := by
  have hgivesUp := givesUp_handle terms r
  have hone : ∀ (call : Call) (outcome outcome' : Outcome),
      outcome = failureOutcome terms r call → outcome' = failureOutcome terms r call →
      outcome = outcome' := fun _ _ _ h h' => h.trans h'.symm
  refine ⟨?_, ?_, ?_, ?_⟩
  · exact fun σ serve serve' hsame s => hgivesUp.run_congr hone hsame s
  · exact fun fresh luck luck' hluck house =>
      hgivesUp.run_congr hone (Service.attend_sameButWhy hluck fresh) (house, 0)
  · intro σ serve s e he hfails hcall
    rw [hgivesUp.result he hfails]
    exact failureOutcome_eq terms r hcall
  · intro σ serve s e token he hfails hcall
    rw [hgivesUp.result he hfails, hcall]
    exact finish_respond terms r (.ofRefusal .unverifiedSession)

end Http

end Rendezvous
