import Rendezvous.Proofs.Service.Contract

/-!
# The contract of the service

Every request that the service answers keeps to one contract: `Http.Permitted` says which calls it
may make after which past, and `Http.Rightful` what it may come to (`Http.handle_obeys`).

Two kinds of requests deal with session tokens, and they are looked at call by call. A request for a
token asks who makes it, then for a token for this user, and nothing else (`Http.settle_start`). A
request for a connection makes a single call, which uses the token up, and it makes this call only
if the request is *admissible*: nothing else stands against it (`Http.settle_connect`). No other
request asks for a token, uses one up or is promised a connection.
-/

namespace Rendezvous.Http

variable {terms : Terms} {r : Request}

/-! ### The way of a request to its route -/

/-- The route by which a request is answered, unless it is turned away before. -/
def route? (r : Request) : Option Route :=
  if Cors.isPreflight r then none
  else (Route.ofPath? r.path).filter fun route => route.verb.admits r.method

/-- What is done to the outcome of a route before the request is answered. -/
def finish (terms : Terms) (r : Request) (outcome : Outcome) : Outcome :=
  (if r.method = "HEAD" then outcome.mapAnswer Response.headOnly else outcome).mapAnswer
    (Cors.mark terms.sharing r)

/-- A request without a route is answered at once, without a call. -/
theorem handle_of_route?_none (terms : Terms) (h : route? r = none) :
    ∃ answer, handle terms r = .done (.respond answer) := by
  unfold route? at h
  unfold handle answerRoute
  split at h
  · next hpre => exact ⟨_, if_pos hpre⟩
  · next hpre =>
    rw [if_neg hpre]
    cases hpath : Route.ofPath? r.path with
    | none => exact ⟨_, rfl⟩
    | some route =>
      have hverb : route.verb.admits r.method = false := by simpa [hpath] using h
      simp only [hverb]
      exact ⟨_, rfl⟩

/-- A request with a route is answered by it. -/
theorem handle_of_route? {route : Route} (h : route? r = some route) :
    handle terms r = settle (serve terms r route) >>= fun outcome =>
      .done (finish terms r outcome) := by
  unfold route? at h
  unfold handle answerRoute
  split at h
  · exact absurd h (by simp)
  · next hpre =>
    obtain ⟨hpath, hverb⟩ := Option.filter_eq_some_iff.1 h
    rw [if_neg hpre, hpath]
    simp only [hverb, if_true]
    generalize settle (serve terms r route) = flow
    induction flow with
    | done outcome => rfl
    | ask call next ih => exact congrArg (Flow.ask call) (funext ih)

/-- A route that has but one method is asked with this one. -/
theorem method_of_route? (h : route? r = some .startSession) : r.method = "POST" := by
  unfold route? at h
  split at h
  · exact absurd h (by simp)
  · simpa [Verb.admits, Route.verb, Verb.methods] using (Option.filter_eq_some_iff.1 h).2

@[simp] theorem finish_promote (user : UserId) (token : String) :
    finish terms r (.promote user token) = .promote user token := by
  unfold finish
  split <;> rfl

/-- What is no promise of a connection does not become one, and an answer keeps its status. -/
theorem finish_respond (terms : Terms) (r : Request) (answer : Response) :
    ∃ answer', finish terms r (.respond answer) = .respond answer' ∧
      answer'.status = answer.status := by
  unfold finish
  split <;> exact ⟨_, rfl, rfl⟩

/-! ### The contract -/

/-- The answer that brings a session token. -/
def tokenText (token : String) : String :=
  Json.writeRecord [("session_token", Json.writeText token)]

/-- **Nothing stands against a connection** for the owner of a session token. -/
structure Admissible (terms : Terms) (r : Request) (token : String) : Prop where
  /-- The request is one for a connection. -/
  route : route? r = some .connect
  /-- It can be promoted. -/
  upgrade : upgradeObjection? r = none
  /-- Its page may connect. -/
  origin : mayConnect terms.connectionOrigins (r.text? "origin") = true
  /-- It brings the token. -/
  token : sessionToken? r = some token

/-- The request has nothing to do with session tokens. -/
def IsPlain (r : Request) : Prop :=
  route? r ≠ some .startSession ∧ route? r ≠ some .connect

/-- **The calls that a request may make** after its past. -/
inductive Permitted (terms : Terms) (r : Request) : List Exchange → Call → Prop where
  /-- Who makes the request? -/
  | authenticate {bearer : String} (hbearer : bearer? r = some bearer) :
      Permitted terms r [] (.authenticate bearer)
  /-- A session token for the user who was named. -/
  | issue {bearer : String} {user : UserId} (hroute : route? r = some .startSession)
      (hbearer : bearer? r = some bearer) :
      Permitted terms r [⟨.authenticate bearer, .ok (some user)⟩] (.issue user terms.sessionLife)
  /-- Who may use the session token that the request brings? -/
  | redeem {token : String} (hadmissible : Admissible terms r token) :
      Permitted terms r [] (.redeem token)
  /-- Anything that is asked of the store. -/
  | store (hplain : IsPlain r) (past : List Exchange) (q : StoreRequest) :
      Permitted terms r past (.store q)
  /-- A notice that is backed. -/
  | push (hplain : IsPlain r) {past : List Exchange} {user : UserId} {notice : Notice}
      (hbacked : Backed past user notice) : Permitted terms r past (.push user notice)
  /-- How many users are connected? -/
  | connected (hplain : IsPlain r) (past : List Exchange) : Permitted terms r past .connected

/-- **What a request may come to** after its past. -/
structure Rightful (r : Request) (past : List Exchange) (outcome : Outcome) : Prop where
  /-- A connection is promised for a token that was just used up, and to its owner. -/
  promoted : ∀ user token, outcome = .promote user token →
    past = [⟨.redeem token, .ok (some user)⟩]
  /-- Who has used a token up is promised a connection. -/
  redeemed : ∀ user token, route? r = some .connect →
    past = [⟨.redeem token, .ok (some user)⟩] → outcome = .promote user token
  /-- A token that was given out is what the request is answered by. -/
  issued : ∀ user life token rest, route? r = some .startSession →
    past = ⟨.issue user life, .ok token⟩ :: rest →
    ∃ headers, outcome = .respond ⟨200, .json (tokenText token), headers⟩

/-- A request may be answered whenever no token was given out to it and none was used up by it. -/
theorem rightful_respond {past : List Exchange} (answer : Response)
    (hredeemed : route? r = some .connect → ∀ user token, past ≠ [⟨.redeem token, .ok (some user)⟩])
    (hissued : route? r = some .startSession → ∀ user life token rest,
      past ≠ ⟨.issue user life, .ok token⟩ :: rest) :
    Rightful r past (finish terms r (.respond answer)) := by
  obtain ⟨answer', he, -⟩ := finish_respond terms r answer
  rw [he]
  exact ⟨fun _ _ h => absurd h (by simp),
    fun user token hroute h => absurd h (hredeemed hroute user token),
    fun user life token rest hroute h => absurd h (hissued hroute user life token rest)⟩

/-! ### Requests for a session token -/

/-- **A request for a session token**, call by call. -/
theorem settle_start (terms : Terms) (r : Request) :
    settle (serve terms r .startSession) =
      match bearer? r with
      | none => .done (.respond (.ofRefusal .noBearer))
      | some bearer => .ask (.authenticate bearer) fun
        | .ok (some user) => .ask (.issue user terms.sessionLife) fun
          | .ok token => .done (.respond (.json 200 (tokenText token)))
          | .error e => .done (.respond (.ofRefusal (.ofSession e)))
        | .ok none => .done (.respond (.ofRefusal .unknownBearer))
        | .error e => .done (.respond (.ofRefusal (.ofStore e))) := by
  unfold serve startSession caller
  cases bearer? r with
  | none => rfl
  | some bearer =>
    refine congrArg (Flow.ask (.authenticate bearer)) (funext fun reply => ?_)
    match reply with
    | .error e => rfl
    | .ok none => rfl
    | .ok (some user) =>
      refine congrArg (Flow.ask (.issue user terms.sessionLife)) (funext fun reply => ?_)
      cases reply <;> rfl

theorem obeys_start (hroute : route? r = some .startSession) :
    (handle terms r).Obeys (Permitted terms r) (Rightful r) [] := by
  have hconnect : route? r ≠ some .connect := by simp [hroute]
  have hrespond : ∀ past answer, (∀ user life token rest,
      past ≠ ⟨.issue user life, .ok token⟩ :: rest) →
      Rightful r past (finish terms r (.respond answer)) :=
    fun _ answer hno => rightful_respond answer (fun h => absurd h hconnect) fun _ => hno
  rw [handle_of_route? hroute, settle_start]
  cases hbearer : bearer? r with
  | none => exact hrespond [] _ (by simp)
  | some bearer =>
    refine ⟨.authenticate hbearer, fun reply => ?_⟩
    match reply with
    | .error e => exact hrespond _ _ (by simp)
    | .ok none => exact hrespond _ _ (by simp)
    | .ok (some user) =>
      refine ⟨.issue hroute hbearer, fun reply => ?_⟩
      cases reply with
      | error e => exact hrespond _ _ (by simp)
      | ok token =>
        have he : finish terms r (.respond (.json 200 (tokenText token))) =
            .respond (Cors.mark terms.sharing r (.json 200 (tokenText token))) := by
          simp [finish, method_of_route? hroute, Outcome.mapAnswer]
        change Rightful r _ (finish terms r (.respond (.json 200 (tokenText token))))
        rw [he]
        refine ⟨fun _ _ h => absurd h (by simp), fun _ _ h => absurd h hconnect, ?_⟩
        intro user' life token' rest _ hpast
        obtain ⟨⟨-, rfl⟩, -⟩ : (_ ∧ token = token') ∧ _ := by simpa using hpast
        exact ⟨_, rfl⟩

/-! ### Requests for a connection -/

/-- **A request for a connection** is turned away at once, or makes one call. -/
theorem settle_connect (terms : Terms) (r : Request) :
    settle (serve terms r .connect) =
      match upgradeObjection? r with
      | some answer => .done (.respond answer)
      | none =>
        if mayConnect terms.connectionOrigins (r.text? "origin") then
          match sessionToken? r with
          | none => .done (.respond (.ofRefusal .noSession))
          | some token => .ask (.redeem token) fun
            | .ok (some user) => .done (.promote user token)
            | .ok none => .done (.respond (.ofRefusal .deadSession))
            | .error _ => .done (.respond (.ofRefusal .unverifiedSession))
        else .done (.respond (.ofRefusal .foreignOrigin)) := by
  unfold serve connect
  cases upgradeObjection? r with
  | some answer => rfl
  | none =>
    cases mayConnect terms.connectionOrigins (r.text? "origin") with
    | false => rfl
    | true =>
      cases sessionToken? r with
      | none => rfl
      | some token =>
        refine congrArg (Flow.ask (.redeem token)) (funext fun reply => ?_)
        match reply with
        | .error e => rfl
        | .ok none => rfl
        | .ok (some user) => rfl

/-- **A request for a connection is refused** with this status: its page may not connect, or it
brings no session token. -/
def Refused (terms : Terms) (r : Request) (status : Nat) : Prop :=
  route? r = some .connect ∧ upgradeObjection? r = none ∧
    ((mayConnect terms.connectionOrigins (r.text? "origin") = false ∧ status = 403) ∨
      (mayConnect terms.connectionOrigins (r.text? "origin") = true ∧ sessionToken? r = none ∧
        status = 401))

/-- **A request that is refused makes no call.** -/
theorem handle_of_refused {status : Nat} (h : Refused terms r status) :
    ∃ answer, handle terms r = .done (.respond answer) ∧ answer.status = status := by
  obtain ⟨hroute, hupgrade, ⟨horigin, rfl⟩ | ⟨horigin, htoken, rfl⟩⟩ := h
  · obtain ⟨answer, he, hstatus⟩ := finish_respond terms r (.ofRefusal .foreignOrigin)
    refine ⟨answer, ?_, hstatus⟩
    rw [handle_of_route? hroute, settle_connect, hupgrade]
    simp only [horigin]
    exact congrArg Flow.done he
  · obtain ⟨answer, he, hstatus⟩ := finish_respond terms r (.ofRefusal .noSession)
    refine ⟨answer, ?_, hstatus⟩
    rw [handle_of_route? hroute, settle_connect, hupgrade]
    simp only [horigin, htoken]
    exact congrArg Flow.done he

/-- **An admissible request uses its token up**, and is promised a connection if somebody may use
it. -/
theorem handle_of_admissible {token : String} (h : Admissible terms r token) :
    ∃ next, handle terms r = .ask (.redeem token) next ∧
      ∀ user, next (.ok (some user)) = .done (.promote user token) := by
  rw [handle_of_route? h.route, settle_connect, h.upgrade]
  simp only [h.origin, h.token]
  refine ⟨_, rfl, fun user => ?_⟩
  exact congrArg Flow.done (finish_promote user token)

theorem obeys_connect (hroute : route? r = some .connect) :
    (handle terms r).Obeys (Permitted terms r) (Rightful r) [] := by
  have hstart : route? r ≠ some .startSession := by simp [hroute]
  have hrespond : ∀ past answer, (∀ user token, past ≠ [⟨.redeem token, .ok (some user)⟩]) →
      Rightful r past (finish terms r (.respond answer)) :=
    fun _ answer hno => rightful_respond answer (fun _ => hno) fun h => absurd h hstart
  rw [handle_of_route? hroute, settle_connect]
  cases hupgrade : upgradeObjection? r with
  | some answer => exact hrespond [] _ (by simp)
  | none =>
    cases horigin : mayConnect terms.connectionOrigins (r.text? "origin") with
    | false => exact hrespond [] _ (by simp)
    | true =>
      cases htoken : sessionToken? r with
      | none => exact hrespond [] _ (by simp)
      | some token =>
        refine ⟨.redeem ⟨hroute, hupgrade, horigin, htoken⟩, fun reply => ?_⟩
        match reply with
        | .error e => exact hrespond _ _ (by simp)
        | .ok none => exact hrespond _ _ (by simp)
        | .ok (some user) =>
          change Rightful r _ (finish terms r (.promote user token))
          rw [finish_promote]
          refine ⟨?_, ?_, fun _ _ _ _ h => absurd h hstart⟩
          · intro user' token' h
            obtain ⟨rfl, rfl⟩ := Outcome.promote.inj h
            rfl
          · intro user' token' _ h
            obtain ⟨rfl, rfl⟩ : token = token' ∧ user = user' := by simpa using h
            rfl

/-! ### All other requests -/

theorem talks (hplain : IsPlain r) : Talks (Permitted terms r) :=
  ⟨.store hplain, fun _ _ _ h => .push hplain h⟩

/-- Who makes the request is found out by one question. -/
theorem obeys_caller {ok : List Exchange → Call → Prop} {past : List Exchange}
    (h : ∀ bearer, bearer? r = some bearer → ok past (.authenticate bearer)) :
    Attempt.Obeys ok (fun _ _ => True) (caller r) past := by
  unfold caller
  cases hbearer : bearer? r with
  | none => exact Attempt.obeys_throw _
  | some bearer =>
    refine ⟨h bearer hbearer, fun reply => ?_⟩
    match reply with
    | .error e => exact Attempt.obeys_throw _
    | .ok none => exact Attempt.obeys_throw _
    | .ok (some user) => exact Attempt.obeys_pure trivial

/-- It is the first thing that is asked. -/
theorem obeys_caller_first :
    Attempt.Obeys (Permitted terms r) (fun _ _ => True) (caller r) [] :=
  obeys_caller fun _ => .authenticate

theorem obeys_content {α : Type} {decode : List UInt8 → Except Json.Fault α}
    {past : List Exchange} :
    Attempt.Obeys (Permitted terms r) (fun _ _ => True) (content decode r) past := by
  unfold content
  split
  · exact Attempt.obeys_throw _
  · split
    · exact Attempt.obeys_throw _
    · split
      · exact Attempt.obeys_pure trivial
      · exact Attempt.obeys_throw _

/-- A request that begins by asking who makes it. -/
theorem obeys_of_caller {α : Type} {f : UserId → Answering α}
    (h : ∀ past user, Attempt.Obeys (Permitted terms r) (fun _ _ => True) (f user) past) :
    Attempt.Obeys (Permitted terms r) (fun _ _ => True) (Answering.ofTask (caller r) >>= f) [] :=
  obeys_caller_first.ofTask.bind fun past user _ => h past user

/-- **What the other routes do.** -/
theorem obeys_serve {route : Route} (hroute : route? r = some route) (hplain : IsPlain r) :
    Attempt.Obeys (Permitted terms r) (fun _ outcome => ∃ answer, outcome = Outcome.respond answer)
      (serve terms r route) [] := by
  have htalks : Talks (Permitted terms r) := talks hplain
  -- each route comes to an answer, and what it does before is a task of the user who asks
  have hanswer : ∀ {x : Answering Response} {past : List Exchange},
      Attempt.Obeys (Permitted terms r) (fun _ _ => True) x past →
      Attempt.Obeys (Permitted terms r) (fun _ outcome => ∃ answer, outcome = Outcome.respond answer)
        (x >>= fun answer => pure (.respond answer)) past :=
    fun h => h.bind fun _ answer _ => Attempt.obeys_pure ⟨answer, rfl⟩
  cases route with
  | health => exact ⟨.connected hplain _, fun n => Attempt.obeys_pure ⟨_, rfl⟩⟩
  | startSession => exact absurd hroute hplain.1
  | connect => exact absurd hroute hplain.2
  | swipe =>
    refine hanswer (obeys_of_caller fun _ user => obeys_content.bind fun _ request _ => ?_)
    refine Attempt.Obeys.bind (Q := fun _ _ => True)
      (Attempt.obeys_require fun _ _ => trivial) fun _ action _ => ?_
    exact (htalks.obeys_decide user request.target action).ofTask.bind
      fun _ _ _ => Attempt.obeys_pure trivial
  | forgetDecisions =>
    refine hanswer (Attempt.Obeys.ofTask (obeys_caller_first.bind fun _ user _ => ?_))
    exact (htalks.obeys_store _).bind fun _ _ _ => Attempt.obeys_pure trivial
  | partners =>
    refine hanswer (Attempt.Obeys.ofTask (obeys_caller_first.bind fun _ user _ => ?_))
    exact (htalks.obeys_store _).bind fun _ _ _ => Attempt.obeys_pure trivial
  | chats =>
    refine hanswer (Attempt.Obeys.ofTask (obeys_caller_first.bind fun _ user _ => ?_))
    exact (htalks.obeys_store _).bind fun _ _ _ => Attempt.obeys_pure trivial
  | page chat =>
    refine hanswer (obeys_of_caller fun _ user => ?_)
    refine Attempt.Obeys.bind (Q := fun _ _ => True)
      (Attempt.obeys_require fun _ _ => trivial) fun _ id _ => ?_
    refine Attempt.Obeys.bind (Q := fun _ _ => True)
      (Attempt.obeys_require fun _ _ => trivial) fun _ query _ => ?_
    refine Attempt.Obeys.bind (Q := fun _ _ => True)
      (Attempt.obeys_require fun _ _ => trivial) fun _ spec _ => ?_
    exact (htalks.obeys_page user id spec).ofTask.bind fun _ _ _ => Attempt.obeys_pure trivial
  | readChat =>
    refine hanswer (obeys_of_caller fun _ user => obeys_content.bind fun _ request _ => ?_)
    exact (htalks.obeys_readChat user request.chat).ofTask.bind
      fun _ _ _ => Attempt.obeys_pure trivial
  | send =>
    refine hanswer (obeys_of_caller fun _ user => obeys_content.bind fun _ letter _ => ?_)
    exact (htalks.obeys_send user letter).ofTask.bind fun _ _ _ => Attempt.obeys_pure trivial
  | readMessages =>
    refine hanswer (obeys_of_caller fun _ user => obeys_content.bind fun _ request _ => ?_)
    exact (htalks.obeys_readMessages user request.chat request.messages).ofTask.bind
      fun _ _ _ => Attempt.obeys_pure trivial

theorem obeys_plain {route : Route} (hroute : route? r = some route) (hplain : IsPlain r) :
    (handle terms r).Obeys (Permitted terms r) (Rightful r) [] := by
  rw [handle_of_route? hroute]
  refine Flow.Obeys.bind (Q := fun _ outcome => ∃ answer, outcome = Outcome.respond answer) ?_ ?_
  · refine Flow.Obeys.bind (obeys_serve hroute hplain) fun past result hresult => ?_
    cases result with
    | ok outcome => exact hresult outcome rfl
    | error answer => exact ⟨answer, rfl⟩
  · rintro past outcome ⟨answer, rfl⟩
    exact rightful_respond answer (fun h => absurd h hplain.2) fun h => absurd h hplain.1

/-- **Every request keeps to the contract**, whatever it is and whatever the replies are. -/
theorem handle_obeys (terms : Terms) (r : Request) :
    (handle terms r).Obeys (Permitted terms r) (Rightful r) [] := by
  cases hroute : route? r with
  | none =>
    obtain ⟨answer, he⟩ := handle_of_route?_none terms hroute
    rw [he]
    exact ⟨fun _ _ h => absurd h (by simp), fun _ _ h => absurd h (by simp [hroute]),
      fun _ _ _ _ h => absurd h (by simp [hroute])⟩
  | some route =>
    by_cases hstart : route = .startSession
    · exact obeys_start (hstart ▸ hroute)
    · by_cases hconnect : route = .connect
      · exact obeys_connect (hconnect ▸ hroute)
      · exact obeys_plain hroute ⟨by simp [hroute, hstart], by simp [hroute, hconnect]⟩

end Rendezvous.Http
