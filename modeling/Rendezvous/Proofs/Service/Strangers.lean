import Rendezvous.Proofs.Service.Course

/-!
# Strangers

Most routes ask who makes the request, and they ask this before they look at anything else
(`Http.asksWho_handle`): before the path, the query and the body make any difference, and before any
other part of the service is called. So whoever does not say who it is, or says what nobody can make
anything of, is turned away with the same status whatever else the request holds, and leaves no
trace: not in the tables, not among the session tokens, not at the switchboard and in no queue
(`Http.turnedAway`).

While other requests are at work at the same time this is true move by move. As long as the
authenticator has not named a user to a request, nothing that is done for it changes the house
(`Service.Course.house_of_unnamed`).
-/

namespace Rendezvous

/-! ### Asking who it is -/

namespace Flow

variable {α β : Type} {r : Http.Request} {out : Refusal → α} {x : Flow α}

/-- **A flow asks first who makes the request**, and is over at once if nobody is known to. What it
comes to then depends on the refusal. -/
structure AsksWho (r : Http.Request) (out : Refusal → α) (x : Flow α) : Prop where
  /-- Without a bearer token it does not even ask. -/
  silent : Http.bearer? r = none → x = .done (out .noBearer)
  /-- With one it asks about this token, and goes on with nothing but a user. -/
  asked : ∀ token, Http.bearer? r = some token →
    ∃ next, x = .ask (.authenticate token) next ∧ next (.ok none) = .done (out .unknownBearer) ∧
      ∀ e, next (.error e) = .done (out (.ofStore e))

/-- Whatever comes after the question comes after it, if it is nothing when there is a refusal. -/
theorem AsksWho.bind (h : x.AsksWho r out) {out' : Refusal → β} {f : α → Flow β}
    (hf : ∀ refusal, f (out refusal) = .done (out' refusal)) : (x >>= f).AsksWho r out' where
  silent hbearer := by
    rw [h.silent hbearer, done_bind, hf]
  asked token hbearer := by
    obtain ⟨next, rfl, hunknown, hfailed⟩ := h.asked token hbearer
    refine ⟨fun reply => next reply >>= f, rfl, ?_, fun e => ?_⟩
    · simp only [hunknown, done_bind, hf]
    · simp only [hfailed, done_bind, hf]

end Flow

namespace Attempt

variable {ε α β : Type} {r : Http.Request} {fail : Refusal → ε}

/-- **A flow that may fail asks first who makes the request**, and fails at once if nobody is known
to. -/
def AsksWho (r : Http.Request) (fail : Refusal → ε) (x : ExceptT ε Flow α) : Prop :=
  x.run.AsksWho r fun refusal => .error (fail refusal)

theorem asksWho_caller (r : Http.Request) : AsksWho r id (Http.caller r) := by
  unfold Http.caller
  constructor
  · intro hbearer
    rw [hbearer]
    rfl
  · intro token hbearer
    rw [hbearer]
    exact ⟨_, rfl, rfl, fun _ => rfl⟩

theorem AsksWho.bind {x : ExceptT ε Flow α} (h : AsksWho r fail x) (f : α → ExceptT ε Flow β) :
    AsksWho r fail (x >>= f) :=
  Flow.AsksWho.bind h fun _ => rfl

theorem AsksWho.ofTask {task : Task α} (h : AsksWho r id task) :
    AsksWho r Http.Response.ofRefusal (Http.Answering.ofTask task) :=
  Flow.AsksWho.bind h fun _ => rfl

end Attempt

namespace Http

/-- **A route that asks who makes the request.** Anybody may ask whether the service is well, and
for a connection the session token speaks. -/
def Route.isGuarded : Route → Bool
  | .health => false
  | .connect => false
  | _ => true

variable {terms : Terms} {r : Request} {route : Route}

theorem asksWho_serve (terms : Terms) (r : Request) (hguarded : route.isGuarded = true) :
    Attempt.AsksWho r .ofRefusal (serve terms r route) := by
  have hcaller := Attempt.asksWho_caller r
  cases route with
  | health => exact absurd hguarded (by decide)
  | connect => exact absurd hguarded (by decide)
  | startSession => exact (hcaller.bind _).ofTask.bind _
  | forgetDecisions => exact (hcaller.bind _).ofTask.bind _
  | partners => exact (hcaller.bind _).ofTask.bind _
  | chats => exact (hcaller.bind _).ofTask.bind _
  | swipe => exact (hcaller.ofTask.bind _).bind _
  | page chat => exact (hcaller.ofTask.bind _).bind _
  | readChat => exact (hcaller.ofTask.bind _).bind _
  | send => exact (hcaller.ofTask.bind _).bind _
  | readMessages => exact (hcaller.ofTask.bind _).bind _

/-- **Every request to a guarded route asks first.** -/
theorem asksWho_handle (terms : Terms) (hroute : route? r = some route)
    (hguarded : route.isGuarded = true) :
    (handle terms r).AsksWho r fun refusal => finish terms r (.respond (.ofRefusal refusal)) := by
  rw [handle_of_route? hroute]
  have hsettle : (settle (serve terms r route)).AsksWho r fun refusal =>
      .respond (.ofRefusal refusal) :=
    Flow.AsksWho.bind (asksWho_serve terms r hguarded) fun _ => rfl
  exact hsettle.bind fun _ => rfl

/-- A request with the path of a route and a method that the route has goes to this route. -/
theorem route?_eq_some (hpath : Route.ofPath? r.path = some route)
    (hmethod : route.verb.admits r.method = true) : route? r = some route := by
  have hpreflight : Cors.isPreflight r = false := by
    refine Bool.eq_false_iff.2 fun hpre => ?_
    have hoptions : r.method = "OPTIONS" := by simpa [Cors.isPreflight] using hpre
    rw [hoptions] at hmethod
    cases hverb : route.verb with
    | get => exact absurd (hverb ▸ hmethod) (by decide)
    | post => exact absurd (hverb ▸ hmethod) (by decide)
    | delete => exact absurd (hverb ▸ hmethod) (by decide)
  simp [route?, hpreflight, hpath, hmethod]

/-! ### Who does not say who it is -/

/-- **A request does not say who makes it**: it has no header for this that is a text, or the text
is not the word for a bearer with a token behind it. -/
def Unidentified (r : Request) : Prop :=
  ∀ token, r.text? "authorization" = some ("Bearer " ++ token) → isAllBlank token = true

/-- Trimming leaves an empty text exactly of a text that holds nothing but blanks. -/
theorem isEmpty_trim_iff {s : String} : (trim s).isEmpty = true ↔ isAllBlank s = true := by
  rw [isAllBlank, ← trimChars_eq_nil_iff]
  simp [trim]

/-- A text that begins with the word for a bearer is this word and what is left of the text. -/
theorem append_of_isPrefixOf {value : String}
    (h : "Bearer ".toList.isPrefixOf value.toList = true) :
    value = "Bearer " ++ String.ofList (value.toList.drop 7) := by
  obtain ⟨token, htoken⟩ := List.isPrefixOf_iff_prefix.1 h
  rw [← String.toList_inj, String.toList_append, String.toList_ofList, ← htoken]
  simp

/-- **There is no bearer token** exactly if the request does not say who makes it. -/
theorem bearer?_eq_none_iff : bearer? r = none ↔ Unidentified r := by
  unfold bearer? Unidentified
  cases r.text? "authorization" with
  | none => simp
  | some value =>
    dsimp only
    split
    · next hprefix =>
      have hvalue := append_of_isPrefixOf hprefix
      have hfilter :
          (some (trim (String.ofList (value.toList.drop 7)))).filter (!·.isEmpty) = none ↔
            isAllBlank (String.ofList (value.toList.drop 7)) = true := by
        rw [Option.filter_eq_none_iff, ← isEmpty_trim_iff]
        simp
      rw [hfilter]
      constructor
      · intro hblank token he
        have htoken : "Bearer " ++ token = "Bearer " ++ String.ofList (value.toList.drop 7) :=
          (Option.some.inj he).symm.trans hvalue
        exact String.append_right_inj _ |>.1 htoken ▸ hblank
      · exact fun h => h _ (congrArg some hvalue)
    · next hprefix =>
      refine ⟨fun _ token he => absurd ?_ hprefix, fun _ => rfl⟩
      obtain rfl := Option.some.inj he
      exact List.isPrefixOf_iff_prefix.2 ⟨token.toList, (String.toList_append ..).symm⟩

end Http

/-! ### Move by move -/

/-- **A user was named** to a request. -/
def Named (past : List Exchange) : Prop :=
  ∃ token user, (⟨.authenticate token, .ok (some user)⟩ : Exchange) ∈ past

/-- **The only call of a request to which nobody was named** is the question who makes it. -/
def AsksOnly (past : List Exchange) (call : Call) : Prop :=
  Named past ∨ ∃ token, call = .authenticate token

namespace Flow

variable {α : Type} {x : Flow α} {past : List Exchange}

/-- What may be done after any past that goes on from this one may be done. -/
theorem obeys_of_forall {ok : List Exchange → Call → Prop}
    (h : ∀ past' call, past <:+ past' → ok past' call) : x.Obeys ok (fun _ _ => True) past := by
  induction x generalizing past with
  | done a => trivial
  | ask call next ih =>
    refine ⟨h past call (List.suffix_refl _), fun reply => ih reply fun past' call' hpast => ?_⟩
    exact h past' call' ((List.suffix_cons _ _).trans hpast)

/-- A flow that asks first makes no other call until a user was named. -/
theorem AsksWho.obeys {r : Http.Request} {out : Refusal → α} (h : x.AsksWho r out) :
    x.Obeys AsksOnly (fun _ _ => True) [] := by
  cases hbearer : Http.bearer? r with
  | none =>
    rw [h.silent hbearer]
    trivial
  | some token =>
    obtain ⟨next, rfl, hunknown, hfailed⟩ := h.asked token hbearer
    refine ⟨Or.inr ⟨token, rfl⟩, fun reply => ?_⟩
    match reply with
    | .error e =>
      rw [hfailed]
      trivial
    | .ok none =>
      rw [hunknown]
      trivial
    | .ok (some user) =>
      exact obeys_of_forall fun past' call hpast =>
        Or.inl ⟨token, user, hpast.subset List.mem_cons_self⟩

end Flow

namespace Service.Course

variable {c : Course} {k n : Nat} {luck : Luck} {v : Visit} {r : Http.Request} {route : Http.Route}

/-- **What is left of a request to a guarded route** makes no call but the question who makes it,
as long as nobody was named. -/
theorem obeys_asksOnly (hroute : Http.route? r = some route) (hguarded : route.isGuarded = true)
    (hv : (c.scene k).visits[n]? = some v) (hcause : v.cause = .request r) :
    v.flow.Obeys AsksOnly (fun _ _ => True) v.past := by
  refine visit_induction
    (fun _ v => v.cause = .request r → v.flow.Obeys AsksOnly (fun _ _ => True) v.past)
    ?_ (fun _ _ hv => hv) (fun _ _ _ _ hv => hv) ?_ (fun _ _ _ _ _ _ hv => hv) hv hcause
  · rintro k cause - rfl
    have hasks : ((Cause.request r).flow c.terms).AsksWho r _ :=
      (Http.asksWho_handle c.terms hroute hguarded).bind fun _ => rfl
    exact hasks.obeys
  · intro k luck v e next _ hflow hv hcause
    have hobeys := hv hcause
    rw [hflow] at hobeys
    exact hobeys.2 e.reply

/-- **As long as nobody was named to it**, nothing that is done for a request to a guarded route
changes the house, whatever else is going on. -/
theorem house_of_unnamed (hroute : Http.route? r = some route) (hguarded : route.isGuarded = true)
    (hv : (c.scene k).visits[n]? = some v) (hcause : v.cause = .request r)
    (hmove : c.move k = .turn n luck) (hunnamed : ¬Named v.past) :
    (c.scene (k + 1)).house = (c.scene k).house := by
  have hobeys := obeys_asksOnly hroute hguarded hv hcause
  have heffect := c.effect k
  rw [hmove] at heffect
  generalize c.scene (k + 1) = s' at heffect ⊢
  cases heffect with
  | idle => rfl
  | sought => rfl
  | @answered _ _ v' call next hv' hseeks hflow =>
    obtain rfl : v = v' := Option.some.inj (hv.symm.trans hv')
    rw [hflow] at hobeys
    rcases hobeys.1 with hnamed | ⟨token, rfl⟩
    · exact absurd hnamed hunnamed
    · rfl

end Service.Course

/-! ### What becomes of strangers -/

namespace Flow.AsksWho

variable {α : Type} {r : Http.Request} {out : Refusal → α} {x : Flow α} (h : x.AsksWho r out)
variable (fresh : String) {luck : Service.Luck} (found : Option ConnectionId)
variable (house : Service.House)

include h

theorem run_silent (hbearer : Http.bearer? r = none) :
    x.run (Service.House.serve fresh luck found) house = (out .noBearer, house) := by
  rw [h.silent hbearer]
  rfl

/-- The authenticator is asked, which changes nothing, and knows nobody. -/
theorem run_unknown (hbearer : Http.bearer? r ≠ none) (hluck : luck.bearer = .ok none) :
    x.run (Service.House.serve fresh luck found) house = (out .unknownBearer, house) := by
  obtain ⟨token, htoken⟩ := Option.ne_none_iff_exists'.1 hbearer
  obtain ⟨next, rfl, hunknown, -⟩ := h.asked token htoken
  change (next luck.bearer).run (Service.House.serve fresh luck found) house = _
  rw [hluck, hunknown]
  rfl

/-- The authenticator is asked and fails. -/
theorem run_failed (hbearer : Http.bearer? r ≠ none) {e : StoreError}
    (hluck : luck.bearer = .error e) :
    x.run (Service.House.serve fresh luck found) house = (out (.ofStore e), house) := by
  obtain ⟨token, htoken⟩ := Option.ne_none_iff_exists'.1 hbearer
  obtain ⟨next, rfl, -, hfailed⟩ := h.asked token htoken
  change (next luck.bearer).run (Service.House.serve fresh luck found) house = _
  rw [hluck, hfailed]
  rfl

end Flow.AsksWho

namespace Http

variable {terms : Terms} {r : Request} {route : Route}

/-- **A request comes to an answer** with this status, and leaves no trace in the house. -/
def LeavesNoTrace (terms : Terms) (r : Request) (luck : Service.Luck) (status : Nat) : Prop :=
  ∀ (fresh : String) (found : Option ConnectionId) (house : Service.House), ∃ answer,
    (handle terms r).run (Service.House.serve fresh luck found) house = (.respond answer, house) ∧
      answer.status = status

/-- **Strangers are turned away**, and leave no trace. -/
structure TurnedAway (terms : Terms) (r : Request) : Prop where
  /-- Who does not say who it is gets the status for this, and no call is made at all. -/
  unidentified : Unidentified r →
    ∃ answer, handle terms r = .done (.respond answer) ∧ answer.status = 401
  /-- Who has a token that nobody goes by gets this status as well. -/
  unknown : ∀ luck : Service.Luck, luck.bearer = .ok none → LeavesNoTrace terms r luck 401
  /-- If nobody can say who goes by the token, the service has failed. -/
  failed : ∀ (luck : Service.Luck) (e : StoreError), luck.bearer = .error e → ¬Unidentified r →
    LeavesNoTrace terms r luck 500
  /-- While other things are going on, nothing that is done for a request changes the house before
  a user was named to it. -/
  unnamed : ∀ (c : Service.Course) (k n : Nat) (luck : Service.Luck) (v : Service.Visit),
    (c.scene k).visits[n]? = some v → v.cause = .request r → c.move k = .turn n luck →
    ¬Named v.past → (c.scene (k + 1)).house = (c.scene k).house

/-- **Nobody does anything by a guarded route without saying who it is**, whatever the rest of the
request is like. -/
theorem turnedAway (terms : Terms) (hpath : Route.ofPath? r.path = some route)
    (hmethod : route.verb.admits r.method = true) (hguarded : route.isGuarded = true) :
    TurnedAway terms r where
  unidentified hstranger := by
    have hroute := route?_eq_some hpath hmethod
    obtain ⟨answer, he, hstatus⟩ := finish_respond terms r (.ofRefusal .noBearer)
    refine ⟨answer, ?_, hstatus⟩
    rw [(asksWho_handle terms hroute hguarded).silent (bearer?_eq_none_iff.2 hstranger), he]
  unknown luck hluck fresh found house := by
    have hasks := asksWho_handle terms (route?_eq_some hpath hmethod) hguarded
    by_cases hbearer : bearer? r = none
    · obtain ⟨answer, he, hstatus⟩ := finish_respond terms r (.ofRefusal .noBearer)
      exact ⟨answer, he ▸ hasks.run_silent fresh found house hbearer, hstatus⟩
    · obtain ⟨answer, he, hstatus⟩ := finish_respond terms r (.ofRefusal .unknownBearer)
      exact ⟨answer, he ▸ hasks.run_unknown fresh found house hbearer hluck, hstatus⟩
  failed luck e hluck hstranger fresh found house := by
    have hasks := asksWho_handle terms (route?_eq_some hpath hmethod) hguarded
    have hbearer : bearer? r ≠ none := fun h => hstranger (bearer?_eq_none_iff.1 h)
    obtain ⟨answer, he, hstatus⟩ := finish_respond terms r (.ofRefusal (.ofStore e))
    exact ⟨answer, he ▸ hasks.run_failed fresh found house hbearer hluck, hstatus⟩
  unnamed c k n luck v hv hcause hmove hunnamed :=
    Service.Course.house_of_unnamed (route?_eq_some hpath hmethod) hguarded hv hcause hmove hunnamed

/-- A decision that nobody has made, with a blank token and half a body. -/
def sampleStranger : Request :=
  ⟨"POST", Utf8.encode "/swipe?x=%", [("Authorization", Utf8.encode "Bearer  ")], [0x7B], false⟩

theorem turnedAway_sample :
    Route.ofPath? sampleStranger.path = some .swipe ∧
      Route.swipe.verb.admits sampleStranger.method = true ∧ Route.swipe.isGuarded = true ∧
      Unidentified sampleStranger ∧ TurnedAway ⟨30, none, .everyone⟩ sampleStranger := by
  have hpath : Route.ofPath? sampleStranger.path = some .swipe := by decide +kernel
  have hmethod : Route.swipe.verb.admits sampleStranger.method = true := by decide +kernel
  have hbearer : bearer? sampleStranger = none := by decide +kernel
  exact ⟨hpath, hmethod, rfl, bearer?_eq_none_iff.1 hbearer,
    turnedAway ⟨30, none, .everyone⟩ hpath hmethod rfl⟩

end Http

end Rendezvous
