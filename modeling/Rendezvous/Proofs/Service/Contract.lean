import Mathlib.Data.List.Basic
import Rendezvous.Http.Answering

/-!
# What a request may do

A request that is answered makes calls, and each of them depends on the replies to those before it.
What the service promises about session tokens and about notices rests on this dependence: a token
is asked for only for the user whom the authenticator has named, a connection is promised only for
a token that was just used up, and a user is told only what the store has confirmed to the very
request that tells it.

## Contracts

The *past* of a request is the list of its calls that were answered, each with its reply, the last
one first (`Exchange`). A contract says which calls may follow a past, and what may come of a past
that is complete. `Flow.Obeys` says that a flow keeps to it, whatever the replies are. Since a flow
that keeps to a contract still does so after any reply, this is at the same time the invariant of a
request that is under way.

## The contract of the service

`Http.Permitted` lists the calls that a request may make and `Http.Rightful` what it may come to;
`Http.handle_obeys` is the proof that every request keeps to them. The requests fall into three
kinds: those for a session token, those for a connection, which make one call or two and are looked
at one by one, and all others, which may ask the store whatever they like, but push a notice only if
it is backed by what they were told (`Http.Backed`).
-/

namespace Rendezvous

/-- A call and its reply. -/
structure Exchange where
  /-- The call. -/
  call : Call
  /-- The reply. -/
  reply : call.Reply

/-- The store was asked and has answered. -/
def Exchange.told (r : StoreRequest) (answer : r.Answer) : Exchange :=
  ⟨.store r, .ok answer⟩

/-! ### Flows that keep to a contract -/

namespace Flow

variable {α β : Type} {ok : List Exchange → Call → Prop} {Q : List Exchange → α → Prop}
  {R : List Exchange → β → Prop} {past : List Exchange}

/-- **A flow keeps to a contract** after some past: each call is one that may follow, and what it
comes to is what may be come to. -/
def Obeys (ok : List Exchange → Call → Prop) (Q : List Exchange → α → Prop) :
    Flow α → List Exchange → Prop
  | .done a, past => Q past a
  | .ask call next, past =>
    ok past call ∧ ∀ reply, (next reply).Obeys ok Q (⟨call, reply⟩ :: past)

theorem Obeys.bind {x : Flow α} {f : α → Flow β} (hx : x.Obeys ok Q past)
    (hf : ∀ past a, Q past a → (f a).Obeys ok R past) : (x >>= f).Obeys ok R past := by
  induction x generalizing past with
  | done a => exact hf past a hx
  | ask call next ih => exact ⟨hx.1, fun reply => ih reply (hx.2 reply)⟩

/-- A flow keeps to any contract that allows as much. -/
theorem Obeys.mono {ok' : List Exchange → Call → Prop} {Q' : List Exchange → α → Prop} {x : Flow α}
    (hx : x.Obeys ok Q past) (hok : ∀ past call, ok past call → ok' past call)
    (hQ : ∀ past a, Q past a → Q' past a) : x.Obeys ok' Q' past := by
  induction x generalizing past with
  | done a => exact hQ past a hx
  | ask call next ih => exact ⟨hok past call hx.1, fun reply => ih reply (hx.2 reply)⟩

end Flow

namespace Attempt

variable {ε α β : Type} {ok : List Exchange → Call → Prop} {Q : List Exchange → α → Prop}
  {R : List Exchange → β → Prop} {past : List Exchange}

/-- **A flow that may fail keeps to a contract**, which says nothing about failures. -/
def Obeys (ok : List Exchange → Call → Prop) (Q : List Exchange → α → Prop)
    (x : ExceptT ε Flow α) (past : List Exchange) : Prop :=
  x.run.Obeys ok (fun past result => ∀ a, result = .ok a → Q past a) past

theorem obeys_pure {a : α} (h : Q past a) : Obeys ok Q (pure a : ExceptT ε Flow α) past := by
  rintro a' ha'
  obtain rfl := Except.ok.inj ha'
  exact h

theorem obeys_throw (e : ε) : Obeys ok Q (throw e : ExceptT ε Flow α) past :=
  fun _ h => absurd h (by simp)

theorem Obeys.bind {x : ExceptT ε Flow α} {f : α → ExceptT ε Flow β} (hx : Obeys ok Q x past)
    (hf : ∀ past a, Q past a → Obeys ok R (f a) past) : Obeys ok R (x >>= f) past := by
  refine Flow.Obeys.bind hx fun past result hresult => ?_
  cases result with
  | ok a => exact hf past a (hresult a rfl)
  | error e => exact fun _ h => absurd h (by simp)

/-- Something that is looked at before the flow goes on, and may make it fail. -/
theorem obeys_require {answer : Http.Response} {o : Option α} (h : ∀ a, o = some a → Q past a) :
    Obeys ok Q (Http.Answering.require answer o) past := by
  cases o with
  | some a => exact obeys_pure (h a rfl)
  | none => exact obeys_throw _

/-- A task whose refusal is the answer keeps to the contract of the task. -/
theorem Obeys.ofTask {task : Task α} (h : Obeys ok Q task past) :
    Obeys ok Q (Http.Answering.ofTask task) past := by
  refine Flow.Obeys.bind h fun past result hresult => ?_
  cases result with
  | ok a => exact obeys_pure (hresult a rfl)
  | error refusal => exact fun _ h => absurd h (by simp)

theorem obeys_store {r : StoreRequest} {Q : List Exchange → r.Answer → Prop}
    (h : ok past (.store r)) (hQ : ∀ answer, Q (.told r answer :: past) answer) :
    Obeys ok Q (Task.store r) past := by
  refine ⟨h, fun reply => ?_⟩
  cases reply with
  | ok answer => exact obeys_pure (hQ answer)
  | error e => exact fun _ h => absurd h (by simp)

theorem obeys_push {user : UserId} {notice : Notice} {Q : List Exchange → Bool → Prop}
    (h : ok past (.push user notice)) (hQ : ∀ past taken, Q past taken) :
    Obeys ok Q (Task.push user notice) past := by
  refine ⟨h, fun taken => ?_⟩
  exact obeys_pure (hQ _ taken)

end Attempt

/-! ### What a user may be told -/

namespace Http

/-- **What backs a notice**: the store has told the request all that the notice says. -/
inductive Backed (past : List Exchange) : UserId → Notice → Prop where
  /-- A message of a user was stored. -/
  | message {m : PendingMessage} {stored : Message} (htext : m.kind = .text)
      (htold : .told (.append m) stored ∈ past) :
      Backed past stored.receiver (.message stored.id m.chat m.sender stored.content)
  /-- The chat of a match was opened, and this is for the one who decided last. -/
  | actor {actor target : UserId} {chat : ChatId}
      (htold : .told (.openMatch actor target matchGreeting) (chat, true) ∈ past) :
      Backed past actor (.paired chat target matchGreeting)
  /-- The chat of a match was opened, and this is for the other one. -/
  | target {actor target : UserId} {chat : ChatId}
      (htold : .told (.openMatch actor target matchGreeting) (chat, true) ∈ past) :
      Backed past target (.paired chat actor matchGreeting)
  /-- A chat was read by one of its users, and this is for the other one. -/
  | readChat {id : ChatId} {chat : Chat} {reader other : UserId}
      (hchat : .told (.chat id) (some chat) ∈ past) (hother : chat.other? reader = some other) :
      Backed past other (.readChat id reader)
  /-- Messages of a chat were read by one of its users, and this is for the other one. -/
  | readMessages {id : ChatId} {chat : Chat} {reader other : UserId} {ids marked : List MessageId}
      (hchat : .told (.chat id) (some chat) ∈ past) (hother : chat.other? reader = some other)
      (hmarked : .told (.markSomeRead id reader ids) marked ∈ past) :
      Backed past other (.readMessages id reader marked)

/-- The request may ask the store whatever it likes, and tell what is backed. -/
structure Talks (ok : List Exchange → Call → Prop) : Prop where
  /-- It may ask the store. -/
  store : ∀ past r, ok past (.store r)
  /-- It may tell what is backed. -/
  push : ∀ past user notice, Backed past user notice → ok past (.push user notice)

/-- Looking for a chat of a user is one question to the store. -/
theorem obeys_ownChat {ok : List Exchange → Call → Prop} {past : List Exchange} {user : UserId}
    {id : ChatId} (h : ok past (.store (.chat id))) :
    Attempt.Obeys ok (fun past chat => .told (.chat id) (some chat) ∈ past)
      (Correspondence.ownChat user id) past := by
  refine Attempt.Obeys.bind (Q := fun past found => .told (.chat id) found ∈ past)
    (Attempt.obeys_store h fun _ => List.mem_cons_self) fun past found htold => ?_
  cases found with
  | none => exact Attempt.obeys_throw _
  | some chat =>
    dsimp only
    split
    · exact Attempt.obeys_pure htold
    · exact Attempt.obeys_throw _

section Talks

variable {ok : List Exchange → Call → Prop} {past : List Exchange} (h : Talks ok)

include h

/-- A request to the store of which nothing needs to be known later. -/
theorem Talks.obeys_store (r : StoreRequest) :
    Attempt.Obeys ok (fun _ _ => True) (Task.store r) past :=
  Attempt.obeys_store (h.store past r) fun _ => trivial

theorem Talks.obeys_announce {chat : ChatId} {actor target : UserId}
    (htold : .told (.openMatch actor target matchGreeting) (chat, true) ∈ past) :
    Attempt.Obeys ok (fun _ _ => True) (Pairing.announce chat actor target) past := by
  refine ⟨h.push _ _ _ (.actor htold), fun _ => ?_⟩
  refine ⟨h.push _ _ _ (.target (List.mem_cons_of_mem _ htold)), fun _ => ?_⟩
  exact Attempt.obeys_pure trivial

theorem Talks.obeys_pair (actor target : UserId) :
    Attempt.Obeys ok (fun _ _ => True) (Pairing.pair actor target) past := by
  refine Attempt.Obeys.bind (Q := fun past opened =>
    .told (.openMatch actor target matchGreeting) opened ∈ past)
    (Attempt.obeys_store (h.store _ _) fun _ => List.mem_cons_self) ?_
  rintro past ⟨chat, created⟩ htold
  cases created with
  | true => exact (h.obeys_announce htold).bind fun _ _ _ => Attempt.obeys_pure trivial
  | false => exact Attempt.obeys_pure trivial

theorem Talks.obeys_decide (actor target : UserId) (action : Decision) :
    Attempt.Obeys ok (fun _ _ => True) (Pairing.decide actor target action) past := by
  unfold Pairing.decide
  split
  · exact Attempt.obeys_throw _
  · refine (h.obeys_store _).bind fun _ _ _ => ?_
    cases action with
    | dislike => exact Attempt.obeys_pure trivial
    | like =>
      refine (h.obeys_store _).bind fun _ liked _ => ?_
      cases liked with
      | true => exact h.obeys_pair actor target
      | false => exact Attempt.obeys_pure trivial

theorem Talks.obeys_ownChat (user : UserId) (id : ChatId) :
    Attempt.Obeys ok (fun past chat => .told (.chat id) (some chat) ∈ past)
      (Correspondence.ownChat user id) past :=
  Http.obeys_ownChat (h.store _ _)

theorem Talks.obeys_chatFor (sender : UserId) (m : Letter) :
    Attempt.Obeys ok (fun _ _ => True) (Correspondence.chatFor sender m) past := by
  unfold Correspondence.chatFor
  split
  · refine (h.obeys_ownChat sender _).bind fun _ chat _ => ?_
    split
    · exact Attempt.obeys_pure trivial
    · exact Attempt.obeys_throw _
  · exact (h.obeys_store _).bind fun _ _ _ => Attempt.obeys_pure trivial

theorem Talks.obeys_send (sender : UserId) (m : Letter) :
    Attempt.Obeys ok (fun _ _ => True) (Correspondence.send sender m) past := by
  unfold Correspondence.send
  split
  · exact Attempt.obeys_throw _
  · refine (h.obeys_chatFor sender m).bind fun _ chat _ => ?_
    refine Attempt.Obeys.bind (Q := fun past stored =>
      .told (.append ⟨chat, sender, m.receiver, m.content, .text⟩) stored ∈ past)
      (Attempt.obeys_store (h.store _ _) fun _ => List.mem_cons_self) fun past stored htold => ?_
    refine Attempt.Obeys.bind (Q := fun _ _ => True)
      (Attempt.obeys_push (h.push _ _ _ (.message rfl htold)) fun _ _ => trivial) fun _ _ _ => ?_
    exact Attempt.obeys_pure trivial

theorem Talks.obeys_page (user : UserId) (id : ChatId) (spec : PageSpec) :
    Attempt.Obeys ok (fun _ _ => True) (Correspondence.page user id spec) past :=
  (h.obeys_ownChat user id).bind fun _ _ _ => h.obeys_store _

/-- Telling the other user of a chat what was read. -/
theorem Talks.obeys_tellOther {chat : Chat} {reader : UserId} {notice : Notice}
    (hbacked : ∀ other, chat.other? reader = some other → Backed past other notice) :
    Attempt.Obeys ok (fun _ _ => True) (Correspondence.tellOther chat reader notice) past := by
  unfold Correspondence.tellOther
  split
  · next other hother =>
    refine Attempt.Obeys.bind (Q := fun _ _ => True)
      (Attempt.obeys_push (h.push _ _ _ (hbacked other hother)) fun _ _ => trivial)
      fun _ _ _ => ?_
    exact Attempt.obeys_pure trivial
  · exact Attempt.obeys_pure trivial

theorem Talks.obeys_readChat (reader : UserId) (id : ChatId) :
    Attempt.Obeys ok (fun _ _ => True) (Correspondence.readChat reader id) past := by
  refine (h.obeys_ownChat reader id).bind fun past chat htold => ?_
  refine Attempt.Obeys.bind (Q := fun past _ => .told (.chat id) (some chat) ∈ past)
    (Attempt.obeys_store (h.store _ _) fun _ => List.mem_cons_of_mem _ htold) fun past n htold => ?_
  split
  · exact (h.obeys_tellOther fun _ hother => .readChat htold hother).bind
      fun _ _ _ => Attempt.obeys_pure trivial
  · exact Attempt.obeys_pure trivial

theorem Talks.obeys_readMessages (reader : UserId) (id : ChatId) (ids : List MessageId) :
    Attempt.Obeys ok (fun _ _ => True) (Correspondence.readMessages reader id ids) past := by
  unfold Correspondence.readMessages
  split
  · exact Attempt.obeys_throw _
  refine (h.obeys_ownChat reader id).bind fun past chat htold => ?_
  refine Attempt.Obeys.bind (Q := fun past marked => .told (.chat id) (some chat) ∈ past ∧
    .told (.markSomeRead id reader ids) marked ∈ past)
    (Attempt.obeys_store (h.store _ _) fun _ =>
      ⟨List.mem_cons_of_mem _ htold, List.mem_cons_self⟩) fun past marked htold => ?_
  split
  · exact (h.obeys_tellOther fun _ hother => .readMessages htold.1 hother htold.2).bind
      fun _ _ _ => Attempt.obeys_pure trivial
  · exact Attempt.obeys_pure trivial

end Talks

end Http

end Rendezvous
