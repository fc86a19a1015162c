import Rendezvous.Program.Server
import Rendezvous.Proofs.Service.Origins
import Rendezvous.Proofs.Service.Strangers
import Rendezvous.Proofs.Settings.TokenLists

/-!
# Development tokens

A service that keeps its records in the process knows its users by the bearer tokens that are listed
in its environment. The list and the header of a request are texts from two different hands, and
they are read by two different readers: the list is cut at commas, its entries at their last colon,
and blanks are taken off all around; the header is bytes, of which the word for a bearer and the
blanks are taken off. Here the two meet (`tokensAsListed`): a request is one of a user exactly if it
bears a token and the last entry that names this token names this user.

What a request bears is said without the reader of headers (`Http.Bears`). The tables are those that
came of the list when the service started, and nobody changes them from then on: whatever the
service is called for leaves them as they are (`World.Grants.serve`), so they are still the same when
a request comes after any number of calls (`World.Grants.after`).
-/

namespace Rendezvous

/-! ### Requests that bear a token -/

namespace Http

variable {r : Request} {token : String}

/-- **A request bears a token**: its first header for this is visible ASCII, spaces and tabs
throughout, and behind the word for a bearer nothing stands but the token, with blanks around it
perhaps. -/
def Bears (r : Request) (token : String) : Prop :=
  token ≠ "" ∧ ∃ rest, token = trim rest ∧ ∃ value, r.header? "authorization" = some value ∧
    (∀ b ∈ value, Request.isVisible b = true) ∧ value = Utf8.encode ("Bearer " ++ rest)

theorem visible?_eq_some_iff {value : List UInt8} {o : String} : Request.visible? value = some o ↔
    (∀ b ∈ value, Request.isVisible b = true) ∧ value = Utf8.encode o := by
  constructor
  · intro h
    refine ⟨fun b hb => ?_, (encode_of_visible? h).symm⟩
    by_contra hno
    have hnone := visible?_eq_none_iff.2 ⟨b, hb, by simpa using hno⟩
    exact absurd (h.symm.trans hnone) (by simp)
  · rintro ⟨hvisible, hvalue⟩
    cases ho : Request.visible? value with
    | none =>
      obtain ⟨b, hb, hno⟩ := visible?_eq_none_iff.1 ho
      exact absurd ((hvisible b hb).symm.trans hno) (by simp)
    | some o' => rw [encode_inj ((encode_of_visible? ho).trans hvalue)]

/-- **The bearer token is the token that the request bears.** -/
theorem bearer?_eq_some_iff : bearer? r = some token ↔ Bears r token := by
  have hbears : Bears r token ↔ token ≠ "" ∧ ∃ rest, token = trim rest ∧
      r.text? "authorization" = some ("Bearer " ++ rest) := by
    simp only [Bears, Request.text?, Option.bind_eq_some_iff, visible?_eq_some_iff]
  rw [hbears, bearer?]
  cases r.text? "authorization" with
  | none => simp
  | some value =>
    dsimp only
    split
    · next hprefix =>
      have hvalue := append_of_isPrefixOf hprefix
      generalize String.ofList (value.toList.drop 7) = behind at hvalue ⊢
      subst hvalue
      have hrest : ∀ rest, some ("Bearer " ++ behind) = some ("Bearer " ++ rest) ↔ behind = rest :=
        fun rest => by rw [Option.some.injEq, String.append_right_inj]
      simp only [hrest, Option.filter_eq_some_iff, Option.some.injEq]
      constructor
      · rintro ⟨rfl, hne⟩
        exact ⟨by simpa using hne, behind, rfl, rfl⟩
      · rintro ⟨hne, rest, rfl, rfl⟩
        exact ⟨rfl, by simpa using hne⟩
    · next hprefix =>
      refine iff_of_false (by simp) ?_
      rintro ⟨-, rest, -, he⟩
      obtain rfl := Option.some.inj he
      exact hprefix (List.isPrefixOf_iff_prefix.2 ⟨rest.toList, (String.toList_append ..).symm⟩)

end Http

/-! ### The world of the service -/

namespace Rehearsal.World

open Rendezvous.Http (Request Route caller bearer? handle)

variable {w : World} {tokens : List (String × UserId)}

/-- **The service knows its users by these tokens**: it keeps its records in the process, and asking
for a token cannot fail. -/
structure Grants (w : World) (tokens : List (String × UserId)) : Prop where
  /-- There is no database. -/
  inProcess : w.database = none
  /-- No failure is planned. -/
  smooth : w.accidents = .empty
  /-- The tables hold the tokens. -/
  granted : w.records.accessTokens = (granted tokens).accessTokens

theorem unlessAccident_of_smooth {α : Type} (h : w.accidents = .empty) (word : String)
    (failure : String → α) (otherwise : World → α × World) :
    w.unlessAccident word failure otherwise = otherwise w := by
  simp [unlessAccident, h, Accidents.happen?]

/-- **Nothing that the service is called for changes by which tokens it knows its users.** -/
theorem Grants.serve (h : w.Grants tokens) (c : Call) : (World.serve c w).2.Grants tokens := by
  obtain ⟨hdatabase, hsmooth, hgranted⟩ := h
  cases c with
  | store r =>
    show (w.askStore r).2.Grants tokens
    rw [askStore, unlessAccident_of_smooth hsmooth, hdatabase]
    exact ⟨rfl, hsmooth, (accessTokens_answer ..).trans hgranted⟩
  | authenticate token =>
    show (w.authenticate token).2.Grants tokens
    rw [authenticate, unlessAccident_of_smooth hsmooth, hdatabase]
    exact ⟨hdatabase, hsmooth, hgranted⟩
  | issue user life =>
    show (w.issue user life).2.Grants tokens
    rw [issue, unlessAccident_of_smooth hsmooth]
    dsimp only
    split
    · exact ⟨hdatabase, hsmooth, hgranted⟩
    · split <;> exact ⟨hdatabase, hsmooth, hgranted⟩
  | redeem token =>
    show (w.redeem token).2.Grants tokens
    rw [redeem, unlessAccident_of_smooth hsmooth]
    split <;> exact ⟨hdatabase, hsmooth, hgranted⟩
  | revoke token =>
    show (w.revoke token).2.Grants tokens
    rw [revoke, unlessAccident_of_smooth hsmooth]
    split <;> exact ⟨hdatabase, hsmooth, hgranted⟩
  | push user notice => exact ⟨hdatabase, hsmooth, hgranted⟩
  | connected => exact ⟨hdatabase, hsmooth, hgranted⟩

/-- The world after some calls, of whatever requests. -/
def after (w : World) (calls : List Call) : World :=
  calls.foldl (fun w c => (World.serve c w).2) w

theorem Grants.after (h : w.Grants tokens) (calls : List Call) : (w.after calls).Grants tokens := by
  induction calls generalizing w with
  | nil => exact h
  | cons c calls ih => exact ih (h.serve c)

/-- A service that starts without a database knows its users by the development tokens. -/
theorem grants_of_start? {around : Surroundings} {setup : Setup}
    (hstart : start? around setup = some w) (hprocess : setup.usesDatabase = false) :
    w.Grants setup.tokens := by
  simp only [start?, hprocess, Bool.false_and, Bool.false_eq_true, if_false,
    Option.map_eq_some_iff] at hstart
  obtain ⟨sharing, -, rfl⟩ := hstart
  exact ⟨rfl, rfl, rfl⟩

/-- The authenticator is asked about a token. -/
theorem Grants.serve_authenticate (h : w.Grants tokens) (token : String) :
    World.serve (.authenticate token) w = (.ok ((Rendezvous.granted tokens).bearer? token), w) := by
  show w.authenticate token = _
  rw [authenticate, unlessAccident_of_smooth h.smooth, h.inProcess]
  simp [Records.bearer?, h.granted]

/-- **Who makes a request** is who goes by the token that it bears. -/
theorem Grants.run_caller (h : w.Grants tokens) (r : Request) :
    ((caller r).run.run World.serve w).1 =
      match bearer? r with
      | none => .error .noBearer
      | some token =>
        match (Rendezvous.granted tokens).bearer? token with
        | some user => .ok user
        | none => .error .unknownBearer := by
  unfold caller
  cases bearer? r with
  | none => rfl
  | some token =>
    have hreply : (Task.orFail Refusal.ofStore (Flow.call (.authenticate token))).run.run
        World.serve w = (.ok ((Rendezvous.granted tokens).bearer? token), w) := by
      have hcall : (Flow.call (.authenticate token)).run World.serve w =
          (.ok ((Rendezvous.granted tokens).bearer? token), w) := h.serve_authenticate token
      rw [Task.run_orFail, hcall]
      rfl
    refine (congrArg Prod.fst (Flow.run_bind_ok hreply)).trans ?_
    dsimp only
    cases (Rendezvous.granted tokens).bearer? token <;> rfl

/-- **A request that nobody makes is turned away**, by every route that asks who makes it. -/
theorem Grants.answered_unauthorized (h : w.Grants tokens) {r : Request} {route : Route}
    (hroute : Http.route? r = some route) (hguarded : route.isGuarded = true)
    (hnobody : ∀ token, bearer? r = some token → (Rendezvous.granted tokens).bearer? token = none) :
    ∃ answer, (w.perform (handle w.terms r)).1 = .respond answer ∧ answer.status = 401 := by
  have hasks := Http.asksWho_handle w.terms hroute hguarded
  cases hbearer : bearer? r with
  | none =>
    obtain ⟨answer, he, hstatus⟩ := Http.finish_respond w.terms r (.ofRefusal .noBearer)
    exact ⟨answer, by rw [hasks.silent hbearer, he]; rfl, hstatus⟩
  | some token =>
    obtain ⟨next, hflow, hunknown, -⟩ := hasks.asked token hbearer
    obtain ⟨answer, he, hstatus⟩ := Http.finish_respond w.terms r (.ofRefusal .unknownBearer)
    refine ⟨answer, ?_, hstatus⟩
    rw [hflow, perform, Flow.run, h.serve_authenticate, hnobody token hbearer]
    dsimp only
    rw [hunknown, he]
    rfl

/-- **Requests are authenticated as a list says.** -/
structure Authenticates (w : World) (text : String) : Prop where
  /-- A request is one of a user exactly if it bears a token that is listed for this user. -/
  caller_iff : ∀ (r : Request) (user : UserId), ((caller r).run.run World.serve w).1 = .ok user ↔
    ∃ token, Http.Bears r token ∧ IsListedFor text token user
  /-- A request that is nobody's is refused. -/
  refused : ∀ r : Request, (∀ token user, Http.Bears r token → ¬IsListedFor text token user) →
    ∃ refusal, ((caller r).run.run World.serve w).1 = .error refusal ∧ refusal.status = 401
  /-- It is answered with this status by every route that asks who makes it, whatever else it
  holds. -/
  answered : ∀ (r : Request) (route : Route), Http.route? r = some route →
    route.isGuarded = true → (∀ token user, Http.Bears r token → ¬IsListedFor text token user) →
    ∃ answer, (w.perform (handle w.terms r)).1 = .respond answer ∧ answer.status = 401

theorem Grants.authenticates {text : String} (h : w.Grants tokens)
    (hread : Settings.readAccessTokens text = .ok tokens) : w.Authenticates text := by
  have hlisted : ∀ token user, (Rendezvous.granted tokens).bearer? token = some user ↔
      IsListedFor text token user := fun token user =>
    bearer?_granted_iff.trans (isLast_read_iff hread)
  have hnobody : ∀ r : Request, (∀ token user, Http.Bears r token → ¬IsListedFor text token user) →
      ∀ token, bearer? r = some token → (Rendezvous.granted tokens).bearer? token = none := by
    intro r hno token hbearer
    rw [Option.eq_none_iff_forall_ne_some]
    exact fun user huser => hno token user (Http.bearer?_eq_some_iff.1 hbearer) ((hlisted ..).1 huser)
  refine ⟨fun r user => ?_, fun r hno => ?_, fun r route hroute hguarded hno =>
    h.answered_unauthorized hroute hguarded (hnobody r hno)⟩
  · simp only [← Http.bearer?_eq_some_iff, ← hlisted]
    rw [h.run_caller]
    cases bearer? r with
    | none => simp
    | some token =>
      cases huser : (Rendezvous.granted tokens).bearer? token <;> simp [huser]
  · have hnone := hnobody r hno
    rw [h.run_caller]
    cases hbearer : bearer? r with
    | none => exact ⟨_, rfl, rfl⟩
    | some token =>
      dsimp only
      rw [hnone token hbearer]
      exact ⟨_, rfl, rfl⟩

end Rehearsal.World

/-! ### From the environment to the request -/

open Rendezvous.Rehearsal (World Surroundings)

/-- **Development tokens authenticate as they are listed.** -/
structure TokensAsListed (text : String) : Prop where
  /-- The list is read if every entry of it grants a token to a user. -/
  read_iff : (∃ tokens, Settings.readAccessTokens text = .ok tokens) ↔
    ∀ entry, IsEntry text entry → ∃ token user, IsGrant entry token user
  /-- With an entry that does not, nothing that is configured counts: the environment is
  refused. -/
  unread : ∀ env : Environment, env.get? "DEV_ACCESS_TOKENS" = some text →
    (∃ entry, IsEntry text entry ∧ ∀ token user, ¬IsGrant entry token user) →
    ∃ e, Settings.ofEnvironment env = .error e
  /-- A service that starts with the list and without a database authenticates requests as the list
  says, whatever it was called for before. -/
  authenticates : ∀ (env : Environment) (settings : Settings) (around : Surroundings) (w : World)
    (calls : List Call), env.get? "DEV_ACCESS_TOKENS" = some text →
    Settings.ofEnvironment env = .ok settings → settings.databaseUrl = none →
    World.start? around (Program.setupOf settings env) = some w → (w.after calls).Authenticates text

theorem listedTokens_eq {env : Environment} {text : String}
    (htext : env.get? "DEV_ACCESS_TOKENS" = some text) :
    Settings.listedTokens env = Settings.readAccessTokens text := by
  rw [Settings.listedTokens, htext]

/-- **Development tokens authenticate as they are listed**, and nothing else does. -/
theorem tokensAsListed (text : String) : TokensAsListed text where
  read_iff := exists_readAccessTokens_iff
  unread env htext hentry := by
    obtain ⟨entry, hentry, hno⟩ := hentry
    cases henv : Settings.ofEnvironment env with
    | error e => exact ⟨e, rfl⟩
    | ok settings =>
      have hread := Settings.accessTokens_of_environment henv
      rw [listedTokens_eq htext] at hread
      obtain ⟨token, user, hgrant⟩ := exists_readAccessTokens_iff.1 ⟨_, hread⟩ entry hentry
      exact absurd hgrant (hno token user)
  authenticates env settings around w calls htext henv hprocess hstart := by
    have hread := Settings.accessTokens_of_environment henv
    rw [listedTokens_eq htext] at hread
    have hgrants : w.Grants settings.accessTokens :=
      World.grants_of_start? hstart (by simp [Program.setupOf, hprocess])
    exact (hgrants.after calls).authenticates hread

/-- A list with a token that has a colon in it and is listed twice. -/
def sampleTokens : String :=
  "ops:alice:7, ,bob : 8,ops:alice :9"

/-- An environment with this list. -/
def sampleListing : Environment :=
  [("DEV_ACCESS_TOKENS", sampleTokens)]

/-- The settings of this environment. -/
def sampleGranting : Settings :=
  { Settings.default with accessTokens := [("ops:alice", 7), ("bob", 8), ("ops:alice", 9)] }

/-- A request that bears the token. -/
def sampleBearing : Http.Request :=
  ⟨"GET", Utf8.encode "/chats", [("Authorization", Utf8.encode "Bearer  ops:alice")], [], false⟩

theorem tokensAsListed_sample :
    Settings.ofEnvironment sampleListing = .ok sampleGranting ∧
      ∃ w, World.start? .none (Program.setupOf sampleGranting sampleListing) = some w ∧
        (w.after [.connected]).Authenticates sampleTokens ∧
        ∃ token, Http.Bears sampleBearing token ∧ IsListedFor sampleTokens token 9 := by
  have henv : Settings.ofEnvironment sampleListing = .ok sampleGranting := by rfl
  obtain ⟨w, hstart⟩ : ∃ w,
      World.start? .none (Program.setupOf sampleGranting sampleListing) = some w := ⟨_, rfl⟩
  have hauthenticates := (tokensAsListed sampleTokens).authenticates sampleListing sampleGranting
    .none w [.connected] rfl henv rfl hstart
  have huser : ((Http.caller sampleBearing).run.run World.serve (w.after [.connected])).1 =
      .ok 9 := by
    obtain rfl := Option.some.inj hstart
    rfl
  exact ⟨henv, w, hstart, hauthenticates, (hauthenticates.caller_iff ..).1 huser⟩

end Rendezvous
