import Rendezvous.Proofs.Service.Tokens

/-!
# Who gets a connection

A user who is known to the authenticator asks for a session token and opens a connection with it.
Nobody else gets a connection for this user, and the token opens no other one, whatever requests are
under way at the same time, however they are interleaved, and whatever fails.

## Why

A connection is started only for a visit that was promised one, and the contract of requests says
that such a visit has used up a token, which was then in the ledger. Where an entry of the ledger
comes from is said by `Service.Course.granted_of_held?`: a visit has asked for it on behalf of the
user whom the authenticator has named to this very visit, and was answered by the token at once; and
nobody has used the token up since. So two visits that have used up the same token would each have
an entry of their own, and these would have been given out in two moves, against the assumption that
no token is made up twice.

On the other hand, what is given out stays in the ledger until somebody uses it up or its time is
over (`Service.Course.held?_of_grants`). A request for a connection that is refused, because of its
page or for want of a token, has made no call at all, so it takes nothing away from anybody.
-/

namespace Rendezvous.Service.Course

variable {c : Course} {k n : Nat} {luck : Luck} {past : List Exchange} {user : UserId}
  {token : String}

/-! ### Connections and promises -/

/-- **Who is promised a connection has used a token up**, and has done nothing else. -/
theorem past_of_promise? {v : Visit} (hv : (c.scene k).visits[n]? = some v)
    (hpromise : v.promise? = some (user, token)) :
    v.past = [⟨.redeem token, .ok (some user)⟩] := by
  have hflow : v.flow = .done (some (.promote user token)) := by
    unfold Visit.promise? at hpromise
    split at hpromise
    · next user' token' hdone =>
      split at hpromise
      · exact absurd hpromise (by simp)
      · obtain ⟨rfl, rfl⟩ := Prod.mk.inj (Option.some.inj hpromise)
        exact hdone
    · exact absurd hpromise (by simp)
  have hobeys := c.obeys hv
  rw [hflow] at hobeys
  cases hcause : v.cause with
  | request r =>
    rw [hcause] at hobeys
    obtain ⟨outcome, ho, hrightful⟩ := hobeys
    exact hrightful.promoted user token (Option.some.inj ho).symm
  | relay receiver notice =>
    rw [hcause] at hobeys
    exact absurd hobeys (by simp [Flow.Obeys, Cause.Rightful])

theorem Starts.exists_answers (h : c.Starts k n user token) :
    ∃ j < k, ∃ luck, c.Answers j n luck [] ⟨.redeem token, .ok (some user)⟩ := by
  obtain ⟨-, v, hv, hpromise⟩ := h
  exact c.exists_answers hv ⟨[], (past_of_promise? hv hpromise).symm⟩

/-- A visit that has made no call was promised nothing. -/
theorem promoted_of_past_nil {v : Visit} (h : (c.scene k).visits[n]? = some v)
    (hpast : v.past = []) : v.promoted = false := by
  refine visit_induction (fun _ v => v.past = [] → v.promoted = false)
    (fun _ _ _ _ => rfl) (fun _ _ hv => hv) (fun _ _ _ _ hv => hv) ?_ ?_ h hpast
  · intro k luck v e next _ _ _ hpast
    exact absurd hpast (by simp [Visit.answered])
  · intro k v user token hv hpromise _ hpast
    exact absurd ((past_of_promise? hv hpromise).symm.trans hpast) (by simp)

/-- A connection that was promised is taken over once. -/
theorem Starts.unique {k' : Nat} {user' : UserId} {token' : String}
    (h : c.Starts k n user token) (h' : c.Starts k' n user' token') : k = k' := by
  have hlater : ∀ {k k' user user' token token'}, c.Starts k n user token →
      c.Starts k' n user' token' → ¬k < k' := by
    rintro k k' user user' token token' ⟨hm, v, hv, hpromise⟩ ⟨-, v', hv', hpromise'⟩ hlt
    -- after the first time the visit is promoted, and stays so
    have hn : n < (c.scene k).visits.length := (List.getElem?_eq_some_iff.1 hv).1
    have hsucc : (c.scene (k + 1)).visits[n]? = some { v with promoted := true } := by
      rw [scene_succ, hm, Scene.step, hv]
      simp [hpromise, Scene.promote, hn]
    obtain ⟨w, hw, -, -, hpromoted, -⟩ := c.visit_later (Nat.succ_le_of_lt hlt) hsucc
    obtain rfl : v' = w := Option.some.inj (hv'.symm.trans hw)
    have hp : v'.promoted = true := hpromoted rfl
    unfold Visit.promise? at hpromise'
    split at hpromise'
    · rw [hp] at hpromise'
      exact absurd hpromise' (by simp)
    · exact absurd hpromise' (by simp)
  have h1 := hlater h h'
  have h2 := hlater h' h
  omega

/-! ### Tokens that can still be used -/

theorem Answers.held?_succ {life : Nanos}
    (h : c.Answers k n luck past ⟨.issue user life, .ok token⟩) :
    (c.scene (k + 1)).house.ledger.held? token =
      some ⟨user, (c.scene k).house.now - luck.delay + life⟩ := by
  obtain ⟨found, hreply, hhouse⟩ := h.serve_eq
  rcases House.issue_cases (c.scene k).house luck (c.mint k) user life with ⟨-, hentry⟩ | ⟨e, he, -⟩
  · rw [hhouse, h.eq_mint]
    exact (hentry (c.mint k)).trans (if_pos rfl)
  · exact absurd (hreply.symm.trans he) (by simp)

/-- A token that a channel brings was used up when the channel was promised. -/
theorem TakesOut.exists_answers (h : c.TakesOut k token) :
    ∃ j ≤ k, ∃ n luck past reply, c.Answers j n luck past ⟨.redeem token, reply⟩ ∧
      (j = k ∨ ∃ user, reply = .ok (some user)) := by
  rcases h with ⟨n, luck, past, reply, hans⟩ | ⟨i, luck, ch, -, hch, -, rfl⟩
  · exact ⟨k, Nat.le_refl k, n, luck, past, reply, hans, Or.inl rfl⟩
  · obtain ⟨j, hj, n, hstarts⟩ := exists_starts hch
    obtain ⟨i, hi, luck', hans⟩ := hstarts.exists_answers
    exact ⟨i, by omega, n, luck', [], _, hans, Or.inr ⟨_, rfl⟩⟩

/-- **A token that was given out can be used** until somebody uses it or its time is over. -/
theorem held?_of_grants {i m : Nat} (hmint : Function.Injective c.mint)
    (h : c.Grants i m luck user token) (hik : i < k)
    (hsince : ∀ j, i < j → j < k → ∀ n luck past reply,
      ¬c.Answers j n luck past ⟨.redeem token, reply⟩) :
    (c.scene k).house.ledger.held? token =
      some ⟨user, (c.scene i).house.now - luck.delay + c.terms.sessionLife⟩ ∨
    (c.scene i).house.now - luck.delay + c.terms.sessionLife ≤ (c.scene k).house.now := by
  obtain ⟨past, hissue⟩ := h.answers
  induction hik with
  | refl => exact Or.inl hissue.held?_succ
  | @step k hik ih =>
    have hik : i < k := hik
    have ih := ih fun j hij hjk => hsince j hij (by omega)
    have hmono : ∀ {t}, t ≤ (c.scene k).house.now → t ≤ (c.scene (k + 1)).house.now :=
      fun ht => Nat.le_trans ht (c.now_le_succ k)
    rcases ih with ih | ih
    swap
    · exact Or.inr (hmono ih)
    rcases c.held?_cases k token with
      ⟨n, luck', past', user', life, hans, he⟩ | ⟨hout, he⟩ | ⟨delay, hm, he⟩ | ⟨-, he⟩ <;> rw [he]
    · -- the same token would have been given out twice
      have hki : k = i := hmint (hans.eq_mint.symm.trans hissue.eq_mint)
      exact absurd hik (by omega)
    · -- it would have been used up, since it was given out or before
      obtain ⟨j, hj, n, luck', past', reply, hans, hreply⟩ := hout.exists_answers
      rcases Nat.lt_trichotomy i j with hij | rfl | hji
      · exact absurd hans (hsince j hij (by omega) _ _ _ _)
      · obtain ⟨-, -, -, he⟩ := hissue.unique hans
        exact absurd (congrArg Exchange.call he) (by simp)
      · rcases hreply with rfl | ⟨user', rfl⟩
        · exact absurd hji (by omega)
        · obtain ⟨i', hi', m', luck'', hgrants, -, -⟩ := hans.exists_grants
          have hii : i' = i := hmint (hgrants.eq_mint.symm.trans hissue.eq_mint)
          exact absurd hi' (by omega)
    · rw [ih]
      by_cases hlate : (c.scene k).house.now - delay <
          (c.scene i).house.now - luck.delay + c.terms.sessionLife
      · exact Or.inl (by simp [hlate])
      · exact Or.inr (hmono (Nat.le_trans (Nat.not_lt.1 hlate) (Nat.sub_le ..)))
    · exact Or.inl ih

/-! ### Only owners -/

/-- **Only the owner of a token gets a connection, and only one.** -/
structure OwnersOnly (c : Course) : Prop where
  /-- A connection is started for a user with a token that this visit has used up, and that was
  given to this user before, in time. -/
  owner : ∀ k n user token, c.Starts k n user token → ∃ i m luck j luck', i < j ∧ j < k ∧
    c.Grants i m luck user token ∧ c.Answers j n luck' [] ⟨.redeem token, .ok (some user)⟩ ∧
    (c.scene j).house.now + luck'.delay <
      (c.scene i).house.now - luck.delay + c.terms.sessionLife
  /-- No two connections are started with the same token. -/
  once : ∀ k n user k' n' user' token, c.Starts k n user token → c.Starts k' n' user' token →
    k = k' ∧ n = n'
  /-- Who could not use a token gets no connection. -/
  failed : ∀ j n luck past token reply, c.Answers j n luck past ⟨.redeem token, reply⟩ →
    (∀ user, reply ≠ .ok (some user)) → ∀ k user token', ¬c.Starts k n user token'
  /-- A request that is refused for its page or for want of a token is answered when it comes and
  changes nothing in the house, neither then nor later. -/
  refused : ∀ k r status, c.move k = .arrive r → Http.Refused c.terms r status →
    ∃ answer, answer.status = status ∧
      c.scene (k + 1) = { c.scene k with
        visits := (c.scene k).visits ++
          [⟨.request r, [], .done (some (.respond answer)), none, false⟩] } ∧
      ∀ j, k < j → ∀ luck, c.move j = .turn (c.scene k).visits.length luck →
        c.scene (j + 1) = c.scene j
  /-- A token that was given out and that nobody has tried to use since is worth a connection to the
  first admissible request that brings it in time, unless the ledger fails. -/
  honoured : ∀ i m luck user token k n luck' v r, c.Grants i m luck user token → i < k →
    (∀ j, i < j → j < k → ∀ n luck past reply, ¬c.Answers j n luck past ⟨.redeem token, reply⟩) →
    c.move k = .turn n luck' → (c.scene k).visits[n]? = some v → v.cause = .request r →
    v.past = [] → Http.Admissible c.terms r token → luck'.holderFailure = none →
    (c.scene k).house.now + luck'.delay <
      (c.scene i).house.now - luck.delay + c.terms.sessionLife →
    ∃ v', (c.scene (k + 1)).visits[n]? = some v' ∧ v'.promise? = some (user, token)

/-- A visit that is over takes no turn. -/
theorem scene_of_over {v : Visit} {result : Option Http.Outcome} (hm : c.move k = .turn n luck)
    (hv : (c.scene k).visits[n]? = some v) (hover : v.flow = .done result) :
    c.scene (k + 1) = c.scene k := by
  rw [scene_succ, hm, Scene.step, hv]
  simp [Visit.turn?, Visit.seeks?, hover]

theorem refused_stays {r : Http.Request} {status : Nat} (hm : c.move k = .arrive r)
    (h : Http.Refused c.terms r status) :
    ∃ answer, answer.status = status ∧
      c.scene (k + 1) = { c.scene k with
        visits := (c.scene k).visits ++
          [⟨.request r, [], .done (some (.respond answer)), none, false⟩] } ∧
      ∀ j, k < j → ∀ luck, c.move j = .turn (c.scene k).visits.length luck →
        c.scene (j + 1) = c.scene j := by
  obtain ⟨answer, he, hstatus⟩ := Http.handle_of_refused h
  have hscene : c.scene (k + 1) = { c.scene k with
      visits := (c.scene k).visits ++
        [⟨.request r, [], .done (some (.respond answer)), none, false⟩] } := by
    rw [scene_succ, hm]
    simp [Scene.step, Scene.begin, Visit.begun, Cause.flow, he]
  refine ⟨answer, hstatus, hscene, fun j hkj luck hturn => ?_⟩
  have hv : (c.scene (k + 1)).visits[(c.scene k).visits.length]? =
      some ⟨.request r, [], .done (some (.respond answer)), none, false⟩ := by
    simp [hscene]
  obtain ⟨v, hv', -, -, -, hover⟩ := c.visit_later (Nat.succ_le_of_lt hkj) hv
  exact scene_of_over hturn hv' (hover _ rfl).1

theorem honours {i m : Nat} {luck' : Luck} {v : Visit} {r : Http.Request}
    (hmint : Function.Injective c.mint) (hgrants : c.Grants i m luck user token) (hik : i < k)
    (hsince : ∀ j, i < j → j < k → ∀ n luck past reply,
      ¬c.Answers j n luck past ⟨.redeem token, reply⟩)
    (hm : c.move k = .turn n luck') (hv : (c.scene k).visits[n]? = some v)
    (hcause : v.cause = .request r) (hpast : v.past = [])
    (hadmissible : Http.Admissible c.terms r token) (hluck : luck'.holderFailure = none)
    (hlate : (c.scene k).house.now + luck'.delay <
      (c.scene i).house.now - luck.delay + c.terms.sessionLife) :
    ∃ v', (c.scene (k + 1)).visits[n]? = some v' ∧ v'.promise? = some (user, token) := by
  obtain ⟨next, hhandle, hnext⟩ := Http.handle_of_admissible hadmissible
  have hflow : v.flow = .ask (.redeem token) fun reply =>
      next reply >>= fun outcome => .done (some outcome) := by
    rw [flow_of_past_nil hv hpast, hcause, Cause.flow, hhandle]
    rfl
  have hentry := (held?_of_grants hmint hgrants hik hsince).resolve_right
    (Nat.not_le.2 (Nat.lt_of_le_of_lt (Nat.le_add_right ..) hlate))
  have hreply := House.redeem_of_held? hluck hentry hlate
  have hans : c.Answers k n luck' [] ⟨.redeem token, .ok (some user)⟩ :=
    ⟨v, _, hm, hv, by simp [Visit.seeks?, hflow], hpast, hflow, hreply⟩
  obtain ⟨w, rest, hw, -, hwflow, hsucc⟩ := hans.visit_succ
  obtain rfl : v = w := Option.some.inj (hv.symm.trans hw)
  refine ⟨_, hsucc, ?_⟩
  obtain ⟨-, hrest⟩ := Flow.ask.inj (hwflow.symm.trans hflow)
  rw [eq_of_heq hrest]
  simp [Visit.promise?, Visit.answered, hnext, promoted_of_past_nil hv hpast]

/-- **Only owners get connections**, in every course of events in which no session token is made up
twice. -/
theorem ownersOnly (c : Course) (hmint : Function.Injective c.mint) : c.OwnersOnly where
  owner k n user token h := by
    obtain ⟨j, hj, luck', hans⟩ := h.exists_answers
    obtain ⟨i, hi, m, luck, hgrants, hlate, -⟩ := hans.exists_grants
    exact ⟨i, m, luck, j, luck', hi, hj, hgrants, hans, hlate⟩
  once k n user k' n' user' token h h' := by
    -- the token was used up once, so both connections are due to the same visit
    obtain ⟨j, -, luck, hans⟩ := h.exists_answers
    obtain ⟨j', -, luck', hans'⟩ := h'.exists_answers
    obtain rfl : j = j' := hans.eq_of_redeem hmint hans'
    obtain ⟨rfl, -⟩ := hans.unique hans'
    exact ⟨h.unique h', rfl⟩
  failed j n luck past token reply hans hfail k user token' h := by
    -- a visit that was promised a connection has made no other call than the one that went well
    obtain ⟨rfl, -⟩ := hans.redeem
    obtain ⟨j', -, luck', hans'⟩ := h.exists_answers
    obtain rfl : j = j' := hans.eq_of_past hans'
    obtain ⟨-, -, -, he⟩ := hans.unique hans'
    obtain ⟨hcall, hreply⟩ := Exchange.mk.inj he
    obtain rfl := Call.redeem.inj hcall
    exact hfail user (eq_of_heq hreply)
  refused k r status hm h := refused_stays hm h
  honoured i m luck user token k n luck' v r hgrants hik hsince hm hv hcause hpast hadmissible hluck
      hlate :=
    honours hmint hgrants hik hsince hm hv hcause hpast hadmissible hluck hlate

/-- A request for a session token. -/
def sampleStart : Http.Request :=
  ⟨"POST", Utf8.encode "/ws/start", [("authorization", Utf8.encode "Bearer x")], [], false⟩

/-- A request for a connection, from a page of this origin. -/
def sampleConnect (origin : String) : Http.Request :=
  ⟨"GET", Utf8.encode "/ws/chat?session=aa",
    [("connection", Utf8.encode "Upgrade"), ("upgrade", Utf8.encode "websocket"),
      ("sec-websocket-key", Utf8.encode "k"), ("sec-websocket-version", Utf8.encode "13"),
      ("origin", Utf8.encode origin)], [], true⟩

/-- Nothing fails, and the bearer is the user 7. -/
def sampleLuck : Luck :=
  ⟨⟨0, 0⟩, 0, none, none, false, .ok (some 7)⟩

/-- A user gets a token, a page that may not connect shows it, and at the last moment one that may
shows it again. -/
def sample : Course :=
  let moves : List Move :=
    [.arrive sampleStart, .turn 0 sampleLuck, .turn 0 sampleLuck,
      .arrive (sampleConnect "http://b"), .turn 1 sampleLuck, .wait 9,
      .arrive (sampleConnect "http://a"), .turn 2 sampleLuck, .promote 2]
  ⟨⟨10, some ["http://a"], .everyone⟩, fun n => String.ofList (List.replicate n 'a'),
    fun k => moves[k]?.getD (.wait 0)⟩

theorem ownersOnly_sample :
    Function.Injective sample.mint ∧ sample.Starts 8 2 7 "aa" ∧
      Http.Refused sample.terms (sampleConnect "http://b") 403 ∧ sample.OwnersOnly := by
  have hmint : Function.Injective sample.mint := by
    intro m n h
    have hlength := congrArg (fun s : String => s.toList.length) h
    simpa [sample] using hlength
  have hpromise : ((sample.scene 8).visits[2]?.bind Visit.promise?) = some (7, "aa") := by
    decide +kernel
  obtain ⟨v, hv, hp⟩ := Option.bind_eq_some_iff.1 hpromise
  have hrefused : Http.Refused sample.terms (sampleConnect "http://b") 403 :=
    ⟨by decide +kernel, by decide +kernel, Or.inl ⟨by decide +kernel, rfl⟩⟩
  exact ⟨hmint, ⟨rfl, v, hv, hp⟩, hrefused, ownersOnly sample hmint⟩

end Rendezvous.Service.Course
