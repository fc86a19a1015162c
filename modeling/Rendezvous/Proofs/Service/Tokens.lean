import Rendezvous.Proofs.Service.Course
import Rendezvous.Proofs.Session.SingleUse

/-!
# What becomes of session tokens

A session token comes into the ledger when a visit asks for one on behalf of the user whom the
authenticator has named to this very visit, and the visit is answered by the token at once
(`Service.Course.Grants`). It goes when somebody uses it up, when a connection that it has opened
revokes it, or when its time is over and it is swept out (`Service.Course.held?_cases`).

So whatever the ledger holds was given out, and nobody has used it up since
(`Service.Course.granted_of_held?`). If no token is made up twice, then no token is used up twice
either: both times it would have been in the ledger, given out in one and the same move, and the
second time nobody could have used it up since (`Service.Course.Answers.eq_of_redeem`).
-/

namespace Rendezvous.Service

/-! ### The house and its ledger -/

namespace House

variable {h : House} {luck : Luck}

theorem issue_cases (h : House) (luck : Luck) (fresh : String) (user : UserId) (life : Nanos) :
    ((h.issue luck fresh user life).1 = .ok fresh ∧ ∀ token,
      (h.issue luck fresh user life).2.ledger.held? token =
        if token = fresh then some ⟨user, h.now - luck.delay + life⟩ else h.ledger.held? token) ∨
    (∃ e, (h.issue luck fresh user life).1 = .error e ∧ (h.issue luck fresh user life).2 = h) := by
  unfold issue
  cases luck.holderFailure with
  | some e => exact Or.inr ⟨e, rfl, rfl⟩
  | none =>
    cases hi : h.ledger.issue? (h.now - luck.delay) fresh user life with
    | none => exact Or.inr ⟨_, rfl, rfl⟩
    | some ledger => exact Or.inl ⟨rfl, Ledger.held?_issue? hi⟩

/-- Using a token takes it out, unless the ledger fails. -/
theorem redeem_cases (h : House) (luck : Luck) (token : String) :
    (h.redeem luck token).2.ledger = h.ledger.revoke token ∨
    ((h.redeem luck token).2.ledger = h.ledger ∧ ∃ e, (h.redeem luck token).1 = .error e) := by
  unfold redeem
  cases luck.holderFailure with
  | none => exact Or.inl rfl
  | some e =>
    cases luck.tokenLost with
    | true => exact Or.inl rfl
    | false => exact Or.inr ⟨rfl, e, rfl⟩

/-- Who may use a token is in the ledger, and in time. -/
theorem redeem_eq_ok {user : UserId} {token : String}
    (hok : (h.redeem luck token).1 = .ok (some user)) :
    ∃ e, h.ledger.held? token = some e ∧ h.now + luck.delay < e.expiresAt ∧ e.user = user := by
  unfold redeem at hok
  split at hok
  · exact absurd hok (by simp)
  · exact Ledger.redeem_fst_eq_some_iff.1 (Except.ok.inj hok)

/-- Who is in the ledger, and in time, may use the token. -/
theorem redeem_of_held? {token : String} {e : LedgerEntry} (hluck : luck.holderFailure = none)
    (he : h.ledger.held? token = some e) (hlate : h.now + luck.delay < e.expiresAt) :
    (h.redeem luck token).1 = .ok (some e.user) := by
  unfold redeem
  simp only [hluck]
  exact congrArg Except.ok (Ledger.redeem_fst_eq_some_iff.2 ⟨e, he, hlate, rfl⟩)

theorem revoke_cases (h : House) (luck : Luck) (token : String) :
    (h.revoke luck token).2.ledger = h.ledger.revoke token ∨ (h.revoke luck token).2 = h := by
  unfold revoke
  cases luck.holderFailure with
  | none => exact Or.inl rfl
  | some e =>
    cases luck.tokenLost with
    | true => exact Or.inl rfl
    | false => exact Or.inr rfl

/-- Answering a call takes no time. -/
theorem now_serve (fresh : String) (luck : Luck) (found : Option ConnectionId) (call : Call)
    (h : House) : (serve fresh luck found call h).2.now = h.now := by
  rcases h.serve_cases fresh luck found call with
    ⟨ledger, he⟩ | ⟨q, -, -, he⟩ | ⟨user, notice, id, -, -, he⟩ <;> rw [he]

end House

namespace Course

variable {c : Course} {k n : Nat} {luck : Luck} {past : List Exchange} {user : UserId}
  {token : String}

/-- A reader has nothing to do with the clock and the ledger. -/
theorem now_hear (terms : Terms) (s : Scene) (i : Nat) (ch : Channel) (m : Inbound) :
    (s.hear terms i ch m).house.now = s.house.now ∧
      (s.hear terms i ch m).house.ledger = s.house.ledger := by
  rw [house_hear]
  rcases house_touch s ch.serving.id m with he | he <;> rw [he] <;> exact ⟨rfl, rfl⟩

/-- **The clock does not go back.** -/
theorem now_le_succ (c : Course) (k : Nat) :
    (c.scene k).house.now ≤ (c.scene (k + 1)).house.now := by
  have heffect := c.effect k
  generalize c.move k = m, c.scene (k + 1) = s' at heffect
  cases heffect with
  | answered => exact Nat.le_of_eq (House.now_serve ..).symm
  | @revoked i luck ch =>
    obtain ⟨ledger, he⟩ := (c.scene k).house.revoke_eq luck ch.serving.token
    exact Nat.le_of_eq (congrArg House.now he).symm
  | heard => exact Nat.le_of_eq (now_hear ..).1.symm
  | waited => exact Nat.le_add_right ..
  | _ => exact Nat.le_refl _

/-! ### The calls that deal with tokens -/

/-- No visit revokes a token. -/
theorem Answers.ne_revoke {e : Exchange} (h : c.Answers k n luck past e) (token : String) :
    e.call ≠ .revoke token := by
  obtain ⟨v, -, -, hpermitted⟩ := h.permitted
  intro he
  rw [he] at hpermitted
  cases hcause : v.cause with
  | request r =>
    rw [hcause] at hpermitted
    cases hpermitted
  | relay receiver notice =>
    rw [hcause] at hpermitted
    exact absurd hpermitted.2 (by simp)

/-- **Who uses a token** has an admissible request for a connection, and has made no call before. -/
theorem Answers.redeem {reply : Except HolderError (Option UserId)}
    (h : c.Answers k n luck past ⟨.redeem token, reply⟩) :
    past = [] ∧ ∃ v r, (c.scene k).visits[n]? = some v ∧ v.cause = .request r ∧
      Http.Admissible c.terms r token := by
  obtain ⟨v, hv, -, hpermitted⟩ := h.permitted
  cases hcause : v.cause with
  | request r =>
    rw [hcause] at hpermitted
    cases hpermitted with
    | redeem hadmissible => exact ⟨rfl, v, r, hv, hcause, hadmissible⟩
  | relay receiver notice =>
    rw [hcause] at hpermitted
    exact absurd hpermitted.2 (by simp)

/-- **Who asks for a token** has a request for one, and was named by the authenticator before. -/
theorem Answers.issue {life : Nanos} {reply : Except HolderError String}
    (h : c.Answers k n luck past ⟨.issue user life, reply⟩) :
    life = c.terms.sessionLife ∧ ∃ v r bearer, (c.scene k).visits[n]? = some v ∧
      v.cause = .request r ∧ Http.route? r = some .startSession ∧ Http.bearer? r = some bearer ∧
      past = [⟨.authenticate bearer, .ok (some user)⟩] := by
  obtain ⟨v, hv, -, hpermitted⟩ := h.permitted
  cases hcause : v.cause with
  | request r =>
    rw [hcause] at hpermitted
    cases hpermitted with
    | @issue bearer _ hroute hbearer => exact ⟨rfl, v, r, bearer, hv, hcause, hroute, hbearer, rfl⟩
  | relay receiver notice =>
    rw [hcause] at hpermitted
    exact absurd hpermitted.2 (by simp)

/-- A token that is given out is the one that was made up for the move. -/
theorem Answers.eq_mint {life : Nanos}
    (h : c.Answers k n luck past ⟨.issue user life, .ok token⟩) : token = c.mint k := by
  obtain ⟨found, hreply, -⟩ := h.serve_eq
  rcases House.issue_cases (c.scene k).house luck (c.mint k) user life with ⟨hok, -⟩ | ⟨e, he, -⟩
  · exact Except.ok.inj (hreply.symm.trans hok)
  · exact absurd (hreply.symm.trans he) (by simp)

/-! ### What becomes of a token -/

/-- A move takes a token out of the ledger, or tries to: somebody uses it, or it is revoked. -/
def TakesOut (c : Course) (k : Nat) (token : String) : Prop :=
  (∃ n luck past reply, c.Answers k n luck past ⟨.redeem token, reply⟩) ∨
    ∃ i luck ch, c.move k = .live i luck ∧ (c.scene k).channels[i]? = some ch ∧
      ch.serving.stage = .registered ∧ ch.serving.token = token

/-- **What becomes of a token**: it is given out, it is taken out, it may be swept out, or nothing
happens to it and it is not used up. -/
theorem held?_cases (c : Course) (k : Nat) (token : String) :
    (∃ n luck past user life, c.Answers k n luck past ⟨.issue user life, .ok token⟩ ∧
      (c.scene (k + 1)).house.ledger.held? token =
        some ⟨user, (c.scene k).house.now - luck.delay + life⟩) ∨
    (c.TakesOut k token ∧ (c.scene (k + 1)).house.ledger.held? token = none) ∨
    (∃ delay, c.move k = .sweep delay ∧ (c.scene (k + 1)).house.ledger.held? token =
      ((c.scene k).house.ledger.held? token).filter
        fun e => (c.scene k).house.now - delay < e.expiresAt) ∨
    ((∀ n luck past owner, ¬c.Answers k n luck past ⟨.redeem token, .ok owner⟩) ∧
      (c.scene (k + 1)).house.ledger.held? token = (c.scene k).house.ledger.held? token) := by
  -- either a visit deals with the ledger by a call, or something else happens in the house
  by_cases hanswers : ∃ n luck past e, c.Answers k n luck past e
  · obtain ⟨n, luck, past, ⟨call, reply⟩, hans⟩ := hanswers
    obtain ⟨found, hreply, hhouse⟩ := hans.serve_eq
    dsimp only at hreply hhouse
    rw [hhouse]
    -- another call than one to use the token up
    have hno : call ≠ .redeem token →
        ∀ n luck past owner, ¬c.Answers k n luck past ⟨.redeem token, .ok owner⟩ := by
      intro hne n' luck' past' owner h
      obtain ⟨-, -, -, he⟩ := hans.unique h
      exact hne (congrArg Exchange.call he)
    cases call with
    | issue user life =>
      rcases House.issue_cases (c.scene k).house luck (c.mint k) user life with
        ⟨hok, hentry⟩ | ⟨e, -, hsame⟩
      · have hentry := hentry token
        by_cases ht : token = c.mint k
        · rw [if_pos ht] at hentry
          obtain rfl : reply = .ok token := hreply.symm.trans (hok.trans (by rw [ht]))
          exact Or.inl ⟨n, luck, past, user, life, hans, hentry⟩
        · rw [if_neg ht] at hentry
          exact Or.inr (Or.inr (Or.inr ⟨hno (by simp), hentry⟩))
      · exact Or.inr (Or.inr (Or.inr ⟨hno (by simp), congrArg (·.ledger.held? token) hsame⟩))
    | redeem used =>
      rcases House.redeem_cases (c.scene k).house luck used with hout | ⟨hsame, e, herror⟩
      · have hentry : ((House.redeem (c.scene k).house luck used).2.ledger).held? token =
            if token = used then none else (c.scene k).house.ledger.held? token := by
          rw [hout, Ledger.held?_revoke]
        by_cases ht : token = used
        · subst ht
          exact Or.inr (Or.inl ⟨Or.inl ⟨n, luck, past, reply, hans⟩, hentry.trans (if_pos rfl)⟩)
        · exact Or.inr (Or.inr (Or.inr ⟨hno fun h => ht (Call.redeem.inj h).symm,
            hentry.trans (if_neg ht)⟩))
      · refine Or.inr (Or.inr (Or.inr ⟨fun n' luck' past' owner h => ?_,
          congrArg (·.held? token) hsame⟩))
        -- a ledger that fails has not said who may use the token
        obtain ⟨-, -, -, he⟩ := hans.unique h
        obtain ⟨hcall, hr⟩ := Exchange.mk.inj he
        obtain rfl := Call.redeem.inj hcall
        obtain rfl : reply = .ok owner := eq_of_heq hr
        exact absurd (hreply.symm.trans herror) (by simp)
    | revoke used => exact absurd rfl (hans.ne_revoke used)
    | store q =>
      refine Or.inr (Or.inr (Or.inr ⟨hno (by simp), ?_⟩))
      unfold House.serve
      cases luck.storeFailure <;> rfl
    | push user notice =>
      refine Or.inr (Or.inr (Or.inr ⟨hno (by simp), ?_⟩))
      cases found <;> rfl
    | authenticate bearer => exact Or.inr (Or.inr (Or.inr ⟨hno (by simp), rfl⟩))
    | connected => exact Or.inr (Or.inr (Or.inr ⟨hno (by simp), rfl⟩))
  · have hno : ∀ n luck past owner, ¬c.Answers k n luck past ⟨.redeem token, .ok owner⟩ :=
      fun n luck past owner h => hanswers ⟨n, luck, past, _, h⟩
    have heffect := c.effect k
    generalize hm : c.move k = m at heffect
    generalize c.scene (k + 1) = s' at heffect
    cases heffect with
    | @answered n luck v call next hv hseeks hflow =>
      refine absurd ⟨n, luck, v.past, ⟨call, ?_⟩, v, next, hm, hv, hseeks, rfl, hflow, ?_⟩ hanswers
      · exact (House.serve (c.mint k) luck v.found.join call (c.scene k).house).1
      · rfl
    | @revoked i luck ch hch hstage =>
      rcases House.revoke_cases (c.scene k).house luck ch.serving.token with hout | hsame
      · by_cases ht : token = ch.serving.token
        · refine Or.inr (Or.inl ⟨Or.inr ⟨i, luck, ch, hm, hch, hstage, ht.symm⟩, ?_⟩)
          simp only [hout, Ledger.held?_revoke, ht, if_true]
        · refine Or.inr (Or.inr (Or.inr ⟨hno, ?_⟩))
          simp only [hout, Ledger.held?_revoke, ht, if_false]
      · exact Or.inr (Or.inr (Or.inr ⟨hno, by simp only [hsame]⟩))
    | @swept delay =>
      exact Or.inr (Or.inr (Or.inl ⟨delay, rfl, Ledger.held?_sweep ..⟩))
    | heard => exact Or.inr (Or.inr (Or.inr ⟨hno, by rw [(now_hear ..).2]⟩))
    | _ => exact Or.inr (Or.inr (Or.inr ⟨hno, rfl⟩))

/-! ### Where a token comes from -/

/-- **A token is given to a user**: a request for a token, whose bearer the authenticator has named
before, is answered by it. -/
def Grants (c : Course) (k n : Nat) (luck : Luck) (user : UserId) (token : String) : Prop :=
  ∃ r bearer headers v, Http.route? r = some .startSession ∧ Http.bearer? r = some bearer ∧
    (∃ j < k, ∃ luck, c.Answers j n luck [] ⟨.authenticate bearer, .ok (some user)⟩) ∧
    c.Answers k n luck [⟨.authenticate bearer, .ok (some user)⟩]
      ⟨.issue user c.terms.sessionLife, .ok token⟩ ∧
    (c.scene (k + 1)).visits[n]? = some v ∧ v.cause = .request r ∧
    v.flow = .done (some (.respond ⟨200, .json (Http.tokenText token), headers⟩))

/-- **Who is given a token is answered by it at once.** -/
theorem Answers.grants {life : Nanos}
    (h : c.Answers k n luck past ⟨.issue user life, .ok token⟩) : c.Grants k n luck user token := by
  obtain ⟨rfl, w, r, bearer, hw, hcause, hroute, hbearer, rfl⟩ := h.issue
  obtain ⟨v, next, hv, hpast, hflow, hsucc⟩ := h.visit_succ
  obtain rfl : v = w := Option.some.inj (hv.symm.trans hw)
  obtain ⟨j, hj, luck', hauth⟩ := c.exists_answers hv ⟨[], hpast.symm⟩
  have hobeys := c.obeys hsucc
  simp only [Visit.answered, hcause, hpast] at hobeys
  cases hrest : next (.ok token) with
  | ask call rest =>
    -- nothing may be asked after that
    rw [hrest] at hobeys
    cases hobeys.1 with
    | store hplain => exact absurd hroute hplain.1
    | push hplain => exact absurd hroute hplain.1
    | connected hplain => exact absurd hroute hplain.1
  | done result =>
    rw [hrest] at hobeys
    obtain ⟨outcome, rfl, hrightful⟩ := hobeys
    obtain ⟨headers, rfl⟩ := hrightful.issued _ _ _ _ hroute rfl
    exact ⟨r, bearer, headers, _, hroute, hbearer, ⟨j, hj, luck', hauth⟩, h, hsucc, hcause, hrest⟩

theorem Grants.answers (h : c.Grants k n luck user token) :
    ∃ past, c.Answers k n luck past ⟨.issue user c.terms.sessionLife, .ok token⟩ := by
  obtain ⟨r, bearer, headers, v, -, -, -, hans, -⟩ := h
  exact ⟨_, hans⟩

theorem Grants.eq_mint (h : c.Grants k n luck user token) : token = c.mint k := by
  obtain ⟨past, hans⟩ := h.answers
  exact hans.eq_mint

/-- **What the ledger holds was given out**, and nobody has used it up since. -/
theorem granted_of_held? {e : LedgerEntry}
    (h : (c.scene k).house.ledger.held? token = some e) :
    ∃ i < k, ∃ m luck, c.Grants i m luck e.user token ∧
      e.expiresAt = (c.scene i).house.now - luck.delay + c.terms.sessionLife ∧
      ∀ j, i < j → j < k → ∀ n luck past owner,
        ¬c.Answers j n luck past ⟨.redeem token, .ok owner⟩ := by
  induction k generalizing e with
  | zero => exact absurd h (by simp [Scene.empty, House.empty])
  | succ k ih =>
    have hearlier : (c.scene k).house.ledger.held? token = some e →
        (∀ n luck past owner, ¬c.Answers k n luck past ⟨.redeem token, .ok owner⟩) →
        ∃ i < k + 1, ∃ m luck, c.Grants i m luck e.user token ∧
          e.expiresAt = (c.scene i).house.now - luck.delay + c.terms.sessionLife ∧
          ∀ j, i < j → j < k + 1 → ∀ n luck past owner,
            ¬c.Answers j n luck past ⟨.redeem token, .ok owner⟩ := by
      intro he hno
      obtain ⟨i, hi, m, luck, hgrants, hexp, hsince⟩ := ih he
      refine ⟨i, by omega, m, luck, hgrants, hexp, fun j hij hj => ?_⟩
      rcases Nat.lt_succ_iff_lt_or_eq.1 hj with hj | rfl
      · exact hsince j hij hj
      · exact hno
    rcases c.held?_cases k token with
      ⟨n, luck, past, user, life, hans, he⟩ | ⟨-, he⟩ | ⟨delay, hm, he⟩ | ⟨hno, he⟩ <;> rw [he] at h
    · obtain rfl := Option.some.inj h
      obtain ⟨rfl, -⟩ := hans.issue
      refine ⟨k, Nat.lt_succ_self k, n, luck, hans.grants, rfl, fun j hkj hj => ?_⟩
      omega
    · exact absurd h (by simp)
    · refine hearlier (Option.filter_eq_some_iff.1 h).1 ?_
      rintro n luck past owner ⟨v, next, hm', -⟩
      exact absurd (hm.symm.trans hm') (by simp)
    · exact hearlier h hno

/-- **Who may use a token was given it** in time, and nobody has used it up before. -/
theorem Answers.exists_grants (h : c.Answers k n luck past ⟨.redeem token, .ok (some user)⟩) :
    ∃ i < k, ∃ m luck', c.Grants i m luck' user token ∧
      (c.scene k).house.now + luck.delay <
        (c.scene i).house.now - luck'.delay + c.terms.sessionLife ∧
      ∀ j, i < j → j < k → ∀ n luck past owner,
        ¬c.Answers j n luck past ⟨.redeem token, .ok owner⟩ := by
  obtain ⟨found, hreply, -⟩ := h.serve_eq
  obtain ⟨e, he, hlate, rfl⟩ := House.redeem_eq_ok hreply
  obtain ⟨i, hi, m, luck', hgrants, hexp, hsince⟩ := granted_of_held? he
  exact ⟨i, hi, m, luck', hgrants, hexp ▸ hlate, hsince⟩

/-- **A token is used once**, if no two are the same. -/
theorem Answers.eq_of_redeem {j n' : Nat} {luck' : Luck} {past' : List Exchange} {user' : UserId}
    (hmint : Function.Injective c.mint)
    (h : c.Answers j n luck past ⟨.redeem token, .ok (some user)⟩)
    (h' : c.Answers k n' luck' past' ⟨.redeem token, .ok (some user')⟩) : j = k := by
  have hlater : ∀ {j k n n' luck luck' past past' user user'},
      c.Answers j n luck past ⟨.redeem token, .ok (some user)⟩ →
      c.Answers k n' luck' past' ⟨.redeem token, .ok (some user')⟩ → ¬j < k := by
    intro j k n n' luck luck' past past' user user' h h' hjk
    -- the token was given out in one move only, and the first use comes after it
    obtain ⟨i, hi, m, l, hgrants, -, -⟩ := h.exists_grants
    obtain ⟨i', hi', m', l', hgrants', -, hsince⟩ := h'.exists_grants
    obtain rfl : i = i' := hmint (hgrants.eq_mint.symm.trans hgrants'.eq_mint)
    exact hsince j hi hjk _ _ _ _ h
  have h1 := hlater h h'
  have h2 := hlater h' h
  omega

end Course

end Rendezvous.Service
