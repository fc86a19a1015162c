import Mathlib.Data.List.Infix
import Rendezvous.Proofs.Service.Scene

/-!
# What becomes of visits and channels

A visit is begun, looks for the connections to which it has something to push, has its calls
answered one after the other, and may be promised a connection, which is taken over once. Nothing
else ever happens to it (`Service.Course.visit_cases`). By induction on what becomes of a visit
(`Service.Course.visit_induction`), two things are true at any moment:

* what is left of a visit keeps to the contract of its cause after its past
  (`Service.Course.obeys`);
* everything in its past was answered in a move of the course, in the same order
  (`Service.Course.exists_answers`).

The past of a visit only grows, and a visit that is over stays as it is, but for the connection that
it was promised (`Service.Course.visit_later`). A channel comes from a promise to a visit and serves
the same connection for the same user as long as there is a course (`Service.Course.channel_cases`).
-/

namespace Rendezvous

/-! ### The life of a connection -/

namespace Serving

/-- The same connection, for the same user and with the same token. -/
structure Continues (s' s : Serving) : Prop where
  /-- It is the same connection. -/
  id : s'.id = s.id
  /-- It is for the same user. -/
  user : s'.user = s.user
  /-- It was opened with the same token. -/
  token : s'.token = s.token

theorem Continues.refl (s : Serving) : s.Continues s :=
  ⟨rfl, rfl, rfl⟩

/-- **A step in the switchboard**: the connection enters it, the one before is closed, or it is taken
out or closed itself. -/
theorem step?_cases {s s' : Serving} {h h' : Switchboard} (hstep : s.step? h = some (s', h')) :
    s'.Continues s ∧
      (h' = (h.enter s.id).2 ∨ (∃ id, h' = h.close id) ∨ h' = h ∨
        h' = (h.unregister s.user s.id).2) := by
  unfold step? at hstep
  split at hstep <;> simp only [reduceCtorEq, Option.some.injEq, Prod.mk.injEq] at hstep
  all_goals obtain ⟨rfl, rfl⟩ := hstep
  · exact ⟨⟨rfl, rfl, rfl⟩, Or.inl rfl⟩
  · exact ⟨⟨rfl, rfl, rfl⟩, Or.inr (Or.inl ⟨_, rfl⟩)⟩
  · exact ⟨⟨rfl, rfl, rfl⟩, Or.inr (Or.inr (Or.inl rfl))⟩
  · exact ⟨⟨rfl, rfl, rfl⟩, Or.inr (Or.inr (Or.inr rfl))⟩
  · exact ⟨⟨rfl, rfl, rfl⟩, Or.inr (Or.inl ⟨_, rfl⟩)⟩

theorem continues_tokenRevoked (s : Serving) : s.tokenRevoked.Continues s := by
  unfold tokenRevoked
  split <;> exact ⟨rfl, rfl, rfl⟩

theorem continues_leave (s : Serving) (reason : Departure) : (s.leave reason).Continues s := by
  unfold leave
  split <;> exact ⟨rfl, rfl, rfl⟩

theorem continues_writerEnded (s : Serving) : s.writerEnded.Continues s := by
  unfold writerEnded
  split <;> exact ⟨rfl, rfl, rfl⟩

end Serving

namespace Service

/-! ### Lists with something put in -/

theorem getElem?_concat_cases {α : Type} {l : List α} {a b : α} {i : Nat}
    (h : (l ++ [a])[i]? = some b) : l[i]? = some b ∨ (i = l.length ∧ b = a) := by
  rcases Nat.lt_trichotomy i l.length with hi | rfl | hi
  · exact Or.inl (by rwa [List.getElem?_append_left hi] at h)
  · exact Or.inr ⟨rfl, by simpa using h.symm⟩
  · rw [List.getElem?_eq_none (by simp; omega)] at h
    exact absurd h (by simp)

theorem getElem?_set_cases {α : Type} {l : List α} {a b : α} {i j : Nat}
    (h : (l.set j a)[i]? = some b) : (i ≠ j ∧ l[i]? = some b) ∨ (i = j ∧ b = a) := by
  by_cases hij : j = i
  · subst hij
    have hlt : j < l.length := by
      have := (List.getElem?_eq_some_iff.1 h).1
      simpa using this
    exact Or.inr ⟨rfl, by simpa [hlt] using h.symm⟩
  · exact Or.inl ⟨fun e => hij e.symm, by rwa [List.getElem?_set_ne hij] at h⟩

/-! ### The contract of a visit -/

namespace Cause

/-- The calls that may be made because of something. -/
def Permitted (terms : Terms) : Cause → List Exchange → Call → Prop
  | .request r => Http.Permitted terms r
  | .relay receiver notice => fun past call => past = [] ∧ call = .push receiver notice

/-- What may come of something. -/
def Rightful : Cause → List Exchange → Option Http.Outcome → Prop
  | .request r => fun past result => ∃ outcome, result = some outcome ∧ Http.Rightful r past outcome
  | .relay .. => fun _ result => result = none

/-- **What has to be done keeps to the contract.** -/
theorem flow_obeys (terms : Terms) (cause : Cause) :
    (cause.flow terms).Obeys (cause.Permitted terms) cause.Rightful [] := by
  cases cause with
  | request r => exact (Http.handle_obeys terms r).bind fun _ outcome h => ⟨outcome, rfl, h⟩
  | relay receiver notice => exact ⟨⟨rfl, rfl⟩, fun _ => rfl⟩

end Cause

namespace Course

variable {c : Course} {k n : Nat} {luck : Luck} {past : List Exchange} {e : Exchange}

/-! ### Answers -/

/-- **A call of a visit is answered** by this move of a course, after this past. -/
def Answers (c : Course) (k n : Nat) (luck : Luck) (past : List Exchange) (e : Exchange) : Prop :=
  ∃ v next, c.move k = .turn n luck ∧ (c.scene k).visits[n]? = some v ∧ v.seeks? = none ∧
    v.past = past ∧ v.flow = .ask e.call next ∧
    (House.serve (c.mint k) luck v.found.join e.call (c.scene k).house).1 = e.reply

/-- A move answers one call. -/
theorem Answers.unique {n' : Nat} {luck' : Luck} {past' : List Exchange} {e' : Exchange}
    (h : c.Answers k n luck past e) (h' : c.Answers k n' luck' past' e') :
    n = n' ∧ luck = luck' ∧ past = past' ∧ e = e' := by
  obtain ⟨v, next, hm, hv, -, rfl, hf, hr⟩ := h
  obtain ⟨v', next', hm', hv', -, rfl, hf', hr'⟩ := h'
  obtain ⟨rfl, rfl⟩ := Move.turn.inj (hm.symm.trans hm')
  obtain rfl : v = v' := Option.some.inj (hv.symm.trans hv')
  obtain ⟨call, reply⟩ := e
  obtain ⟨call', reply'⟩ := e'
  obtain ⟨rfl, -⟩ := Flow.ask.inj (hf.symm.trans hf')
  obtain rfl : reply = reply' := hr.symm.trans hr'
  exact ⟨rfl, rfl, rfl, rfl⟩

/-! ### What a move does to one visit -/

/-- What a channel has to do with a move in which its reader passes a notice on. -/
def Passes (c : Course) (k : Nat) (receiver : UserId) (notice : Notice) : Prop :=
  ∃ i m ch, c.move k = .hear i m ∧ (c.scene k).channels[i]? = some ch ∧
    ch.serving.isReading = true ∧ Reader.react ch.serving.user m = .relay receiver notice

/-- Something is begun in a move. -/
def Begins (c : Course) (k : Nat) : Cause → Prop
  | .request r => c.move k = .arrive r
  | .relay receiver notice => c.Passes k receiver notice

@[simp] theorem channels_touch (s : Scene) (id : ConnectionId) (m : Inbound) :
    (s.touch id m).channels = s.channels := by
  unfold Scene.touch
  split <;> rfl

@[simp] theorem visits_touch (s : Scene) (id : ConnectionId) (m : Inbound) :
    (s.touch id m).visits = s.visits := by
  unfold Scene.touch
  split <;> rfl

/-- A sign of life is at most noted at the connection. -/
theorem house_touch (s : Scene) (id : ConnectionId) (m : Inbound) :
    (s.touch id m).house = s.house ∨ (s.touch id m).house =
      { s.house with board := s.house.board.touch id s.house.now } := by
  unfold Scene.touch
  split
  · exact Or.inr rfl
  · exact Or.inl rfl

/-- What a reader does to the house is to note the sign of life. -/
theorem house_hear (terms : Terms) (s : Scene) (i : Nat) (ch : Channel) (m : Inbound) :
    (s.hear terms i ch m).house = (s.touch ch.serving.id m).house := by
  unfold Scene.hear
  split <;> rfl

/-- The visits after a reader has dealt with what has come. -/
theorem visits_hear (terms : Terms) (s : Scene) (i : Nat) (ch : Channel) (m : Inbound) :
    (s.hear terms i ch m).visits = s.visits ∨
    ∃ receiver notice, Reader.react ch.serving.user m = .relay receiver notice ∧
      (s.hear terms i ch m).visits = s.visits ++ [.begun terms (.relay receiver notice)] := by
  unfold Scene.hear
  split
  · exact Or.inl (visits_touch ..)
  · next receiver notice hreact =>
    exact Or.inr ⟨receiver, notice, hreact, by simp [Scene.begin]⟩
  · exact Or.inl (visits_touch ..)

/-- **What becomes of one visit**: it was there before, it has just begun, it has looked for a
connection, one of its calls was answered, or the connection that it was promised is taken over. -/
theorem visit_cases {i : Nat} {v' : Visit} (h : (c.scene (k + 1)).visits[i]? = some v') :
    (c.scene k).visits[i]? = some v' ∨
    (∃ cause, c.Begins k cause ∧ i = (c.scene k).visits.length ∧ v' = .begun c.terms cause) ∨
    (∃ v user, (c.scene k).visits[i]? = some v ∧ v.seeks? = some user ∧
      v' = { v with found := some ((c.scene k).house.board.current? user) }) ∨
    (∃ luck v e next, c.Answers k i luck v.past e ∧ (c.scene k).visits[i]? = some v ∧
      v.flow = .ask e.call next ∧ v' = v.answered e.call e.reply (next e.reply)) ∨
    (∃ v user token, c.move k = .promote i ∧ (c.scene k).visits[i]? = some v ∧
      v.promise? = some (user, token) ∧ v' = { v with promoted := true }) := by
  have heffect := c.effect k
  generalize hm : c.move k = m at heffect
  generalize c.scene (k + 1) = s' at heffect h
  cases heffect with
  | arrived =>
    rcases getElem?_concat_cases h with h | ⟨rfl, rfl⟩
    · exact Or.inl h
    · exact Or.inr (Or.inl ⟨.request _, hm, rfl, rfl⟩)
  | @sought n luck v user hv hseeks =>
    rcases getElem?_set_cases h with ⟨-, h⟩ | ⟨rfl, rfl⟩
    · exact Or.inl h
    · exact Or.inr (Or.inr (Or.inl ⟨v, user, hv, hseeks, rfl⟩))
  | @answered n luck v call next hv hseeks hflow =>
    rcases getElem?_set_cases h with ⟨-, h⟩ | ⟨rfl, rfl⟩
    · exact Or.inl h
    · exact Or.inr (Or.inr (Or.inr (Or.inl ⟨luck, v, ⟨call, _⟩, next,
        ⟨v, next, hm, hv, hseeks, rfl, hflow, rfl⟩, hv, hflow, rfl⟩)))
  | @promoted n v user token hv hpromise =>
    rcases getElem?_set_cases h with ⟨-, h⟩ | ⟨rfl, rfl⟩
    · exact Or.inl h
    · exact Or.inr (Or.inr (Or.inr (Or.inr ⟨v, user, token, rfl, hv, hpromise, rfl⟩)))
  | @heard j m ch hch hreading =>
    rcases visits_hear c.terms (c.scene k) j ch m with he | ⟨receiver, notice, hreact, he⟩ <;>
      rw [he] at h
    · exact Or.inl h
    · rcases getElem?_concat_cases h with h | ⟨rfl, rfl⟩
      · exact Or.inl h
      · exact Or.inr (Or.inl ⟨.relay receiver notice, ⟨j, m, ch, hm, hch, hreading, hreact⟩, rfl, rfl⟩)
  | _ => exact Or.inl h

/-- **What is true of a visit at any moment** is true of it when it begins, and stays true of it
whatever becomes of it. -/
theorem visit_induction (I : Nat → Visit → Prop)
    (hbegun : ∀ k cause, c.Begins k cause → I (k + 1) (.begun c.terms cause))
    (hstay : ∀ k v, I k v → I (k + 1) v)
    (hsought : ∀ k v user, v.seeks? = some user → I k v →
      I (k + 1) { v with found := some ((c.scene k).house.board.current? user) })
    (hanswered : ∀ k luck v e next, c.Answers k n luck v.past e → v.flow = .ask e.call next →
      I k v → I (k + 1) (v.answered e.call e.reply (next e.reply)))
    (hpromoted : ∀ k v user token, (c.scene k).visits[n]? = some v →
      v.promise? = some (user, token) → I k v → I (k + 1) { v with promoted := true })
    {v : Visit} (h : (c.scene k).visits[n]? = some v) : I k v := by
  induction k generalizing v with
  | zero => simp [Scene.empty] at h
  | succ k ih =>
    rcases visit_cases h with h | ⟨cause, hbegins, -, rfl⟩ | ⟨v, user, hv, hseeks, rfl⟩ |
      ⟨luck, v, e, next, hans, hv, hflow, rfl⟩ | ⟨v, user, token, -, hv, hpromise, rfl⟩
    · exact hstay k v (ih h)
    · exact hbegun k cause hbegins
    · exact hsought k v user hseeks (ih hv)
    · exact hanswered k luck v e next hans hflow (ih hv)
    · exact hpromoted k v user token hv hpromise (ih hv)

/-! ### The contract at every moment -/

/-- **What is left of a visit keeps to the contract of its cause.** -/
theorem obeys {v : Visit} (h : (c.scene k).visits[n]? = some v) :
    v.flow.Obeys (v.cause.Permitted c.terms) v.cause.Rightful v.past := by
  refine visit_induction
    (fun _ v => v.flow.Obeys (v.cause.Permitted c.terms) v.cause.Rightful v.past)
    (fun _ cause _ => cause.flow_obeys c.terms) (fun _ _ hv => hv) (fun _ _ _ _ hv => hv) ?_
    (fun _ _ _ _ _ _ hv => hv) h
  intro k luck v e next _ hflow hv
  rw [hflow] at hv
  exact hv.2 e.reply

/-- **Every visit has begun** for its cause. -/
theorem exists_begins {v : Visit} (h : (c.scene k).visits[n]? = some v) :
    ∃ j < k, c.Begins j v.cause := by
  have hlater : ∀ k (v : Visit), (∃ j < k, c.Begins j v.cause) →
      ∃ j < k + 1, c.Begins j v.cause := by
    rintro k v ⟨j, hj, hbegins⟩
    exact ⟨j, Nat.lt_succ_of_lt hj, hbegins⟩
  refine visit_induction (fun k v => ∃ j < k, c.Begins j v.cause)
    (fun k _ hbegins => ⟨k, Nat.lt_succ_self k, hbegins⟩) hlater ?_ ?_ ?_ h
  · exact fun k v _ _ hv => hlater k v hv
  · exact fun k _ v _ _ _ _ hv => hlater k v hv
  · exact fun k v _ _ _ _ hv => hlater k v hv

/-- A call that is answered may be made. -/
theorem Answers.permitted (h : c.Answers k n luck past e) :
    ∃ v, (c.scene k).visits[n]? = some v ∧ v.past = past ∧
      v.cause.Permitted c.terms past e.call := by
  obtain ⟨v, next, -, hv, -, rfl, hflow, -⟩ := h
  have hobeys := c.obeys hv
  rw [hflow] at hobeys
  exact ⟨v, hv, rfl, hobeys.1⟩

/-- **The past of a visit was answered**, move by move. -/
theorem exists_answers {v : Visit} (h : (c.scene k).visits[n]? = some v)
    (hpast : e :: past <:+ v.past) : ∃ j < k, ∃ luck, c.Answers j n luck past e := by
  have hlater : ∀ k, (∃ j < k, ∃ luck, c.Answers j n luck past e) →
      ∃ j < k + 1, ∃ luck, c.Answers j n luck past e := by
    rintro k ⟨j, hj, hans⟩
    exact ⟨j, Nat.lt_succ_of_lt hj, hans⟩
  refine visit_induction
    (fun k v => e :: past <:+ v.past → ∃ j < k, ∃ luck, c.Answers j n luck past e)
    ?_ ?_ ?_ ?_ ?_ h hpast
  · intro k cause _ hpast
    simp [Visit.begun] at hpast
  · exact fun k v hv hpast => hlater k (hv hpast)
  · exact fun k v _ _ hv hpast => hlater k (hv hpast)
  · -- the last answer is the one of this move, and all others came before
    intro k luck v e' next hans _ hv hpast
    rcases List.suffix_cons_iff.1 hpast with heq | hsuffix
    · obtain ⟨rfl, rfl⟩ := List.cons.inj heq
      exact ⟨k, Nat.lt_succ_self k, luck, hans⟩
    · exact hlater k (hv hsuffix)
  · exact fun k v _ _ _ _ hv hpast => hlater k (hv hpast)

/-! ### What lasts -/

/-- **A visit after one more move**: it has the same cause, its past has only grown, and it is
promoted if it was. If nothing was left to do, nothing has changed. -/
theorem visit_succ {v : Visit} (h : (c.scene k).visits[n]? = some v) :
    ∃ v', (c.scene (k + 1)).visits[n]? = some v' ∧ v'.cause = v.cause ∧ v.past <:+ v'.past ∧
      (v.promoted = true → v'.promoted = true) ∧
      (∀ result, v.flow = .done result → v'.flow = .done result ∧ v'.past = v.past) := by
  have hn : n < (c.scene k).visits.length := (List.getElem?_eq_some_iff.1 h).1
  -- no visit is ever taken away, so that there is one under this number
  have hlength : (c.scene k).visits.length ≤ (c.scene (k + 1)).visits.length := by
    have heffect := c.effect k
    generalize c.move k = m, c.scene (k + 1) = s' at heffect
    cases heffect with
    | arrived => simp [Scene.begin]
    | promoted => simp [Scene.promote]
    | @heard j m ch =>
      rcases visits_hear c.terms (c.scene k) j ch m with he | ⟨receiver, notice, -, he⟩ <;> simp [he]
    | _ => simp
  obtain ⟨v', hv'⟩ : ∃ v', (c.scene (k + 1)).visits[n]? = some v' :=
    ⟨_, List.getElem?_eq_getElem (Nat.lt_of_lt_of_le hn hlength)⟩
  refine ⟨v', hv', ?_⟩
  rcases visit_cases hv' with hv | ⟨cause, -, rfl, -⟩ | ⟨w, user, hw, -, rfl⟩ |
    ⟨luck, w, e, next, -, hw, hflow, rfl⟩ | ⟨w, user, token, -, hw, -, rfl⟩
  · obtain rfl : v = v' := Option.some.inj (h.symm.trans hv)
    exact ⟨rfl, List.suffix_rfl, id, fun _ hover => ⟨hover, rfl⟩⟩
  · exact absurd hn (Nat.lt_irrefl _)
  · obtain rfl : v = w := Option.some.inj (h.symm.trans hw)
    exact ⟨rfl, List.suffix_rfl, id, fun _ hover => ⟨hover, rfl⟩⟩
  · obtain rfl : v = w := Option.some.inj (h.symm.trans hw)
    refine ⟨rfl, List.suffix_cons _ _, id, fun result hover => ?_⟩
    rw [hover] at hflow
    exact absurd hflow (by simp)
  · obtain rfl : v = w := Option.some.inj (h.symm.trans hw)
    exact ⟨rfl, List.suffix_rfl, fun _ => rfl, fun _ hover => ⟨hover, rfl⟩⟩

/-- **A visit at a later moment.** -/
theorem visit_later {j : Nat} {v : Visit} (hjk : j ≤ k) (h : (c.scene j).visits[n]? = some v) :
    ∃ v', (c.scene k).visits[n]? = some v' ∧ v'.cause = v.cause ∧ v.past <:+ v'.past ∧
      (v.promoted = true → v'.promoted = true) ∧
      (∀ result, v.flow = .done result → v'.flow = .done result ∧ v'.past = v.past) := by
  induction hjk with
  | refl => exact ⟨v, h, rfl, List.suffix_rfl, id, fun _ hover => ⟨hover, rfl⟩⟩
  | @step k _ ih =>
    obtain ⟨w, hw, hcause, hpast, hpromoted, hover⟩ := ih
    obtain ⟨v', hv', hcause', hpast', hpromoted', hover'⟩ := c.visit_succ hw
    refine ⟨v', hv', hcause'.trans hcause, hpast.trans hpast',
      fun hp => hpromoted' (hpromoted hp), fun result hresult => ?_⟩
    obtain ⟨hflow, heq⟩ := hover result hresult
    obtain ⟨hflow', heq'⟩ := hover' result hflow
    exact ⟨hflow', heq'.trans heq⟩

/-- A call that is answered stands in the past of its visit from then on. -/
theorem Answers.visit_succ (h : c.Answers k n luck past e) :
    ∃ v next, (c.scene k).visits[n]? = some v ∧ v.past = past ∧ v.flow = .ask e.call next ∧
      (c.scene (k + 1)).visits[n]? = some (v.answered e.call e.reply (next e.reply)) := by
  obtain ⟨v, next, hm, hv, hseeks, hpast, hflow, hreply⟩ := h
  refine ⟨v, next, hv, hpast, hflow, ?_⟩
  have hn : n < (c.scene k).visits.length := (List.getElem?_eq_some_iff.1 hv).1
  rw [scene_succ, hm, Scene.step, hv]
  simp [Visit.turn?, hseeks, hflow, hreply, hn]

/-- What the house replies, and what becomes of it. -/
theorem Answers.serve_eq (h : c.Answers k n luck past e) :
    ∃ found, (House.serve (c.mint k) luck found e.call (c.scene k).house).1 = e.reply ∧
      (c.scene (k + 1)).house = (House.serve (c.mint k) luck found e.call (c.scene k).house).2 := by
  obtain ⟨v, next, hm, hv, hseeks, hpast, hflow, hreply⟩ := h
  refine ⟨v.found.join, hreply, ?_⟩
  rw [scene_succ, hm, Scene.step, hv]
  simp [Visit.turn?, hseeks, hflow]

/-- A visit makes no two calls after the same past. -/
theorem Answers.eq_of_past {j : Nat} {luck' : Luck} {e' : Exchange}
    (h : c.Answers j n luck past e) (h' : c.Answers k n luck' past e') : j = k := by
  -- after the first of the two answers the past has an exchange more
  have hlater : ∀ {j k luck luck' e e'}, c.Answers j n luck past e → c.Answers k n luck' past e' →
      ¬j < k := by
    intro j k luck luck' e e' h h' hjk
    obtain ⟨v, next, -, hpast, -, hsucc⟩ := h.visit_succ
    obtain ⟨w, -, hw, hpast', -⟩ := h'.visit_succ
    obtain ⟨w', hw', -, hsuffix, -⟩ := c.visit_later (Nat.succ_le_of_lt hjk) hsucc
    obtain rfl : w = w' := Option.some.inj (hw.symm.trans hw')
    have hlength := hsuffix.length_le
    simp only [Visit.answered, hpast, hpast', List.length_cons] at hlength
    omega
  have h1 := hlater h h'
  have h2 := hlater h' h
  omega

/-- A visit without a past has everything left to do. -/
theorem flow_of_past_nil {v : Visit} (h : (c.scene k).visits[n]? = some v) (hpast : v.past = []) :
    v.flow = v.cause.flow c.terms := by
  refine visit_induction (fun _ v => v.past = [] → v.flow = v.cause.flow c.terms)
    (fun _ _ _ _ => rfl) (fun _ _ hv => hv) (fun _ _ _ _ hv => hv) ?_
    (fun _ _ _ _ _ _ hv => hv) h hpast
  intro k luck v e next _ _ _ hpast
  exact absurd hpast (by simp [Visit.answered])

/-! ### Channels -/

/-- **A connection is started** in a move: the one that a visit was promised is taken over. -/
def Starts (c : Course) (k n : Nat) (user : UserId) (token : String) : Prop :=
  c.move k = .promote n ∧
    ∃ v, (c.scene k).visits[n]? = some v ∧ v.promise? = some (user, token)

/-- **What becomes of one channel**: it serves the same connection as before, or it was started. -/
theorem channel_cases {i : Nat} {ch' : Channel} (h : (c.scene (k + 1)).channels[i]? = some ch') :
    (∃ ch, (c.scene k).channels[i]? = some ch ∧ ch'.serving.Continues ch.serving) ∨
    (∃ n user token, c.Starts k n user token ∧ ch' = ⟨(Serving.start (c.scene k).house.board user
      token (c.scene k).house.now).1, none⟩) := by
  have heffect := c.effect k
  generalize hm : c.move k = m at heffect
  generalize c.scene (k + 1) = s' at heffect h
  -- most moves put a channel in the place of the one that it continues
  have hset : ∀ {j : Nat} {ch w : Channel}, (c.scene k).channels[j]? = some ch →
      w.serving.Continues ch.serving → ((c.scene k).channels.set j w)[i]? = some ch' →
      ∃ ch, (c.scene k).channels[i]? = some ch ∧ ch'.serving.Continues ch.serving := by
    intro j ch w hch hsame hset
    rcases getElem?_set_cases hset with ⟨-, h⟩ | ⟨rfl, rfl⟩
    · exact ⟨ch', h, .refl _⟩
    · exact ⟨ch, hch, hsame⟩
  cases heffect with
  | @promoted n v user token hv hpromise =>
    rcases getElem?_concat_cases h with h | ⟨rfl, rfl⟩
    · exact Or.inl ⟨ch', h, .refl _⟩
    · exact Or.inr ⟨n, user, token, ⟨hm, v, hv, hpromise⟩, rfl⟩
  | lived hch hstep => exact Or.inl (hset hch (Serving.step?_cases hstep).1 h)
  | revoked hch hstage => exact Or.inl (hset hch (Serving.continues_tokenRevoked _) h)
  | ended hch => exact Or.inl (hset hch (Serving.continues_writerEnded _) h)
  | left hch => exact Or.inl (hset hch (Serving.continues_leave _ _) h)
  | @heard j m ch hch hreading =>
    unfold Scene.hear at h
    split at h
    · exact Or.inl ⟨ch', by simpa using h, .refl _⟩
    · exact Or.inl (hset hch (w := ⟨ch.serving, some (c.scene k).visits.length⟩) (.refl _)
        (by simpa [Scene.begin] using h))
    · exact Or.inl (hset hch (Serving.continues_leave _ _) (by simpa using h))
  | _ => exact Or.inl ⟨ch', h, .refl _⟩

/-- **Every channel was started** for its user, with its token. -/
theorem exists_starts {i : Nat} {ch : Channel} (h : (c.scene k).channels[i]? = some ch) :
    ∃ j < k, ∃ n, c.Starts j n ch.serving.user ch.serving.token := by
  induction k generalizing ch with
  | zero => simp [Scene.empty] at h
  | succ k ih =>
    rcases channel_cases h with ⟨w, hw, -, huser, htoken⟩ | ⟨n, user, token, hstarts, rfl⟩
    · obtain ⟨j, hj, n, hstarts⟩ := ih hw
      exact ⟨j, by omega, n, by rw [huser, htoken]; exact hstarts⟩
    · exact ⟨k, Nat.lt_succ_self k, n, hstarts⟩

end Course

end Service

end Rendezvous
