import Mathlib.Data.List.Basic
import Rendezvous.Proofs.Traffic.Scene

/-!
# The stages of an errand

What is left of an errand says how far it has got. A decision goes through a handful of *stages*
(`Traffic.Stage`): it is recorded, the reverse decision is looked up, the chat of the match is
opened, the two users are told, one after the other. `Traffic.Stage.flow` is what is left to do at a
stage, and `Traffic.Stage.turn` says to which stage the next reply leads; that the flow of a
decision moves from stage to stage in this way, and in no other, is `Traffic.Stage.step?_flow`. The two other
errands need no stages: all that matters about them is what they may ask for at all.

Every visit of every course is at one of these stages (`Traffic.Course.mannered`). What a visit asks
of the store is therefore one of seven requests (`Traffic.Visit.Mannered.request_cases`), and this
is all that the proofs about courses know about the errands.
-/

namespace Rendezvous

namespace Traffic

/-! ### The stages of a decision -/

/-- How far a decision has got. -/
inductive Stage where
  /-- The decision is to be recorded. -/
  | recording
  /-- It is a like and recorded; the reverse decision is to be looked up. -/
  | checking
  /-- The reverse decision was a like; the chat of the match is to be opened. -/
  | opening
  /-- The chat was opened now; the match is to be announced, beginning with the one who decided. -/
  | telling (chat : ChatId)
  /-- The one who decided is told; the other one is to be told. -/
  | tellingOther (chat : ChatId)
  /-- The decision is over. -/
  | ended (result : Except Refusal DecisionOutcome)

namespace Stage

variable {actor target : UserId} {action : Decision}

/-- What is left of a match that is to be announced. -/
def announcement (actor target : UserId) (chat : ChatId) : Task DecisionOutcome := do
  Pairing.announce chat actor target
  pure (.ofMatch target chat)

/-- What is left of a decision. -/
def flow (actor target : UserId) (action : Decision) :
    Stage → Flow (Except Refusal DecisionOutcome)
  | .recording => (do
      Task.store (.recordSwipe actor target action)
      match action with
      | .dislike => pure (.decided .dislike)
      | .like =>
        if ← Task.store (.likes target actor) then Pairing.pair actor target
        else pure (.decided .like) : Task DecisionOutcome).run
  | .checking => (do
      if ← Task.store (.likes target actor) then Pairing.pair actor target
      else pure (.decided .like) : Task DecisionOutcome).run
  | .opening => (Pairing.pair actor target).run
  | .telling chat => (announcement actor target chat).run
  | .tellingOther chat => (do
      let _ ← Task.push target (.paired chat actor matchGreeting)
      pure (.ofMatch target chat) : Task DecisionOutcome).run
  | .ended result => .done result

/-- The stage at which a decision begins. Nobody decides about himself. -/
def first (actor target : UserId) : Stage :=
  if actor = target then .ended (.error .selfTarget) else .recording

theorem flow_first : (first actor target).flow actor target action =
    (Pairing.decide actor target action).run := by
  unfold first Pairing.decide
  split <;> rfl

/-- The stage after a decision was recorded. -/
def afterRecording : Decision → Stage
  | .like => .checking
  | .dislike => .ended (.ok (.decided .dislike))

/-- The stage after the reverse decision was looked up. -/
def afterChecking : Bool → Stage
  | true => .opening
  | false => .ended (.ok (.decided .like))

/-- The stage after the chat of a match was asked for. -/
def afterOpening (target : UserId) : Except StoreError (ChatId × Bool) → Stage
  | .ok (chat, true) => .telling chat
  | .ok (chat, false) => .ended (.ok (.ofMatch target chat))
  | .error e => .ended (.error (.ofStore e))

/-- Something asked of the store at a stage, and the stages that its replies lead to. -/
def askStore (luck : Luck) (a : Annals) (r : StoreRequest) (next : r.Answer → Stage) :
    Stage × Annals :=
  match luck.serve (.store r) a with
  | (.ok answer, a') => (next answer, a')
  | (.error e, a') => (.ended (.error (.ofStore e)), a')

/-- The stage that a turn leads to, and the annals after it. -/
def turn (actor target : UserId) (action : Decision) (luck : Luck) (a : Annals) :
    Stage → Option (Stage × Annals)
  | .recording =>
    some (askStore luck a (.recordSwipe actor target action) fun _ => afterRecording action)
  | .checking => some (askStore luck a (.likes target actor) afterChecking)
  | .opening =>
    some (askStore luck a (.openMatch actor target matchGreeting) fun opened =>
      afterOpening target (.ok opened))
  | .telling chat => some (.tellingOther chat, a)
  | .tellingOther chat => some (.ended (.ok (.ofMatch target chat)), a)
  | .ended _ => none

/-- A store that does not fail answers from the tables. -/
theorem serve_store {luck : Luck} (h : luck.failure = none) (a : Annals) (r : StoreRequest) :
    luck.serve (.store r) a = a.answer luck.now r := by
  simp [Luck.serve, h]

theorem turn_recording {luck : Luck} (h : luck.failure = none) (a : Annals) :
    recording.turn actor target action luck a =
      some (afterRecording action, (a.answer luck.now (.recordSwipe actor target action)).2) := by
  rw [turn, askStore, serve_store h]
  rfl

theorem turn_checking {luck : Luck} (h : luck.failure = none) (a : Annals) :
    checking.turn actor target action luck a =
      some (afterChecking (a.records.likes target actor), a) := by
  rw [turn, askStore, serve_store h]
  rfl

/-- Opening the chat of two different users cannot be refused. -/
theorem turn_opening {luck : Luck} (action : Decision) (h : luck.failure = none)
    (hne : actor ≠ target) (a : Annals) :
    ∃ chat created, opening.turn actor target action luck a =
      some (afterOpening target (.ok (chat, created)),
        (a.answer luck.now (.openMatch actor target matchGreeting)).2) ∧
      (a.records.openMatch luck.now actor target matchGreeting).1 = .ok (chat, created) := by
  have hok : ∃ chat created,
      (a.records.openMatch luck.now actor target matchGreeting).1 = .ok (chat, created) := by
    rcases a.records.openMatch_cases luck.now actor target matchGreeting with
      ⟨he, -⟩ | ⟨-, id, -, ho⟩ | ⟨-, -, ho⟩
    · exact absurd he hne
    · exact ⟨id, false, by rw [ho]⟩
    · exact ⟨_, true, by rw [ho]⟩
  obtain ⟨chat, created, ho⟩ := hok
  refine ⟨chat, created, ?_, ho⟩
  have hans : a.answer luck.now (.openMatch actor target matchGreeting) =
      (.ok (chat, created), (a.answer luck.now (.openMatch actor target matchGreeting)).2) :=
    Prod.ext ho rfl
  rw [turn, askStore, serve_store h, hans]

theorem step?_store {α : Type} (luck : Luck) (a : Annals) (r : StoreRequest)
    (f : r.Answer → Task α) :
    (Task.store r >>= f).run.step? luck.serve a =
      some (match luck.serve (.store r) a with
        | (.ok answer, a') => ((f answer).run, a')
        | (.error e, a') => (.done (.error (.ofStore e)), a')) := by
  rw [Task.run_store_bind, Flow.step?]
  rcases luck.serve (.store r) a with ⟨_ | _, a'⟩ <;> rfl

/-- **A decision goes from stage to stage.** -/
theorem step?_flow (luck : Luck) (a : Annals) (stage : Stage) :
    (stage.flow actor target action).step? luck.serve a =
      (stage.turn actor target action luck a).map fun p => (p.1.flow actor target action, p.2) := by
  cases stage with
  | recording =>
    refine (step?_store luck a _ _).trans ?_
    simp only [turn, askStore, Option.map_some]
    rcases luck.serve (.store (.recordSwipe actor target action)) a with ⟨e | _, a'⟩
    · rfl
    · cases action <;> rfl
  | checking =>
    refine (step?_store luck a _ _).trans ?_
    simp only [turn, askStore, Option.map_some]
    rcases luck.serve (.store (.likes target actor)) a with ⟨e | liked, a'⟩
    · rfl
    · cases liked <;> rfl
  | opening =>
    refine (step?_store luck a _ _).trans ?_
    simp only [turn, askStore, Option.map_some]
    rcases luck.serve (.store (.openMatch actor target matchGreeting)) a with
      ⟨e | ⟨chat, created⟩, a'⟩
    · rfl
    · cases created <;> rfl
  | telling chat => rfl
  | tellingOther chat => rfl
  | ended result => rfl

/-- The next call of a decision at a stage. -/
def call? (actor target : UserId) (action : Decision) : Stage → Option Call
  | .recording => some (.store (.recordSwipe actor target action))
  | .checking => some (.store (.likes target actor))
  | .opening => some (.store (.openMatch actor target matchGreeting))
  | .telling chat => some (.push actor (.paired chat target matchGreeting))
  | .tellingOther chat => some (.push target (.paired chat actor matchGreeting))
  | .ended _ => none

theorem call?_of_flow {stage : Stage} {call : Call}
    {next : call.Reply → Flow (Except Refusal DecisionOutcome)}
    (h : stage.flow actor target action = .ask call next) :
    stage.call? actor target action = some call := by
  cases stage with
  | ended result => injection h
  | _ =>
    injection h with h _
    exact congrArg some h

/-- Only a decision that is over has a result. -/
theorem eq_ended_of_flow {stage : Stage} {result : Except Refusal DecisionOutcome}
    (h : stage.flow actor target action = .done result) : stage = .ended result := by
  cases stage with
  | ended result' => exact congrArg ended (Flow.done.inj h)
  | _ => exact absurd h (by intro h; injection h)

/-- A stage that a decision can be at: past the first, the two users are different, and past the
second, the decision is a like. -/
def Fits (actor target : UserId) (action : Decision) : Stage → Prop
  | .recording => actor ≠ target
  | .ended _ => True
  | _ => actor ≠ target ∧ action = .like

theorem fits_first : (first actor target).Fits actor target action := by
  unfold first
  split
  · trivial
  · assumption

/-- What is asked of the store leads on with the answer, or ends the decision. -/
theorem askStore_cases {luck : Luck} {a a' : Annals} {r : StoreRequest} {next : r.Answer → Stage}
    {stage : Stage} (h : askStore luck a r next = (stage, a')) :
    (∃ answer, luck.serve (.store r) a = (.ok answer, a') ∧ stage = next answer) ∨
    (∃ e, luck.serve (.store r) a = (.error e, a') ∧ stage = .ended (.error (.ofStore e))) := by
  unfold askStore at h
  rcases hs : luck.serve (.store r) a with ⟨e | answer, a''⟩ <;> rw [hs] at h <;>
    obtain ⟨rfl, rfl⟩ := Prod.mk.inj h
  · exact Or.inr ⟨e, rfl, rfl⟩
  · exact Or.inl ⟨answer, rfl, rfl⟩

theorem fits_afterOpening (reply : Except StoreError (ChatId × Bool)) (hne : actor ≠ target)
    (hlike : action = .like) : (afterOpening target reply).Fits actor target action := by
  rcases reply with e | ⟨chat, _ | _⟩
  · trivial
  · trivial
  · exact ⟨hne, hlike⟩

/-- A turn leads from one stage that a decision can be at to another. -/
theorem Fits.turn {luck : Luck} {a a' : Annals} {stage stage' : Stage}
    (h : stage.Fits actor target action)
    (ht : stage.turn actor target action luck a = some (stage', a')) :
    stage'.Fits actor target action := by
  cases stage with
  | recording =>
    rcases askStore_cases (Option.some.inj ht) with ⟨_, -, rfl⟩ | ⟨e, -, rfl⟩
    · cases action
      · exact ⟨h, rfl⟩
      · trivial
    · trivial
  | checking =>
    rcases askStore_cases (Option.some.inj ht) with ⟨liked, -, rfl⟩ | ⟨e, -, rfl⟩
    · cases liked
      · trivial
      · exact h
    · trivial
  | opening =>
    rcases askStore_cases (Option.some.inj ht) with ⟨reply, -, rfl⟩ | ⟨e, -, rfl⟩
    · exact fits_afterOpening _ h.1 h.2
    · trivial
  | telling chat =>
    obtain ⟨rfl, -⟩ := Prod.mk.inj (Option.some.inj ht)
    exact h
  | tellingOther chat =>
    obtain ⟨rfl, -⟩ := Prod.mk.inj (Option.some.inj ht)
    trivial
  | ended result => exact absurd ht (by simp [Stage.turn])

end Stage

/-! ### The other errands -/

/-- What may be asked for on the way of a message. -/
def IsSending : Call → Prop
  | .store (.chat _) => True
  | .store (.openChat ..) => True
  | .store (.append m) => m.kind = .text
  | .push _ (.message ..) => True
  | _ => False

theorem calls_chatFor (sender : UserId) (letter : Letter) :
    (Correspondence.chatFor sender letter).Calls IsSending := by
  unfold Correspondence.chatFor Correspondence.ownChat
  split
  · -- a chat that the sender names is looked up, and nothing is opened
    refine Task.Calls.bind (Task.Calls.bind (Task.calls_store trivial) ?_) ?_
    · intro found
      split
      · split
        · exact Task.calls_pure _
        · exact Task.calls_throw _
      · exact Task.calls_throw _
    · intro chat
      split
      · exact Task.calls_pure _
      · exact Task.calls_throw _
  · exact Task.Calls.bind (Task.calls_store trivial) fun _ => Task.calls_pure _

/-- **Sending** asks for a chat, for a message of a user to be stored, and for it to be pushed. -/
theorem calls_send (sender : UserId) (letter : Letter) :
    (Correspondence.send sender letter).Calls IsSending := by
  unfold Correspondence.send
  split
  · exact Task.calls_throw _
  · refine Task.Calls.bind (calls_chatFor sender letter) fun chat => ?_
    refine Task.Calls.bind (Task.calls_store rfl) fun stored => ?_
    exact Task.Calls.bind (Task.calls_push trivial) fun _ => Task.calls_pure _

/-! ### Visits -/

namespace Visit

/-- A decision at a stage. -/
def deciding (actor target : UserId) (action : Decision) (stage : Stage) : Visit :=
  ⟨.decide actor target action, stage.flow actor target action⟩

/-- **A visit goes about its errand**: a decision is at one of its stages, and any other errand asks
only for what it needs. -/
def Mannered : Visit → Prop
  | ⟨.decide actor target action, flow⟩ =>
    ∃ stage : Stage, flow = stage.flow actor target action ∧ stage.Fits actor target action
  | ⟨.reset actor, flow⟩ => flow.Calls (· = .store (.forgetSwipes actor))
  | ⟨.send .., flow⟩ => flow.Calls IsSending

theorem mannered_begun (e : Errand) : (begun e).Mannered := by
  cases e with
  | decide actor target action => exact ⟨_, Stage.flow_first.symm, Stage.fits_first⟩
  | reset actor => exact Task.calls_store rfl
  | send sender letter => exact calls_send sender letter

theorem Mannered.exists_stage {v : Visit} {actor target : UserId} {action : Decision}
    (h : v.Mannered) (he : v.errand = .decide actor target action) :
    ∃ stage : Stage, v = deciding actor target action stage ∧ stage.Fits actor target action := by
  obtain ⟨errand, flow⟩ := v
  subst he
  obtain ⟨stage, rfl, hfits⟩ := h
  exact ⟨stage, rfl, hfits⟩

/-- The answer to a decision at a stage leads to the next stage. -/
theorem turn_of_deciding {actor target : UserId} {action : Decision} {stage : Stage} {call : Call}
    {next : call.Reply → Flow (Except Refusal DecisionOutcome)} (luck : Luck) (a : Annals)
    (h : stage.flow actor target action = .ask call next) :
    ∃ stage', stage.turn actor target action luck a = some (stage', (luck.serve call a).2) ∧
      next (luck.serve call a).1 = stage'.flow actor target action := by
  have hstep : (stage.flow actor target action).step? luck.serve a = _ :=
    Stage.step?_flow luck a stage
  rw [h, Flow.step?] at hstep
  obtain ⟨⟨stage', a'⟩, ht, he⟩ := Option.map_eq_some_iff.1 hstep.symm
  obtain ⟨hflow, rfl⟩ := Prod.mk.inj he
  exact ⟨stage', ht, hflow.symm⟩

/-- A visit that is answered goes on about its errand. -/
theorem Mannered.answered {v : Visit} {call : Call}
    {next : call.Reply → Flow (Except Refusal v.errand.Yield)} (h : v.Mannered)
    (hf : v.flow = .ask call next) (luck : Luck) (a : Annals) :
    Mannered ⟨v.errand, next (luck.serve call a).1⟩ := by
  obtain ⟨errand, flow⟩ := v
  dsimp only at next hf
  subst hf
  cases errand with
  | decide actor target action =>
    obtain ⟨stage, hstage, hfits⟩ := h
    obtain ⟨stage', ht, hnext⟩ := turn_of_deciding luck a hstage.symm
    exact ⟨stage', hnext, hfits.turn ht⟩
  | reset actor => exact h.2 _
  | send sender letter => exact h.2 _

/-- **What a visit asks of the store.** -/
theorem Mannered.request_cases {v : Visit} {r : StoreRequest}
    {next : (Call.store r).Reply → Flow (Except Refusal v.errand.Yield)} (h : v.Mannered)
    (hf : v.flow = .ask (.store r) next) :
    (∃ actor target action stage, v = deciding actor target action stage ∧
      stage.Fits actor target action ∧ stage.call? actor target action = some (.store r)) ∨
    (∃ actor, v.errand = .reset actor ∧ r = .forgetSwipes actor) ∨
    (∃ sender letter, v.errand = .send sender letter ∧ IsSending (.store r)) := by
  obtain ⟨errand, flow⟩ := v
  dsimp only at next hf
  subst hf
  cases errand with
  | decide actor target action =>
    obtain ⟨stage, hstage, hfits⟩ := h
    refine Or.inl ⟨actor, target, action, stage, ?_, hfits, Stage.call?_of_flow hstage.symm⟩
    rw [deciding, hstage]
  | reset actor =>
    have hr := h.1
    injection hr with hr
    exact Or.inr (Or.inl ⟨actor, rfl, hr⟩)
  | send sender letter => exact Or.inr (Or.inr ⟨sender, letter, rfl, h.1⟩)

end Visit

/-! ### Scenes -/

namespace Scene

variable {s : Scene} {m : Move}

/-- Everybody goes about his errand. -/
def Mannered (s : Scene) : Prop :=
  ∀ (i : Nat) (v : Visit), s.visits[i]? = some v → v.Mannered

theorem Mannered.step (h : s.Mannered) (m : Move) : (s.step m).Mannered := by
  intro i v' hv'
  rcases visit_step hv' with ⟨hv, -⟩ | ⟨e, -, -, rfl⟩ | ⟨luck, v, call, next, -, hv, hf, rfl, -⟩
  · exact h i v' hv
  · exact Visit.mannered_begun e
  · exact (h i v hv).answered hf luck s.annals

/-- **What is asked of the store**, and by whom. -/
theorem Mannered.request_cases (h : s.Mannered) {n : Nat} {r : StoreRequest}
    {reply : (Call.store r).Reply} (ha : s.Answers m n (.store r) reply) :
    (∃ actor target action stage, s.visits[n]? = some (.deciding actor target action stage) ∧
      stage.Fits actor target action ∧ stage.call? actor target action = some (.store r)) ∨
    (∃ v actor, s.visits[n]? = some v ∧ v.errand = .reset actor ∧ r = .forgetSwipes actor) ∨
    IsSending (.store r) := by
  obtain ⟨luck, v, next, -, hv, hf, -⟩ := ha
  rcases (h n v hv).request_cases hf with
    ⟨actor, target, action, stage, rfl, hfits, hr⟩ | ⟨actor, he, hr⟩ | ⟨-, -, -, hr⟩
  · exact Or.inl ⟨actor, target, action, stage, hv, hfits, hr⟩
  · exact Or.inr (Or.inl ⟨v, actor, hv, he, hr⟩)
  · exact Or.inr (Or.inr hr)

/-- A decision that is answered was about to make this call. -/
theorem Answers.call? {i : Nat} {actor target : UserId} {action : Decision} {stage : Stage}
    {call : Call} {reply : call.Reply} (ha : s.Answers m i call reply)
    (hv : s.visits[i]? = some (.deciding actor target action stage)) :
    stage.call? actor target action = some call := by
  obtain ⟨luck, v, next, -, hv', hf, -⟩ := ha
  obtain rfl := Option.some.inj (hv.symm.trans hv')
  exact Stage.call?_of_flow hf

/-- Only a decision that is not recorded yet asks for one to be recorded. -/
theorem Mannered.asks_recordSwipe (h : s.Mannered) {n : Nat} {actor target : UserId}
    {action : Decision} {reply : (Call.store (.recordSwipe actor target action)).Reply}
    (ha : s.Answers m n (.store (.recordSwipe actor target action)) reply) :
    s.visits[n]? = some (.deciding actor target action .recording) := by
  rcases h.request_cases ha with
    ⟨actor', target', action', stage, hv, -, hr⟩ | ⟨-, _, -, -, hr⟩ | hr
  · cases stage <;> simp [Stage.call?] at hr
    obtain ⟨rfl, rfl, rfl⟩ := hr
    exact hv
  · exact absurd hr (by simp)
  · exact hr.elim

/-- Only a decision to like someone asks for the chat of a match, and always for the same
greeting. -/
theorem Mannered.asks_openMatch (h : s.Mannered) {n : Nat} {actor target : UserId}
    {content : String} {reply : (Call.store (.openMatch actor target content)).Reply}
    (ha : s.Answers m n (.store (.openMatch actor target content)) reply) :
    s.visits[n]? = some (.deciding actor target .like .opening) ∧ actor ≠ target ∧
      content = matchGreeting := by
  rcases h.request_cases ha with
    ⟨actor', target', action, stage, hv, hfits, hr⟩ | ⟨-, _, -, -, hr⟩ | hr
  · cases stage <;> simp [Stage.call?] at hr
    obtain ⟨rfl, rfl, rfl⟩ := hr
    obtain ⟨hne, rfl⟩ := hfits
    exact ⟨hv, hne, rfl⟩
  · exact absurd hr (by simp)
  · exact hr.elim

/-- Only who has come to forget all decisions asks for it. -/
theorem Mannered.asks_forgetSwipes (h : s.Mannered) {n : Nat} {actor : UserId}
    {reply : (Call.store (.forgetSwipes actor)).Reply}
    (ha : s.Answers m n (.store (.forgetSwipes actor)) reply) :
    ∃ v, s.visits[n]? = some v ∧ v.errand = .reset actor := by
  rcases h.request_cases ha with
    ⟨actor', target, action, stage, -, -, hr⟩ | ⟨v, actor', hv, he, hr⟩ | hr
  · cases stage <;> simp [Stage.call?] at hr
  · obtain rfl : actor = actor' := by simpa using hr
    exact ⟨v, hv, he⟩
  · exact hr.elim

/-- What is stored by itself is a message of a user. -/
theorem Mannered.asks_append (h : s.Mannered) {n : Nat} {p : PendingMessage}
    {reply : (Call.store (.append p)).Reply} (ha : s.Answers m n (.store (.append p)) reply) :
    p.kind = .text := by
  rcases h.request_cases ha with ⟨actor, target, action, stage, -, -, hr⟩ | ⟨-, _, -, -, hr⟩ | hr
  · cases stage <;> simp [Stage.call?] at hr
  · exact absurd hr (by simp)
  · exact hr

/-- **What becomes of a decision**: it stays at its stage, or it is answered and goes on to the next
one. -/
theorem deciding_step {i : Nat} {actor target : UserId} {action : Decision} {stage : Stage}
    (h : s.visits[i]? = some (.deciding actor target action stage)) (m : Move) :
    ((s.step m).visits[i]? = some (.deciding actor target action stage) ∧
      ∀ call reply, ¬s.Answers m i call reply) ∨
    (∃ luck stage', m = .turn i luck ∧
      stage.turn actor target action luck s.annals = some (stage', (s.step m).annals) ∧
      (s.step m).visits[i]? = some (.deciding actor target action stage')) := by
  obtain ⟨v', hv', -⟩ := errand_step (m := m) h
  rcases visit_step hv' with ⟨hv, hno⟩ | ⟨e, -, rfl, -⟩ | ⟨luck, v, call, next, hm, hv, hf, rfl, ha⟩
  · rw [h] at hv
    exact Or.inl ⟨by rw [hv', hv], hno⟩
  · rw [List.getElem?_eq_none (Nat.le_refl _)] at h
    exact absurd h (by simp)
  · obtain rfl : v = .deciding actor target action stage := by simpa [h] using hv.symm
    obtain ⟨stage', ht, hnext⟩ := Visit.turn_of_deciding luck s.annals hf
    refine Or.inr ⟨luck, stage', hm, by rw [ha, ht], ?_⟩
    rw [hv', hnext]
    rfl

end Scene

/-- **Everybody goes about his errand at every moment.** -/
theorem Course.mannered (c : Course) (k : Nat) : (c.scene k).Mannered := by
  induction k with
  | zero => exact fun i v h => absurd h (by simp [Scene.empty])
  | succ k ih => exact ih.step (c k)

/-- **What holds of a decision at every moment**: it is at a stage with a property, if the property
holds of the first stage, lasts while the decision stays at a stage, and goes over to the next stage
with every turn. -/
theorem Course.stage_induction {c : Course} {n : Nat} {actor target : UserId} {action : Decision}
    (I : Nat → Stage → Prop) (hfirst : ∀ k, I k (Stage.first actor target))
    (hstay : ∀ k stage, I k stage → I (k + 1) stage)
    (hturn : ∀ k luck stage stage', stage.Fits actor target action → I k stage →
      c k = .turn n luck → (c.scene k).visits[n]? = some (.deciding actor target action stage) →
      stage.turn actor target action luck (c.scene k).annals =
        some (stage', (c.scene (k + 1)).annals) → I (k + 1) stage')
    {k : Nat} {v : Visit} (hv : (c.scene k).visits[n]? = some v)
    (he : v.errand = .decide actor target action) :
    ∃ stage : Stage, v = .deciding actor target action stage ∧
      stage.Fits actor target action ∧ I k stage := by
  induction k generalizing v with
  | zero => exact absurd hv (by simp [Scene.empty])
  | succ k ih =>
    rcases Scene.visit_step hv with
      ⟨hold, -⟩ | ⟨e, -, -, rfl⟩ | ⟨luck, w, call, next, hm, hw, hf, rfl, ha⟩
    · obtain ⟨stage, rfl, hfits, hI⟩ := ih hold he
      exact ⟨stage, rfl, hfits, hstay k stage hI⟩
    · subst he
      refine ⟨Stage.first actor target, ?_, Stage.fits_first, hfirst (k + 1)⟩
      rw [Visit.deciding, Stage.flow_first]
      rfl
    · obtain ⟨stage, rfl, hfits, hI⟩ := ih hw he
      obtain ⟨stage', ht, hnext⟩ := Visit.turn_of_deciding luck (c.scene k).annals hf
      rw [← ha] at ht
      refine ⟨stage', by rw [hnext]; rfl, hfits.turn ht, ?_⟩
      exact hturn k luck stage stage' hfits hI hm hw ht

end Traffic

end Rendezvous
