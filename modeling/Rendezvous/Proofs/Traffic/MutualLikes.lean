import Mathlib.Data.List.Basic
import Rendezvous.Proofs.Store.Likings
import Rendezvous.Proofs.Traffic.Openings

/-!
# No match is lost

A decision is recorded first, and only then is the reverse decision looked up. So whoever of two
users is the second to like the other finds that the first one does, unless the first one has
changed his mind, and no match goes unnoticed. This is said in two ways.

## Whenever no decision is under way

If each of two users likes the other, then the pair has a chat, or somebody is on the way to it: a
decision about the pair has been recorded and will look up the other, or has found it and will open
the chat (`Traffic.Scene.Noticed`). Every move of a course in which the store does not fail keeps
this: the move that makes the second of the two like the other leaves behind a decision that has yet
to look. Once all decisions are over nobody is on the way, so the pair has a chat.

## Two decisions at a time

When two users like each other at the same time and nobody else interferes, each of the two
decisions is at one of three points: it has yet to be recorded (`Traffic.Scene.Waits`), it is going
to be a match or may still become one (`Traffic.Scene.Hopes`), or it has looked and found nothing
(`Traffic.Scene.Misses`). A decision comes to the last point only while the other one is at the
first, and so they are never both there.
-/

namespace Rendezvous

namespace Traffic

/-! ### Courses without failures -/

/-- The store does not fail with this move. -/
def Move.Faultless : Move → Prop
  | .arrive _ => True
  | .turn _ luck => luck.failure = none

/-- The store does not fail before this move. -/
def Course.Faultless (c : Course) (k : Nat) : Prop :=
  ∀ j < k, (c j).Faultless

/-- No decision is under way. -/
def Scene.Settled (s : Scene) : Prop :=
  ∀ (i : Nat) (v : Visit), s.visits[i]? = some v →
    ∀ actor target action, v.errand = .decide actor target action → ∃ result, v.flow = .done result

/-! ### How a user comes to like another one -/

namespace Scene

variable {s : Scene} {m : Move} {a b : UserId}

/-- What a user thinks of another one stays as it is while nothing is said or forgotten about it. -/
theorem likes_step (h : ∀ n r reply, s.Answers m n (.store r) reply → ¬r.Touches a b) :
    (s.step m).records.likes a b = s.records.likes a b := by
  rcases s.annals_cases m with he | ⟨n, now, r, hans, he⟩ <;> rw [records, records, he]
  exact Records.likes_answer _ _ (h n r _ hans)

/-- **A user begins to like another one** when a decision to do so is recorded, and this decision
has yet to look up the reverse one. -/
theorem Mannered.exists_checking (hm : s.Mannered) (hno : s.records.likes a b = false)
    (hyes : (s.step m).records.likes a b = true) :
    ∃ n, s.visits[n]? = some (.deciding a b .like .recording) ∧
      s.Answers m n (.store (.recordSwipe a b .like)) (.ok ()) ∧
      (s.step m).visits[n]? = some (.deciding a b .like .checking) := by
  rcases s.annals_step m with he | ⟨n, luck, r, v, next, rfl, hl, hv, hf, he⟩
  · rw [records, he] at hyes
    exact absurd (hno.symm.trans hyes) (by simp)
  rw [records, he] at hyes
  obtain rfl := Records.eq_recordSwipe_of_likes hno hyes
  have hans : s.Answers (.turn n luck) n (.store (.recordSwipe a b .like)) (.ok ()) :=
    ⟨luck, v, next, rfl, hv, hf, by rw [Stage.serve_store hl]; rfl⟩
  have hv' := hm.asks_recordSwipe hans
  refine ⟨n, hv', hans, ?_⟩
  rcases deciding_step hv' (.turn n luck) with ⟨-, hnot⟩ | ⟨luck', stage', hm', ht, hv''⟩
  · exact absurd hans (hnot _ _)
  · obtain ⟨-, rfl⟩ := Move.turn.inj hm'
    rw [Stage.turn_recording hl] at ht
    obtain ⟨rfl, -⟩ := Prod.mk.inj (Option.some.inj ht)
    exact hv''

/-- A decision says nothing about other users than its own two. -/
theorem Mannered.touches (hm : s.Mannered) {n : Nat} {v : Visit} {actor target : UserId}
    {action : Decision} (hv : s.visits[n]? = some v) (he : v.errand = .decide actor target action)
    {r : StoreRequest} {reply : (Call.store r).Reply} (hans : s.Answers m n (.store r) reply)
    (h : r.Touches a b) : actor = a ∧ target = b := by
  obtain ⟨stage, rfl, -⟩ := (hm n v hv).exists_stage he
  have hcall := hans.call? hv
  cases stage <;> simp [Stage.call?] at hcall <;> subst hcall
  · exact h
  · exact h.elim
  · exact h.elim

end Scene

/-! ### Somebody is on the way -/

/-- The stages between recording a like and knowing the chat of the match. -/
def Stage.Seeking : Stage → Prop
  | .checking => True
  | .opening => True
  | _ => False

namespace Scene

variable {s : Scene} {m : Move} {a b : UserId}

/-- A decision about the pair is on the way to a chat. -/
def Sought (s : Scene) (a b : UserId) : Prop :=
  ∃ (i : Nat) (actor target : UserId) (stage : Stage), orderedPair actor target = orderedPair a b ∧
    s.visits[i]? = some (.deciding actor target .like stage) ∧ stage.Seeking

/-- **A match is noticed**: two users who like each other have a chat, or somebody is on the way to
it. -/
def Noticed (s : Scene) (a b : UserId) : Prop :=
  s.records.likes a b = true → s.records.likes b a = true →
    (∃ chat, s.records.chatOfPair.get? (orderedPair a b) = some chat) ∨ s.Sought a b

/-- While two users like each other, who is on the way to their chat gets nearer. -/
theorem Sought.step (hne : a ≠ b) (hf : m.Faultless) (h : s.Sought a b)
    (hab : s.records.likes a b = true) (hba : s.records.likes b a = true) :
    (∃ chat, (s.step m).records.chatOfPair.get? (orderedPair a b) = some chat) ∨
      (s.step m).Sought a b := by
  obtain ⟨i, actor, target, stage, hp, hv, hstage⟩ := h
  rcases deciding_step hv m with ⟨hv', -⟩ | ⟨luck, stage', rfl, ht, hv'⟩
  · exact Or.inr ⟨i, actor, target, stage, hp, hv', hstage⟩
  have hends := orderedPair_eq_iff.1 hp
  cases stage with
  | checking =>
    have hlikes : s.annals.records.likes target actor = true := by
      rcases hends with ⟨rfl, rfl⟩ | ⟨rfl, rfl⟩
      · exact hba
      · exact hab
    rw [Stage.turn_checking hf, hlikes] at ht
    obtain ⟨rfl, -⟩ := Prod.mk.inj (Option.some.inj ht)
    exact Or.inr ⟨i, actor, target, .opening, hp, hv', trivial⟩
  | opening =>
    have hne' : actor ≠ target := by
      rcases hends with ⟨rfl, rfl⟩ | ⟨rfl, rfl⟩
      · exact hne
      · exact hne.symm
    obtain ⟨chat, created, hturn, hreply⟩ := Stage.turn_opening .like hf hne' s.annals
    obtain ⟨-, ha⟩ := Prod.mk.inj (Option.some.inj (ht.symm.trans hturn))
    refine Or.inl ⟨chat, ?_⟩
    rw [records, ha, ← hp]
    exact Records.get?_chatOfPair_openMatch hreply
  | _ => exact hstage.elim

/-- **Every move without a failure keeps every match noticed.** -/
theorem Noticed.step (hm : s.Mannered) (hne : a ≠ b) (h : s.Noticed a b) (hf : m.Faultless) :
    (s.step m).Noticed a b := by
  intro hab hba
  -- a like that is new with this move belongs to a decision that has yet to look
  cases hold : s.records.likes a b with
  | false =>
    obtain ⟨n, -, -, hv⟩ := hm.exists_checking hold hab
    exact Or.inr ⟨n, a, b, .checking, rfl, hv, trivial⟩
  | true =>
    cases hold' : s.records.likes b a with
    | false =>
      obtain ⟨n, -, -, hv⟩ := hm.exists_checking hold' hba
      exact Or.inr ⟨n, b, a, .checking, orderedPair_comm b a, hv, trivial⟩
    | true =>
      rcases h hold hold' with ⟨chat, hc⟩ | hsought
      · exact Or.inl ⟨chat, get?_chatOfPair_step hc m⟩
      · exact hsought.step hne hf hold hold'

/-- Nobody is on the way when no decision is under way. -/
theorem Settled.not_sought (h : s.Settled) : ¬s.Sought a b := by
  rintro ⟨i, actor, target, stage, -, hv, hstage⟩
  obtain ⟨result, hdone⟩ := h i _ hv actor target .like rfl
  rw [Stage.eq_ended_of_flow hdone] at hstage
  exact hstage

end Scene

/-- **At every moment, every match is noticed**, as long as the store does not fail. -/
theorem Course.noticed {c : Course} {k : Nat} {a b : UserId} (hne : a ≠ b) (hf : c.Faultless k) :
    (c.scene k).Noticed a b := by
  induction k with
  | zero => exact fun hab => absurd hab (by simp [Scene.records, Scene.empty, Annals.empty,
      Records.likes, Records.empty])
  | succ k ih =>
    have hbefore := ih fun j hj => hf j (by omega)
    exact hbefore.step (c.mannered k) hne (hf k (by omega))

/-! ### Two decisions at a time -/

namespace Stage

variable {actor target : UserId} {luck : Luck} {a a' : Annals}

/-- The stages of a like that is recorded and has not been found to be without an answer. -/
def Hopeful (target : UserId) : Stage → Prop
  | .recording => False
  | .ended result => ∃ chat, result = .ok (.ofMatch target chat)
  | _ => True

theorem Hopeful.ne_recording {stage : Stage} (h : stage.Hopeful target) : stage ≠ .recording := by
  rintro rfl
  exact h

theorem hopeful_afterOpening (target : UserId) (chat : ChatId) (created : Bool) :
    (afterOpening target (.ok (chat, created))).Hopeful target := by
  cases created with
  | true => trivial
  | false => exact ⟨chat, rfl⟩

/-- **A like loses hope** only by finding that the other one does not like back. -/
theorem Hopeful.turn {stage stage' : Stage} (hne : actor ≠ target) (hl : luck.failure = none)
    (h : stage.Hopeful target) (ht : stage.turn actor target .like luck a = some (stage', a')) :
    stage'.Hopeful target ∨
      (a.records.likes target actor = false ∧ stage' = .ended (.ok (.decided .like))) := by
  cases stage with
  | recording => exact h.elim
  | checking =>
    rw [turn_checking hl] at ht
    obtain ⟨rfl, -⟩ := Prod.mk.inj (Option.some.inj ht)
    cases hlikes : a.records.likes target actor with
    | true => exact Or.inl trivial
    | false => exact Or.inr ⟨rfl, rfl⟩
  | opening =>
    obtain ⟨chat, created, hturn, -⟩ := turn_opening .like hl hne a
    obtain ⟨rfl, -⟩ := Prod.mk.inj (Option.some.inj (ht.symm.trans hturn))
    exact Or.inl (hopeful_afterOpening target chat created)
  | telling chat =>
    obtain ⟨rfl, -⟩ := Prod.mk.inj (Option.some.inj ht)
    exact Or.inl trivial
  | tellingOther chat =>
    obtain ⟨rfl, -⟩ := Prod.mk.inj (Option.some.inj ht)
    exact Or.inl ⟨chat, rfl⟩
  | ended result => exact absurd ht (by simp [Stage.turn])

end Stage

theorem Visit.begun_decide {a b : UserId} (hne : a ≠ b) (action : Decision) :
    begun (.decide a b action) = deciding a b action .recording := by
  have hfirst : Stage.first a b = .recording := if_neg hne
  rw [deciding, ← hfirst, Stage.flow_first]
  rfl

namespace Scene

variable {s : Scene} {m : Move} {i : Nat} {a b : UserId}

/-- The decision to like is not recorded yet, or has not even begun. -/
def Waits (s : Scene) (i : Nat) (a b : UserId) : Prop :=
  ∀ v, s.visits[i]? = some v → v = .deciding a b .like .recording

/-- The decision to like is recorded and may still be a match, or is one. -/
def Hopes (s : Scene) (i : Nat) (a b : UserId) : Prop :=
  s.records.likes a b = true ∧
    ∃ stage : Stage, s.visits[i]? = some (.deciding a b .like stage) ∧ stage.Hopeful b

/-- The decision to like is recorded and over without a match. -/
def Misses (s : Scene) (i : Nat) (a b : UserId) : Prop :=
  s.records.likes a b = true ∧
    s.visits[i]? = some (.deciding a b .like (.ended (.ok (.decided .like))))

/-- Nobody but a visit says or forgets with this move what the one user thinks of the other. -/
def LeavesTo (s : Scene) (m : Move) (i : Nat) (a b : UserId) : Prop :=
  ∀ n r reply, s.Answers m n (.store r) reply → r.Touches a b → n = i

/-- A like that is recorded stays, if only the decision that recorded it could change it. -/
theorem LeavesTo.likes_step (h : s.LeavesTo m i a b) {stage : Stage}
    (hv : s.visits[i]? = some (.deciding a b .like stage)) (hstage : stage ≠ .recording) :
    (s.step m).records.likes a b = s.records.likes a b := by
  refine Scene.likes_step fun n r reply hans htouch => ?_
  obtain rfl := h n r reply hans htouch
  have hcall := hans.call? hv
  cases stage <;> simp [Stage.call?] at hcall hstage <;> subst hcall <;> exact htouch

theorem Waits.step (hne : a ≠ b) (hf : m.Faultless) (h : s.Waits i a b)
    (he : ∀ v, (s.step m).visits[i]? = some v → v.errand = .decide a b .like) :
    (s.step m).Waits i a b ∨ (s.step m).Hopes i a b := by
  cases hv : s.visits[i]? with
  | none =>
    refine Or.inl fun v' hv' => ?_
    rcases visit_step hv' with ⟨hold, -⟩ | ⟨e, -, -, rfl⟩ | ⟨luck, w, call, next, -, hw, -⟩
    · exact absurd (hv.symm.trans hold) (by simp)
    · obtain rfl : e = .decide a b .like := he _ hv'
      exact Visit.begun_decide hne .like
    · exact absurd (hv.symm.trans hw) (by simp)
  | some v =>
    obtain rfl := h v hv
    rcases deciding_step hv m with ⟨hv', -⟩ | ⟨luck, stage', rfl, ht, hv'⟩
    · exact Or.inl fun w hw => Option.some.inj (hw.symm.trans hv')
    · rw [Stage.turn_recording hf] at ht
      obtain ⟨rfl, ha⟩ := Prod.mk.inj (Option.some.inj ht)
      refine Or.inr ⟨?_, .checking, hv', trivial⟩
      rw [records, ← ha]
      exact (Records.likes_recordSwipe ..).trans (by simp)

theorem Hopes.step (hne : a ≠ b) (hf : m.Faultless) (hleft : s.LeavesTo m i a b)
    (h : s.Hopes i a b) :
    (s.step m).Hopes i a b ∨ ((s.step m).Misses i a b ∧ s.records.likes b a = false) := by
  obtain ⟨hlikes, stage, hv, hhope⟩ := h
  have hlikes' := (hleft.likes_step hv hhope.ne_recording).trans hlikes
  rcases deciding_step hv m with ⟨hv', -⟩ | ⟨luck, stage', rfl, ht, hv'⟩
  · exact Or.inl ⟨hlikes', stage, hv', hhope⟩
  · rcases hhope.turn hne hf ht with hhope' | ⟨hno, rfl⟩
    · exact Or.inl ⟨hlikes', stage', hv', hhope'⟩
    · exact Or.inr ⟨⟨hlikes', hv'⟩, hno⟩

theorem Misses.step (hleft : s.LeavesTo m i a b) (h : s.Misses i a b) :
    (s.step m).Misses i a b := by
  obtain ⟨hlikes, hv⟩ := h
  exact ⟨(hleft.likes_step hv (by simp)).trans hlikes, visit_over hv rfl⟩

/-- **Two decisions of two users to like each other**: not both are over without a match. -/
def Balanced (s : Scene) (i j : Nat) (a b : UserId) : Prop :=
  ((s.Waits i a b ∨ s.Hopes i a b) ∧ (s.Waits j b a ∨ s.Hopes j b a ∨ s.Misses j b a)) ∨
    (s.Misses i a b ∧ (s.Waits j b a ∨ s.Hopes j b a))

/-- **Every move keeps the two balanced**, if nobody else interferes. -/
theorem Balanced.step {j : Nat} (hne : a ≠ b) (hf : m.Faultless) (hi : s.LeavesTo m i a b)
    (hj : s.LeavesTo m j b a)
    (hei : ∀ v, (s.step m).visits[i]? = some v → v.errand = .decide a b .like)
    (hej : ∀ v, (s.step m).visits[j]? = some v → v.errand = .decide b a .like)
    (h : s.Balanced i j a b) : (s.step m).Balanced i j a b := by
  -- only a hopeful decision can come to miss, and only while the other like is not recorded
  rcases h with ⟨hwi | hhi, hwj | hhj | hmj⟩ | ⟨hmi, hwj | hhj⟩
  · exact Or.inl ⟨hwi.step hne hf hei, (hwj.step hne.symm hf hej).imp_right Or.inl⟩
  · refine Or.inl ⟨hwi.step hne hf hei, Or.inr ?_⟩
    exact (hhj.step hne.symm hf hj).imp_right And.left
  · exact Or.inl ⟨hwi.step hne hf hei, Or.inr (Or.inr (hmj.step hj))⟩
  · have hwj' := hwj.step hne.symm hf hej
    rcases hhi.step hne hf hi with hhi' | ⟨hmi', -⟩
    · exact Or.inl ⟨Or.inr hhi', hwj'.imp_right Or.inl⟩
    · exact Or.inr ⟨hmi', hwj'⟩
  · -- each of the two likes is recorded, so neither decision finds the other one missing
    rcases hhi.step hne hf hi with hhi' | ⟨-, hno⟩
    · exact Or.inl ⟨Or.inr hhi', Or.inr ((hhj.step hne.symm hf hj).imp_right And.left)⟩
    · exact absurd (hno.symm.trans hhj.1) (by simp)
  · rcases hhi.step hne hf hi with hhi' | ⟨-, hno⟩
    · exact Or.inl ⟨Or.inr hhi', Or.inr (Or.inr (hmj.step hj))⟩
    · exact absurd (hno.symm.trans hmj.1) (by simp)
  · exact Or.inr ⟨hmi.step hi, hwj.step hne.symm hf hej⟩
  · rcases hhj.step hne.symm hf hj with hhj' | ⟨-, hno⟩
    · exact Or.inr ⟨hmi.step hi, Or.inr hhj'⟩
    · exact absurd (hno.symm.trans hmi.1) (by simp)

/-- Of two decisions that are over, one is a match. -/
theorem Balanced.result {j : Nat} {ri rj : Except Refusal DecisionOutcome}
    (h : s.Balanced i j a b)
    (hi : s.visits[i]? = some ⟨.decide a b .like, .done ri⟩)
    (hj : s.visits[j]? = some ⟨.decide b a .like, .done rj⟩) :
    ∃ chat, ri = .ok (.ofMatch b chat) ∨ rj = .ok (.ofMatch a chat) := by
  have hwaits : ∀ {x y n r}, s.visits[n]? = some ⟨.decide x y .like, .done r⟩ → ¬s.Waits n x y := by
    intro x y n r hv hw
    have hflow := eq_of_heq (Visit.mk.inj (hw _ hv)).2
    exact absurd (Stage.eq_ended_of_flow hflow.symm) (by simp)
  have hhopes : ∀ {x y n r}, s.visits[n]? = some ⟨.decide x y .like, .done r⟩ → s.Hopes n x y →
      ∃ chat, r = .ok (.ofMatch y chat) := by
    rintro x y n r hv ⟨-, stage, hv', hhope⟩
    have hflow := eq_of_heq (Visit.mk.inj (Option.some.inj (hv.symm.trans hv'))).2
    rw [Stage.eq_ended_of_flow hflow.symm] at hhope
    exact hhope
  rcases h with ⟨hwi | hhi, -⟩ | ⟨-, hwj | hhj⟩
  · exact absurd hwi (hwaits hi)
  · obtain ⟨chat, hr⟩ := hhopes hi hhi
    exact ⟨chat, Or.inl hr⟩
  · exact absurd hwj (hwaits hj)
  · obtain ⟨chat, hr⟩ := hhopes hj hhj
    exact ⟨chat, Or.inr hr⟩

end Scene

namespace Course

variable {c : Course} {k₀ k i j : Nat} {a b : UserId}

/-- A visit stays what it is for. -/
theorem exists_visit_of_le {l : Nat} (hlk : l ≤ k) {v : Visit}
    (hv : (c.scene l).visits[i]? = some v) :
    ∃ w, (c.scene k).visits[i]? = some w ∧ w.errand = v.errand := by
  induction hlk with
  | refl => exact ⟨v, hv, rfl⟩
  | step _ ih =>
    obtain ⟨w, hw, he⟩ := ih
    obtain ⟨w', hw', he'⟩ := Scene.errand_step hw
    exact ⟨w', hw', he'.trans he⟩

theorem errand_of_le {l : Nat} (hlk : l ≤ k) {v w : Visit} (hv : (c.scene l).visits[i]? = some v)
    (hw : (c.scene k).visits[i]? = some w) : v.errand = w.errand := by
  obtain ⟨w', hw', he⟩ := exists_visit_of_le hlk hv
  rw [← he, Option.some.inj (hw.symm.trans hw')]

/-- From one moment to another, nobody but two visits says or forgets what two users think of each
other. -/
def Undisturbed (c : Course) (k₀ k i j : Nat) (a b : UserId) : Prop :=
  ∀ l, k₀ ≤ l → l < k → ∀ n r reply, c.Answers l n (.store r) reply →
    r.Touches a b ∨ r.Touches b a → n = i ∨ n = j

/-- Who leaves what the one user thinks of the other to two decisions, leaves it to the decision of
the one. -/
theorem Undisturbed.leavesTo (h : c.Undisturbed k₀ k i j a b) (hne : a ≠ b) {v : Visit}
    (hv : (c.scene k).visits[j]? = some v) (he : v.errand = .decide b a .like) {l : Nat}
    (hl : k₀ ≤ l) (hlk : l < k) : (c.scene l).LeavesTo (c l) i a b := by
  intro n r reply hans htouch
  rcases h l hl hlk n r reply hans (Or.inl htouch) with rfl | rfl
  · rfl
  · obtain ⟨w, hw⟩ : ∃ w, (c.scene l).visits[n]? = some w := by
      obtain ⟨-, w, -, -, hw, -⟩ := hans
      exact ⟨w, hw⟩
    have hew := (errand_of_le (Nat.le_of_lt hlk) hw hv).trans he
    exact absurd ((c.mannered l).touches hw hew hans htouch).1 hne.symm

theorem Undisturbed.comm (h : c.Undisturbed k₀ k i j a b) : c.Undisturbed k₀ k j i b a :=
  fun l hl hlk n r reply hans htouch => (h l hl hlk n r reply hans htouch.symm).symm

/-- **Two decisions that nobody interferes with are balanced at every moment.** -/
theorem balanced (hne : a ≠ b) (hf : c.Faultless k)
    (hi₀ : ∀ v, (c.scene k₀).visits[i]? = some v → v = .begun (.decide a b .like))
    (hj₀ : ∀ v, (c.scene k₀).visits[j]? = some v → v = .begun (.decide b a .like))
    {v w : Visit} (hv : (c.scene k).visits[i]? = some v) (hev : v.errand = .decide a b .like)
    (hw : (c.scene k).visits[j]? = some w) (hew : w.errand = .decide b a .like)
    (h : c.Undisturbed k₀ k i j a b) {l : Nat} (hl : k₀ ≤ l) (hlk : l ≤ k) :
    (c.scene l).Balanced i j a b := by
  induction hl with
  | refl =>
    refine Or.inl ⟨Or.inl fun u hu => ?_, Or.inl fun u hu => ?_⟩
    · exact (hi₀ u hu).trans (Visit.begun_decide hne .like)
    · exact (hj₀ u hu).trans (Visit.begun_decide hne.symm .like)
  | @step l hl ih =>
    have hi := h.leavesTo hne hw hew hl (by omega)
    have hj := h.comm.leavesTo hne.symm hv hev hl (by omega)
    refine (ih (by omega)).step hne (hf l (by omega)) hi hj ?_ ?_
    · exact fun u hu => (errand_of_le hlk hu hv).trans hev
    · exact fun u hu => (errand_of_le hlk hu hw).trans hew

/-! ### No match is lost -/

/-- **No match is lost** in a course whose store has not failed so far. Once no decision is under
way, two users who like each other have a chat; and of two decisions to like each other at the same
time, which nobody interferes with, one is a match. -/
theorem no_match_lost (c : Course) (k : Nat) (hf : c.Faultless k) :
    (∀ a b, b ∈ (c.scene k).records.matchesOf a ↔
      (c.scene k).records.likes a b = true ∧ (c.scene k).records.likes b a = true) ∧
    ((c.scene k).Settled → ∀ a b, a ≠ b → b ∈ (c.scene k).records.matchesOf a →
      ∃ chat, c.chatOf k (orderedPair a b) = some chat) ∧
    (∀ k₀ i j a b ri rj, k₀ ≤ k → a ≠ b →
      (∀ v, (c.scene k₀).visits[i]? = some v → v = .begun (.decide a b .like)) →
      (∀ v, (c.scene k₀).visits[j]? = some v → v = .begun (.decide b a .like)) →
      c.Undisturbed k₀ k i j a b →
      (c.scene k).visits[i]? = some ⟨.decide a b .like, .done ri⟩ →
      (c.scene k).visits[j]? = some ⟨.decide b a .like, .done rj⟩ →
      ∃ chat, ri = .ok (.ofMatch b chat) ∨ rj = .ok (.ofMatch a chat)) := by
  refine ⟨fun a b => Records.mem_matchesOf, ?_, ?_⟩
  · intro hsettled a b hne hmem
    obtain ⟨hab, hba⟩ := Records.mem_matchesOf.1 hmem
    rcases noticed hne hf hab hba with hchat | hsought
    · exact hchat
    · exact absurd hsought hsettled.not_sought
  · intro k₀ i j a b ri rj hk hne hi₀ hj₀ hund hi hj
    have hbalanced := balanced hne hf hi₀ hj₀ hi rfl hj rfl hund hk (Nat.le_refl k)
    exact hbalanced.result hi hj

/-- Two users like each other at the same time, and each takes one step after the other. -/
def together : Course :=
  ofMoves [.arrive (.decide 1 2 .like), .arrive (.decide 2 1 .like), .turn 0 .fair, .turn 1 .fair,
    .turn 0 .fair, .turn 1 .fair, .turn 0 .fair, .turn 1 .fair, .turn 0 .fair, .turn 0 .fair]

theorem faultless_ofMoves {moves : List Move} (h : ∀ m ∈ moves, m.Faultless) (k : Nat) :
    (ofMoves moves).Faultless k := by
  intro j _
  cases hj : moves[j]? with
  | none => simp [ofMoves, hj, Move.Faultless, Luck.fair]
  | some m => simpa [ofMoves, hj] using h m (List.mem_of_getElem? hj)

theorem visits_together : (together.scene 10).visits =
    [⟨.decide 1 2 .like, .done (.ok (.ofMatch 2 1))⟩,
      ⟨.decide 2 1 .like, .done (.ok (.ofMatch 1 1))⟩] := rfl

theorem no_match_lost_together : together.Faultless 10 ∧
    (∃ chat, together.chatOf 10 (orderedPair 1 2) = some chat) ∧
    ∃ r r' chat, (together.scene 10).visits = [⟨.decide 1 2 .like, .done r⟩,
        ⟨.decide 2 1 .like, .done r'⟩] ∧
      (r = .ok (.ofMatch 2 chat) ∨ r' = .ok (.ofMatch 1 chat)) := by
  have hf : together.Faultless 10 :=
    faultless_ofMoves (by simp [Move.Faultless, Luck.fair]) 10
  have hlost := no_match_lost together 10 hf
  have hsettled : (together.scene 10).Settled := by
    intro i v hv actor target action _
    rw [visits_together] at hv
    rcases i with _ | _ | i
    · obtain rfl := (Option.some.inj hv).symm
      exact ⟨_, rfl⟩
    · obtain rfl := (Option.some.inj hv).symm
      exact ⟨_, rfl⟩
    · simp at hv
  have hund : together.Undisturbed 2 10 0 1 1 2 := by
    rintro l hl hlk n r reply ⟨luck, v, next, hm, -⟩ -
    have hturn : together l = .turn 0 .fair ∨ together l = .turn 1 .fair := by
      match l, hl, hlk with
      | 2, _, _ | 4, _, _ | 6, _, _ | 8, _, _ | 9, _, _ => exact Or.inl rfl
      | 3, _, _ | 5, _, _ | 7, _, _ => exact Or.inr rfl
    rw [hm] at hturn
    exact hturn.imp (fun h => (Move.turn.inj h).1) fun h => (Move.turn.inj h).1
  refine ⟨hf, hlost.2.1 hsettled 1 2 (by decide) ?_, ?_⟩
  · exact (hlost.1 1 2).2 ⟨rfl, rfl⟩
  · have hbegun : ∀ v, (together.scene 2).visits[0]? = some v → v = .begun (.decide 1 2 .like) :=
      fun v hv => (Option.some.inj hv).symm
    have hbegun' : ∀ v, (together.scene 2).visits[1]? = some v → v = .begun (.decide 2 1 .like) :=
      fun v hv => (Option.some.inj hv).symm
    obtain ⟨chat, hresult⟩ := hlost.2.2 2 0 1 1 2 _ _ (by decide) (by decide) hbegun hbegun' hund
      rfl rfl
    exact ⟨_, _, chat, visits_together, hresult⟩

end Course

end Traffic

end Rendezvous
