import Mathlib.Data.List.Basic
import Rendezvous.Proofs.Traffic.Openings

/-!
# A match is announced once

Two users who like each other are told so, and their chat begins with a message about it. Both
happen once, although each of the two may decide at the same time, decide again, forget what was
decided, write to the other, and come back after the store has failed.

## What decides

The announcement is made by the visit that has opened the chat, and by no other
(`Traffic.Course.announces_iff`). A chat is opened once (`Traffic.Course.Opens.unique`), so there is
one announcement at most, and there is none if the chat was there already because one of the two had
written to the other.

The greeting is stored by the same request that opens the chat, and the log of a chat that is opened
now is empty, as long as numbers are not given out again. So the greeting is the first message of
its log; since nothing else is ever stored in the name of the service, it is the only one of its
kind (`Traffic.Course.OpensByMatch.greets`, `Traffic.Course.plain_or_opened`).

The result of a decision comes later than the chat it names, since the two users are told in
between. That it is still the chat of the pair is an invariant of the stages
(`Traffic.Stage.Names`).
-/

namespace Rendezvous

namespace Traffic

/-! ### Announcements -/

namespace Stage

variable {actor target : UserId} {action : Decision}

/-- A decision that has nothing left but to announce a match is at the stage where this begins. -/
theorem Fits.eq_telling {stage : Stage} {chat : ChatId} (hfits : stage.Fits actor target action)
    (h : stage.flow actor target action = (announcement actor target chat).run) :
    stage = .telling chat := by
  have hcall := call?_of_flow h
  cases stage <;> simp [call?] at hcall
  case telling chat' => rw [hcall]
  case tellingOther chat' =>
    -- the other one is told what the one who decided was told before, but it is the other one
    exact absurd hcall.1.symm hfits.1

/-- The announcement begins with the answer that the chat was opened. -/
theorem eq_opening_of_turn {stage : Stage} {luck : Luck} {a a' : Annals} {chat : ChatId}
    (h : stage.turn actor target action luck a = some (.telling chat, a')) :
    stage = .opening ∧
      luck.serve (.store (.openMatch actor target matchGreeting)) a = (.ok (chat, true), a') := by
  cases stage with
  | recording =>
    rcases askStore_cases (Option.some.inj h) with ⟨_, -, he⟩ | ⟨e, -, he⟩
    · cases action <;> simp [afterRecording] at he
    · exact absurd he (by simp)
  | checking =>
    rcases askStore_cases (Option.some.inj h) with ⟨liked, -, he⟩ | ⟨e, -, he⟩
    · cases liked <;> simp [afterChecking] at he
    · exact absurd he (by simp)
  | opening =>
    rcases askStore_cases (Option.some.inj h) with ⟨⟨chat', created⟩, hs, he⟩ | ⟨e, -, he⟩
    · cases created <;> simp only [afterOpening] at he
      · exact absurd he (by simp)
      · obtain rfl : chat = chat' := by simpa using he
        exact ⟨rfl, hs⟩
    · exact absurd he (by simp)
  | telling chat' => simp [Stage.turn] at h
  | tellingOther chat' => simp [Stage.turn] at h
  | ended result => simp [Stage.turn] at h

end Stage

/-- A visit has nothing left but to announce a match and to say so. -/
def Visit.Announcing (v : Visit) (actor target : UserId) (chat : ChatId) : Prop :=
  ∃ action, v = ⟨.decide actor target action, (Stage.announcement actor target chat).run⟩

namespace Course

variable {c : Course} {k n : Nat} {actor target : UserId} {chat : ChatId}

/-- The next thing that a visit does is to announce a match. -/
def IsAnnouncing (c : Course) (k n : Nat) (actor target : UserId) (chat : ChatId) : Prop :=
  ∃ v, (c.scene k).visits[n]? = some v ∧ v.Announcing actor target chat

/-- **A visit comes to announce a match** with this move. -/
def Announces (c : Course) (k n : Nat) (actor target : UserId) (chat : ChatId) : Prop :=
  c.IsAnnouncing (k + 1) n actor target chat ∧ ¬c.IsAnnouncing k n actor target chat

/-- Who opens the chat of a match comes to announce it. -/
theorem OpensByMatch.announces (h : c.OpensByMatch k n actor target chat) :
    c.Announces k n actor target chat := by
  obtain ⟨hv, hne, -⟩ := (c.mannered k).asks_openMatch h
  constructor
  · rcases Scene.deciding_step hv (c k) with ⟨-, hno⟩ | ⟨luck, stage', hm, ht, hv'⟩
    · exact absurd h (hno _ _)
    · obtain ⟨luck', v, next, hm', -, -, hreply⟩ := h
      obtain ⟨-, rfl⟩ := Move.turn.inj (hm.symm.trans hm')
      rcases Stage.askStore_cases (Option.some.inj ht) with ⟨answer, hs, rfl⟩ | ⟨e, hs, -⟩
      · rw [hs] at hreply
        obtain rfl : answer = (chat, true) := by simpa using hreply
        exact ⟨_, hv', .like, rfl⟩
      · rw [hs] at hreply
        exact absurd hreply (by simp)
  · rintro ⟨w, hw, action, rfl⟩
    rw [hv] at hw
    obtain ⟨he, hflow⟩ := Visit.mk.inj (Option.some.inj hw)
    obtain ⟨-, -, rfl⟩ := Errand.decide.inj he
    have hfits : Stage.opening.Fits actor target .like := ⟨hne, rfl⟩
    exact absurd (hfits.eq_telling (eq_of_heq hflow)) (by simp)

/-- **A match is announced exactly by the visit that has opened the chat.** -/
theorem announces_iff :
    c.Announces k n actor target chat ↔ c.OpensByMatch k n actor target chat := by
  refine ⟨?_, OpensByMatch.announces⟩
  rintro ⟨⟨v', hv', action, rfl⟩, hnot⟩
  -- the visit was not announcing before, so it has just begun or was answered
  rcases Scene.visit_step hv' with ⟨hv, -⟩ | ⟨e, -, -, he⟩ | ⟨luck, v, call, next, -, hv, -, he, -⟩
  · exact absurd ⟨_, hv, action, rfl⟩ hnot
  · -- nobody begins with an announcement
    obtain ⟨rfl, hflow⟩ := Visit.mk.inj he
    have hfirst := (eq_of_heq hflow).trans Stage.flow_first.symm
    have hstage := Stage.fits_first.eq_telling hfirst.symm
    unfold Stage.first at hstage
    split at hstage <;> exact absurd hstage (by simp)
  · obtain ⟨herrand, -⟩ := Visit.mk.inj he
    obtain ⟨stage, rfl, hfits⟩ := (c.mannered k n v hv).exists_stage herrand.symm
    rcases Scene.deciding_step hv (c k) with ⟨hstay, -⟩ | ⟨luck', stage', hm, ht, hv''⟩
    · exact absurd ⟨_, hstay.symm.trans hv' ▸ hv, action, rfl⟩ hnot
    · have hsame := Option.some.inj (hv'.symm.trans hv'')
      obtain ⟨-, hflow⟩ := Visit.mk.inj hsame
      obtain rfl := (hfits.turn ht).eq_telling (eq_of_heq hflow).symm
      obtain ⟨rfl, hs⟩ := Stage.eq_opening_of_turn ht
      exact ⟨luck', _, _, hm, hv, rfl, by rw [hs]⟩

end Course

/-! ### The chat of a result -/

namespace Stage

variable {actor target : UserId} {action : Decision} {t t' : Records}

/-- **What a decision has to say about the chat of the two users** is true. -/
def Names (actor target : UserId) (t : Records) : Stage → Prop
  | .telling chat => t.chatOfPair.get? (orderedPair actor target) = some chat
  | .tellingOther chat => t.chatOfPair.get? (orderedPair actor target) = some chat
  | .ended (.ok outcome) => outcome.status = .paired → ∃ chat, outcome = .ofMatch target chat ∧
      t.chatOfPair.get? (orderedPair actor target) = some chat
  | _ => True

theorem names_first : (first actor target).Names actor target t := by
  unfold first
  split <;> trivial

/-- What was said about a chat stays true as long as the pair keeps its chat. -/
theorem Names.mono {stage : Stage} (h : stage.Names actor target t)
    (hkeep : ∀ chat, t.chatOfPair.get? (orderedPair actor target) = some chat →
      t'.chatOfPair.get? (orderedPair actor target) = some chat) :
    stage.Names actor target t' := by
  cases stage with
  | telling chat => exact hkeep chat h
  | tellingOther chat => exact hkeep chat h
  | ended result =>
    cases result with
    | error e => trivial
    | ok outcome =>
      intro hpaired
      obtain ⟨chat, he, hchat⟩ := h hpaired
      exact ⟨chat, he, hkeep chat hchat⟩
  | _ => trivial

/-- The stage after the opening names the chat that was found or opened. -/
theorem names_afterOpening {chat : ChatId} {created : Bool}
    (h : t.chatOfPair.get? (orderedPair actor target) = some chat) :
    (afterOpening target (.ok (chat, created))).Names actor target t := by
  cases created with
  | true => exact h
  | false => exact fun _ => ⟨chat, rfl, h⟩

/-- A turn leads from what is true to what is true. -/
theorem Names.turn {stage stage' : Stage} {luck : Luck} {a a' : Annals}
    (h : stage.Names actor target a.records)
    (ht : stage.turn actor target action luck a = some (stage', a')) :
    stage'.Names actor target a'.records := by
  cases stage with
  | recording =>
    rcases askStore_cases (Option.some.inj ht) with ⟨_, -, rfl⟩ | ⟨e, -, rfl⟩
    · cases action with
      | like => trivial
      | dislike => exact fun hpaired => absurd hpaired (by simp [DecisionOutcome.decided])
    · trivial
  | checking =>
    rcases askStore_cases (Option.some.inj ht) with ⟨liked, -, rfl⟩ | ⟨e, -, rfl⟩
    · cases liked with
      | true => trivial
      | false => exact fun hpaired => absurd hpaired (by simp [DecisionOutcome.decided])
    · trivial
  | opening =>
    rcases askStore_cases (Option.some.inj ht) with ⟨⟨chat, created⟩, hs, rfl⟩ | ⟨e, -, rfl⟩
    · cases hl : luck.failure with
      | some e => simp [Luck.serve, hl] at hs
      | none =>
        have ha : a.answer luck.now (.openMatch actor target matchGreeting) =
            (.ok (chat, created), a') := by simpa [Luck.serve, hl] using hs
        have hreply : (a.records.openMatch luck.now actor target matchGreeting).1 =
            .ok (chat, created) := congrArg Prod.fst ha
        have hafter : (a.records.openMatch luck.now actor target matchGreeting).2 = a'.records :=
          congrArg (fun x => x.2.records) ha
        exact names_afterOpening (hafter ▸ Records.get?_chatOfPair_openMatch hreply)
    · trivial
  | telling chat =>
    obtain ⟨rfl, rfl⟩ := Prod.mk.inj (Option.some.inj ht)
    exact h
  | tellingOther chat =>
    obtain ⟨rfl, rfl⟩ := Prod.mk.inj (Option.some.inj ht)
    exact fun _ => ⟨chat, rfl, h⟩
  | ended result => exact absurd ht (by simp [Stage.turn])

end Stage

namespace Course

variable {c : Course} {k n : Nat} {actor target : UserId} {chat : ChatId}

/-- **At every moment, what a decision has to say about its chat is true.** -/
theorem exists_stage_names {v : Visit} {action : Decision} (hv : (c.scene k).visits[n]? = some v)
    (he : v.errand = .decide actor target action) :
    ∃ stage : Stage, v = .deciding actor target action stage ∧
      stage.Fits actor target action ∧ stage.Names actor target (c.scene k).records := by
  refine stage_induction (fun k stage => stage.Names actor target (c.scene k).records)
    (fun _ => Stage.names_first) ?_ ?_ hv he
  · exact fun k stage h => h.mono fun chat hchat => chatOf_mono (Nat.le_succ k) hchat
  · exact fun k luck stage stage' _ h _ _ ht => h.turn ht

/-- A decision has come to this outcome. -/
def Returns (c : Course) (k n : Nat) (actor target : UserId) (outcome : DecisionOutcome) : Prop :=
  ∃ action, (c.scene k).visits[n]? = some ⟨.decide actor target action, .done (.ok outcome)⟩

/-- **A decision that comes to a match names the chat of the pair.** -/
theorem Returns.names {outcome : DecisionOutcome} (h : c.Returns k n actor target outcome)
    (hpaired : outcome.status = .paired) :
    ∃ chat, outcome = .ofMatch target chat ∧ c.chatOf k (orderedPair actor target) = some chat := by
  obtain ⟨action, hv⟩ := h
  obtain ⟨stage, he, -, hnames⟩ := exists_stage_names hv rfl
  obtain ⟨-, hflow⟩ := Visit.mk.inj he
  obtain rfl := Stage.eq_ended_of_flow (eq_of_heq hflow).symm
  exact hnames hpaired

/-! ### The greeting -/

/-- The greeting is the only thing in the log of a chat that is opened as that of a match. -/
theorem OpensByMatch.log (h : c.OpensByMatch k n actor target chat)
    (hroom : (c.scene (k + 1)).annals.HasRoom) :
    (c.scene k).records.log chat = [] ∧
      Records.Greets actor target ((c.scene (k + 1)).records.log chat) := by
  obtain ⟨now, hreply, ha⟩ := Scene.Answers.of_ok h
  obtain ⟨rfl, hlog⟩ := Records.log_openMatch hreply
  have hkept : (c.scene k).annals.Kept := kept (hasRoom_of_le (Nat.le_succ k) hroom)
  have hnext : (c.scene k).annals.opened + 1 < 2 ^ 63 := by
    have hopened : (StoreRequest.openMatch actor target matchGreeting).chatsOpened
        ((c.scene k).annals.answer now (.openMatch actor target matchGreeting)).1 = 1 := by
      rw [hreply]
      rfl
    have hlt := hroom.1
    rw [scene_succ, ha, Annals.answer] at hlt
    exact hopened ▸ hlt
  have hempty := hkept.sound.log_next hkept.chats hnext
  rw [hempty] at hlog
  refine ⟨hempty, ?_⟩
  rw [scene_succ, Scene.records, ha, Annals.answer_records, Records.answer, hlog]
  exact ⟨_, [], rfl, rfl, rfl, rfl, rfl, fun m hm => absurd hm (by simp)⟩

/-- **What becomes of a log with one move**: nothing, messages are marked read, a user writes, or
the chat is opened as that of a match. -/
theorem log_succ_cases (c : Course) (k : Nat) (chat : ChatId) :
    (c.scene (k + 1)).records.log chat = (c.scene k).records.log chat ∨
    (∃ p, (c.scene (k + 1)).records.log chat =
      ((c.scene k).records.log chat).map (Records.marked p)) ∨
    (∃ m, m.kind = .text ∧
      (c.scene (k + 1)).records.log chat = (c.scene k).records.log chat ++ [m]) ∨
    (∃ n actor target, c.OpensByMatch k n actor target chat) := by
  rcases (c.scene k).annals_cases (c k) with he | ⟨n, now, r, hans, he⟩
  · exact Or.inl (by rw [scene_succ, Scene.records, he]; rfl)
  rw [scene_succ, Scene.records, he, Annals.answer_records]
  rcases (c.scene k).records.log_answer_cases now r chat with
    h | ⟨p, h⟩ | ⟨m, rfl, h⟩ | ⟨a, b, content, rfl, ho⟩
  · exact Or.inl h
  · exact Or.inr (Or.inl ⟨p, h⟩)
  · exact Or.inr (Or.inr (Or.inl ⟨_, (c.mannered k).asks_append hans, h⟩))
  · refine Or.inr (Or.inr (Or.inr ⟨n, a, b, ?_⟩))
    obtain ⟨-, -, rfl⟩ := (c.mannered k).asks_openMatch hans
    rw [OpensByMatch, ← (StoreRequest.opened?_openMatch.1 ho).2]
    exact hans

/-- **The log of a chat that was opened as that of a match begins with the greeting**, and nothing
else in it is from the service. -/
theorem OpensByMatch.greets {j : Nat} (h : c.OpensByMatch j n actor target chat) (hjk : j < k)
    (hroom : (c.scene k).annals.HasRoom) :
    Records.Greets actor target ((c.scene k).records.log chat) := by
  induction hjk with
  | refl => exact (h.log hroom).2
  | @step k _ ih =>
    have ih := ih (hasRoom_of_le (Nat.le_succ k) hroom)
    rcases c.log_succ_cases k chat with he | ⟨p, he⟩ | ⟨m, hm, he⟩ | ⟨n', a, b, hopen⟩
    · rwa [he]
    · rw [he]
      exact ih.map_marked p
    · rw [he]
      exact ih.concat hm
    · -- the chat that is opened now has an empty log, and this one has not
      exact absurd (hopen.log hroom).1 ih.ne_nil

/-- **A log is plain, or it is that of a match.** -/
theorem plain_or_opened (hroom : (c.scene k).annals.HasRoom) (chat : ChatId) :
    Records.Plain ((c.scene k).records.log chat) ∨
      ∃ j < k, ∃ n actor target, c.OpensByMatch j n actor target chat := by
  induction k with
  | zero =>
    refine Or.inl fun m hm => ?_
    simp [Scene.empty, Scene.records, Annals.empty] at hm
  | succ k ih =>
    have ih := ih (hasRoom_of_le (Nat.le_succ k) hroom)
    have hlater : (∃ j < k, ∃ n actor target, c.OpensByMatch j n actor target chat) →
        ∃ j < k + 1, ∃ n actor target, c.OpensByMatch j n actor target chat := by
      rintro ⟨j, hj, h⟩
      exact ⟨j, by omega, h⟩
    rcases c.log_succ_cases k chat with he | ⟨p, he⟩ | ⟨m, hm, he⟩ | hopen
    · rw [he]
      exact ih.imp_right hlater
    · rw [he]
      exact ih.imp (fun h => h.map_marked p) hlater
    · rw [he]
      exact ih.imp (fun h => h.concat hm) hlater
    · exact Or.inr ⟨k, by omega, hopen⟩

/-! ### The course as a whole -/

/-- The match of a pair was announced before this move. -/
def Announced (c : Course) (k : Nat) (p : UserId × UserId) : Prop :=
  ∃ j < k, ∃ n actor target chat, p = orderedPair actor target ∧ c.Announces j n actor target chat

/-- The chat of a pair was opened by a match before this move. -/
def OpenedByMatch (c : Course) (k : Nat) (p : UserId × UserId) (chat : ChatId) : Prop :=
  ∃ j < k, ∃ n actor target, p = orderedPair actor target ∧ c.OpensByMatch j n actor target chat

/-- The chat of a pair was opened by a message before this move. -/
def OpenedByLetter (c : Course) (k : Nat) (p : UserId × UserId) (chat : ChatId) : Prop :=
  ∃ j < k, ∃ n sender receiver, p = orderedPair sender receiver ∧
    c.OpensByLetter j n sender receiver chat

/-- The chat of a pair was opened by a match or by a message, not by both. -/
theorem opened_either {p : UserId × UserId} (h : c.chatOf k p = some chat) :
    (c.OpenedByMatch k p chat ∧ ¬c.OpenedByLetter k p chat) ∨
      (c.OpenedByLetter k p chat ∧ ¬c.OpenedByMatch k p chat) := by
  obtain ⟨j, hj, ho⟩ := chatOf_eq_some_iff.1 h
  cases ho with
  | byMatch ho =>
    refine Or.inl ⟨⟨j, hj, _, _, _, rfl, ho⟩, ?_⟩
    rintro ⟨j', -, n', sender, receiver, hp, ho'⟩
    exact ho.not_byLetter hp ho'
  | byLetter ho =>
    refine Or.inr ⟨⟨j, hj, _, _, _, rfl, ho⟩, ?_⟩
    rintro ⟨j', -, n', actor, target, hp, ho'⟩
    exact ho'.not_byLetter hp.symm ho

/-- **Matches are announced once in a course.** The fields about logs are for as long as the numbers
of chats and messages last. -/
structure AnnouncesOnce (c : Course) : Prop where
  /-- The match of a pair is announced once in the whole course, by one visit. -/
  once : ∀ k n actor target chat k' n' actor' target' chat',
    c.Announces k n actor target chat → c.Announces k' n' actor' target' chat' →
    orderedPair actor target = orderedPair actor' target' → k = k' ∧ n = n'
  /-- It is announced by the visit that is told that it has opened the chat, at this very moment. -/
  by_opener : ∀ k n actor target chat,
    c.Announces k n actor target chat ↔ c.OpensByMatch k n actor target chat
  /-- The chat that a pair has was opened by a match or by a message. -/
  either : ∀ k p chat, c.chatOf k p = some chat →
    (c.OpenedByMatch k p chat ∧ ¬c.OpenedByLetter k p chat) ∨
      (c.OpenedByLetter k p chat ∧ ¬c.OpenedByMatch k p chat)
  /-- The match of a pair was announced exactly if the pair has a chat and a match opened it. -/
  announced_iff : ∀ k p,
    c.Announced k p ↔ ∃ chat, c.chatOf k p = some chat ∧ c.OpenedByMatch k p chat
  /-- Its chat then begins with the greeting from the one who decided to the other, and this is the
  only message of the service there. -/
  greets : ∀ j k n actor target chat, c.Announces j n actor target chat → j < k →
    (c.scene k).annals.HasRoom → Records.Greets actor target ((c.scene k).records.log chat)
  /-- A message of the service is the first of the chat of a match that was announced. -/
  greeting_only : ∀ k chat m, (c.scene k).annals.HasRoom → m ∈ (c.scene k).records.log chat →
    m.kind = .system → ((c.scene k).records.log chat).head? = some m ∧
      ∃ j < k, ∃ n actor target, c.Announces j n actor target chat
  /-- Whoever is told of a match of the pair, and whenever, is told the same chat. -/
  same_chat : ∀ k n actor target outcome k' n' actor' target' outcome',
    c.Returns k n actor target outcome → c.Returns k' n' actor' target' outcome' →
    orderedPair actor target = orderedPair actor' target' →
    outcome.status = .paired → outcome'.status = .paired →
    ∃ chat, outcome.chat = some chat ∧ outcome'.chat = some chat

/-- **In every course, matches are announced once.** -/
theorem announcesOnce (c : Course) : c.AnnouncesOnce where
  once k n actor target chat k' n' actor' target' chat' h h' hp := by
    obtain ⟨rfl, rfl, -⟩ := (announces_iff.1 h).unique (announces_iff.1 h') hp
    exact ⟨rfl, rfl⟩
  by_opener k n actor target chat := announces_iff
  either k p chat h := opened_either h
  announced_iff k p := by
    constructor
    · rintro ⟨j, hj, n, actor, target, chat, rfl, h⟩
      have ho := announces_iff.1 h
      exact ⟨chat, chatOf_eq_some_iff.2 ⟨j, hj, .byMatch ho⟩, j, hj, n, actor, target, rfl, ho⟩
    · rintro ⟨chat, -, j, hj, n, actor, target, rfl, h⟩
      exact ⟨j, hj, n, actor, target, chat, rfl, announces_iff.2 h⟩
  greets j k n actor target chat h hjk hroom := (announces_iff.1 h).greets hjk hroom
  greeting_only k chat m hroom hm hkind := by
    rcases plain_or_opened hroom chat with hplain | ⟨j, hj, n, actor, target, ho⟩
    · rw [hplain m hm] at hkind
      exact absurd hkind (by simp)
    · exact ⟨(ho.greets hj hroom).head? hm hkind, j, hj, n, actor, target, announces_iff.2 ho⟩
  same_chat k n actor target outcome k' n' actor' target' outcome' h h' hp hpaired hpaired' := by
    obtain ⟨chat, rfl, hc⟩ := h.names hpaired
    obtain ⟨chat', rfl, hc'⟩ := h'.names hpaired'
    -- at the later of the two moments the pair still has both chats, so they are the same
    have hlater := chatOf_mono (Nat.le_max_left k k') hc
    have hlater' := chatOf_mono (Nat.le_max_right k k') hc'
    rw [hp, hlater', Option.some.injEq] at hlater
    exact ⟨chat, rfl, congrArg some hlater⟩

/-- Two users like each other: the second one to decide announces it, from the first chat. -/
example : (ofMoves [.arrive (.decide 1 2 .like), .arrive (.decide 2 1 .like), .turn 0 .fair,
    .turn 1 .fair, .turn 1 .fair, .turn 1 .fair]).Announces 5 1 2 1 1 :=
  OpensByMatch.announces ⟨.fair, _, _, rfl, rfl, rfl, rfl⟩

end Course

end Traffic

end Rendezvous
