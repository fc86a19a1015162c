import Mathlib.Data.List.Basic
import Rendezvous.Proofs.Dealings.Preferences
import Rendezvous.Proofs.Store.Chronicle

/-!
# What a failed message leaves behind

A message is sent by two or three calls to the store, and each of them may fail. Nothing is pushed
unless the last one has gone well, so that a message that fails is never told to anybody. A call
that fails does nothing, and most messages that fail leave nothing behind at all.

## The chat that stays

There is one exception (`Desk.Stranded`). A message that does not name its chat goes to the chat of
the two users, which is opened if they have none. The chat is opened by one call and the message is
put into it by the next, and if the next one fails, the chat stays, empty. It is the chat of the two
from then on. So if they like each other later, no chat is opened for them, and the service, which
tells of a match when it opens the chat, does not tell them (`Desk.unannounced`).

## How it is seen

The store is made to fail at any of its calls, for any reason (`Setbacks`). What a task comes to
then is seen call by call, as it is for a store that does not fail.
-/

namespace Rendezvous

/-- Which calls to the store fail, by their number, and why. -/
abbrev Setbacks := Nat → Option StoreError

/-! ### Chats of pairs -/

namespace Annals

/-- A pair that has a chat keeps it. -/
theorem chatOfPair_through {a : Annals} {p : UserId × UserId}
    (h : a.records.chatOfPair.get? p ≠ none) (events : List StoreEvent) :
    (a.through events).records.chatOfPair.get? p ≠ none := by
  induction events generalizing a with
  | nil => exact h
  | cons e events ih =>
    refine ih ?_
    cases e with
    | granted token user => exact h
    | asked deed =>
      obtain ⟨id, hid⟩ := Option.ne_none_iff_exists'.1 h
      exact Option.ne_none_iff_exists'.2
        ⟨id, (Records.get?_chatOfPair_answer ..).2 (Or.inl hid)⟩

end Annals

namespace Desk

variable {clock : Nat → Timestamp} {setbacks : Setbacks} {α : Type} {d d' : Desk}
variable {sender a b : UserId} {m : Letter}

/-! ### A store that fails -/

/-- The reply to a call. A call to the store that fails does nothing. -/
def hamper (clock : Nat → Timestamp) (setbacks : Setbacks) : Flow.Server Desk
  | .store q, d =>
    match setbacks d.ticks with
    | some e => (.error e, { d with ticks := d.ticks + 1 })
    | none => d.answer clock q
  | call, d => serve clock call d

/-- What a task comes to with a store that may fail, and the desk after it. -/
def attempt (clock : Nat → Timestamp) (setbacks : Setbacks) (task : Task α) (d : Desk) :
    Except Refusal α × Desk :=
  task.run.run (hamper clock setbacks) d

/-- A call that fails does nothing. -/
theorem attempt_store_failed {q : StoreRequest} {e : StoreError} (h : setbacks d.ticks = some e) :
    attempt clock setbacks (Task.store q) d =
      (.error (.ofStore e), { d with ticks := d.ticks + 1 }) := by
  have hreply :
      hamper clock setbacks (.store q) d = (.error e, { d with ticks := d.ticks + 1 }) := by
    simp only [hamper, h]
  refine (Task.run_store q).trans ?_
  rw [hreply]
  rfl

/-- A call that does not fail is answered from the tables. -/
theorem attempt_store_answered {q : StoreRequest} {reply : Except StoreError q.Answer} {t : Records}
    (h : setbacks d.ticks = none) (ha : d.annals.records.answer (clock d.ticks) q = (reply, t)) :
    attempt clock setbacks (Task.store q) d =
      (reply.mapError Refusal.ofStore, (d.answer clock q).2) := by
  have hreply : hamper clock setbacks (.store q) d = d.answer clock q := by
    simp only [hamper, h]
  refine (Task.run_store q).trans ?_
  rw [hreply]
  exact Prod.ext (congrArg (fun out => out.1.mapError Refusal.ofStore) ha) rfl

theorem attempt_bind_ok {β : Type} {x : Task α} {f : α → Task β} {a : α}
    (h : attempt clock setbacks x d = (.ok a, d')) :
    attempt clock setbacks (x >>= f) d = attempt clock setbacks (f a) d' :=
  Flow.run_bind_ok h

theorem attempt_bind_error {β : Type} {x : Task α} {f : α → Task β} {refusal : Refusal}
    (h : attempt clock setbacks x d = (.error refusal, d')) :
    attempt clock setbacks (x >>= f) d = (.error refusal, d') :=
  Flow.run_bind_error h

theorem attempt_push (user : UserId) (notice : Notice) (d : Desk) :
    attempt clock setbacks (Task.push user notice) d =
      (.ok (d.push user notice).1, (d.push user notice).2) := rfl

/-! ### Nothing is left behind -/

/-- **Nothing has happened at a desk**, but that time has passed. -/
structure Untouched (d d' : Desk) : Prop where
  /-- The tables are as they were. -/
  annals : d'.annals = d.annals
  /-- The connections are as they were. -/
  board : d'.board = d.board
  /-- Nothing was pushed. -/
  pushed : d'.pushed = d.pushed

theorem Untouched.refl (d : Desk) : d.Untouched d := ⟨rfl, rfl, rfl⟩

theorem Untouched.trans {d'' : Desk} (h : d.Untouched d') (h' : d'.Untouched d'') :
    d.Untouched d'' :=
  ⟨h'.annals.trans h.annals, h'.board.trans h.board, h'.pushed.trans h.pushed⟩

/-- A call that is answered without a change to the tables. -/
theorem untouched_answer (clock : Nat → Timestamp) {q : StoreRequest}
    {reply : Except StoreError q.Answer}
    (ha : d.annals.records.answer (clock d.ticks) q = (reply, d.annals.records))
    (hquiet : q.Quiet reply) : d.Untouched (d.answer clock q).2 := by
  refine ⟨?_, rfl, rfl⟩
  unfold Desk.answer Annals.answer
  rw [ha]
  dsimp only
  rw [StoreRequest.chatsOpened, hquiet.1, hquiet.2]
  rfl

/-- A task that changes nothing, whatever comes of it. -/
def Idle (clock : Nat → Timestamp) (setbacks : Setbacks) (task : Task α) : Prop :=
  ∀ d : Desk, d.Untouched (attempt clock setbacks task d).2

theorem idle_pure (a : α) : Idle clock setbacks (pure a) := fun d => .refl d

theorem idle_throw (refusal : Refusal) : Idle clock setbacks (throw refusal : Task α) :=
  fun d => .refl d

theorem Idle.bind {β : Type} {x : Task α} {f : α → Task β} (hx : Idle clock setbacks x)
    (hf : ∀ a, Idle clock setbacks (f a)) : Idle clock setbacks (x >>= f) := by
  intro d
  have h := hx d
  cases hout : attempt clock setbacks x d with
  | mk result d' =>
    rw [hout] at h
    cases result with
    | ok a =>
      rw [attempt_bind_ok hout]
      exact h.trans (hf a d')
    | error e =>
      rw [attempt_bind_error hout]
      exact h

/-- To look for a chat changes nothing, whether it is found or not. -/
theorem idle_ownChat (user : UserId) (id : ChatId) :
    Idle clock setbacks (Correspondence.ownChat user id) := by
  refine Idle.bind (fun d => ?_) fun chat => ?_
  · cases hfail : setbacks d.ticks with
    | some e =>
      rw [attempt_store_failed hfail]
      exact ⟨rfl, rfl, rfl⟩
    | none =>
      rw [attempt_store_answered (q := .chat id) hfail rfl]
      exact untouched_answer clock (q := .chat id) rfl ⟨rfl, rfl⟩
  · cases chat with
    | none => exact idle_throw _
    | some chat =>
      dsimp only
      split
      · exact idle_pure _
      · exact idle_throw _

/-! ### The calls of a message -/

/-- **The chat that a message goes to**: looking for it leaves the desk untouched, unless it is
opened for the message. -/
theorem attempt_chatFor (clock : Nat → Timestamp) (setbacks : Setbacks) (sender : UserId)
    (m : Letter) (d : Desk) :
    d.Untouched (attempt clock setbacks (Correspondence.chatFor sender m) d).2 ∨
      (m.chat = none ∧ setbacks d.ticks = none ∧ sender ≠ m.receiver ∧
        d.annals.records.chatOfPair.get? (orderedPair sender m.receiver) = none ∧
        attempt clock setbacks (Correspondence.chatFor sender m) d =
          (.ok (d.annals.records.lastChat + 1),
            (d.answer clock (.openChat sender m.receiver)).2)) := by
  unfold Correspondence.chatFor
  cases m.chat with
  | some id =>
    refine Or.inl (Idle.bind (idle_ownChat sender id) (fun chat => ?_) d)
    split
    · exact idle_pure _
    · exact idle_throw _
  | none =>
    cases hfail : setbacks d.ticks with
    | some e =>
      rw [attempt_bind_error (attempt_store_failed hfail)]
      exact Or.inl ⟨rfl, rfl, rfl⟩
    | none =>
      rcases d.annals.records.openChat_cases (clock d.ticks) sender m.receiver with
        ⟨-, ho⟩ | ⟨-, id, -, ho⟩ | ⟨hne, hnew, ho⟩
      · -- two equal users are refused
        rw [attempt_bind_error (attempt_store_answered (q := .openChat sender m.receiver) hfail ho)]
        exact Or.inl (untouched_answer clock (q := .openChat sender m.receiver) ho ⟨rfl, rfl⟩)
      · -- the chat is there
        rw [attempt_bind_ok (attempt_store_answered (q := .openChat sender m.receiver) hfail ho)]
        exact Or.inl (untouched_answer clock (q := .openChat sender m.receiver) ho ⟨rfl, rfl⟩)
      · refine Or.inr ⟨rfl, rfl, hne, hnew, ?_⟩
        rw [attempt_bind_ok (attempt_store_answered (q := .openChat sender m.receiver) hfail ho)]
        rfl

/-- **A message put into its chat**: it is stored, or nothing is changed. -/
theorem attempt_append (clock : Nat → Timestamp) (setbacks : Setbacks) (m : PendingMessage)
    (d : Desk) :
    (∃ stored d', attempt clock setbacks (Task.store (.append m)) d = (.ok stored, d')) ∨
      (∃ refusal d', attempt clock setbacks (Task.store (.append m)) d = (.error refusal, d') ∧
        d.Untouched d') := by
  cases hfail : setbacks d.ticks with
  | some e => exact Or.inr ⟨_, _, attempt_store_failed hfail, rfl, rfl, rfl⟩
  | none =>
    rcases d.annals.records.append_cases (clock d.ticks) m with
      ⟨-, ho⟩ | ⟨chat, -, -, ho⟩ | ⟨chat, -, -, -, ho⟩
    · exact Or.inr ⟨_, _, attempt_store_answered (q := .append m) hfail ho,
        untouched_answer clock (q := .append m) ho ⟨rfl, rfl⟩⟩
    · exact Or.inr ⟨_, _, attempt_store_answered (q := .append m) hfail ho,
        untouched_answer clock (q := .append m) ho ⟨rfl, rfl⟩⟩
    · exact Or.inl ⟨_, _, attempt_store_answered (q := .append m) hfail ho⟩

/-- **A message is stranded**: its chat is opened for it, and then it cannot be put there, since the
store fails. -/
structure Stranded (setbacks : Setbacks) (sender : UserId) (m : Letter) (d : Desk) : Prop where
  /-- There is nothing wrong with the message. -/
  sound : Correspondence.objection? sender m = none
  /-- The message does not name its chat. -/
  unnamed : m.chat = none
  /-- The two users have no chat yet. -/
  fresh : d.annals.records.chatOfPair.get? (orderedPair sender m.receiver) = none
  /-- The chat is opened. -/
  opened : setbacks d.ticks = none
  /-- The store fails to take the message. -/
  failed : setbacks (d.ticks + 1) ≠ none

theorem ne_of_objection? (h : Correspondence.objection? sender m = none) : sender ≠ m.receiver := by
  rintro rfl
  unfold Correspondence.objection? at h
  split at h
  · exact absurd h (by simp)
  · split at h
    · exact absurd h (by simp)
    · exact absurd h (by simp)

/-- The desk with the chat that was opened for a message. -/
def opening (clock : Nat → Timestamp) (sender : UserId) (m : Letter) (d : Desk) : Desk :=
  (d.answer clock (.openChat sender m.receiver)).2

/-- A chat that is not there is opened. -/
theorem answer_openChat (hne : sender ≠ m.receiver)
    (hnew : d.annals.records.chatOfPair.get? (orderedPair sender m.receiver) = none) :
    d.annals.records.answer (clock d.ticks) (.openChat sender m.receiver) =
      (.ok (d.annals.records.lastChat + 1, true),
        d.annals.records.filed (clock d.ticks) (orderedPair sender m.receiver)) := by
  refine (Records.openChat_eq ..).trans ?_
  rw [if_neg hne, hnew]

/-- What is different with the chat is the chat. -/
theorem records_opening (hne : sender ≠ m.receiver)
    (hnew : d.annals.records.chatOfPair.get? (orderedPair sender m.receiver) = none) :
    (opening clock sender m d).annals.records =
      d.annals.records.filed (clock d.ticks) (orderedPair sender m.receiver) :=
  congrArg Prod.snd (answer_openChat hne hnew)

/-- The chat that was just opened for a message takes the message, if the store does not fail. -/
theorem attempt_append_opening (clock : Nat → Timestamp) (hne : sender ≠ m.receiver)
    (hnew : d.annals.records.chatOfPair.get? (orderedPair sender m.receiver) = none)
    (hgood : setbacks (d.ticks + 1) = none) :
    ∃ stored e, attempt clock setbacks (Task.store (.append ⟨d.annals.records.lastChat + 1, sender,
      m.receiver, m.content, .text⟩)) (opening clock sender m d) = (.ok stored, e) := by
  have happ :=
    d.annals.records.append_filed hne (clock d.ticks) (clock (d.ticks + 1)) m.content .text
  rw [← records_opening hne hnew] at happ
  exact ⟨_, _, attempt_store_answered (q := .append _) hgood happ⟩

/-- **A message that fails** leaves the desk untouched, or is stranded and leaves its chat
behind. -/
theorem attempt_send_error {refusal : Refusal}
    (h : attempt clock setbacks (Correspondence.send sender m) d = (.error refusal, d')) :
    d.Untouched d' ∨ (Stranded setbacks sender m d ∧ (opening clock sender m d).Untouched d') := by
  unfold Correspondence.send at h
  cases hobjection : Correspondence.objection? sender m with
  | some objection =>
    rw [hobjection] at h
    obtain ⟨-, rfl⟩ := Prod.mk.inj h
    exact Or.inl (.refl d)
  | none =>
    rw [hobjection] at h
    have hchat := attempt_chatFor clock setbacks sender m d
    cases hout : attempt clock setbacks (Correspondence.chatFor sender m) d with
    | mk result e =>
      rw [hout] at hchat
      cases result with
      | error refusal' =>
        rw [attempt_bind_error hout] at h
        obtain ⟨-, rfl⟩ := Prod.mk.inj h
        rcases hchat with he | ⟨-, -, -, -, he⟩
        · exact Or.inl he
        · exact absurd (Prod.mk.inj he).1 (by simp)
      | ok id =>
        rw [attempt_bind_ok hout] at h
        rcases attempt_append clock setbacks
            ⟨id, sender, m.receiver, m.content, .text⟩ e with
          ⟨stored, e', happ⟩ | ⟨refusal', e', happ, he'⟩
        · -- a message that was stored does not fail any more
          rw [attempt_bind_ok happ, attempt_bind_ok (attempt_push ..)] at h
          exact absurd (Prod.mk.inj h).1 (by simp)
        · rw [attempt_bind_error happ] at h
          obtain ⟨-, rfl⟩ := Prod.mk.inj h
          rcases hchat with he | ⟨hunnamed, hopened, hne, hfresh, he⟩
          · exact Or.inl (he.trans he')
          · obtain ⟨hid, rfl⟩ := Prod.mk.inj he
            obtain rfl := Except.ok.inj hid
            refine Or.inr ⟨⟨hobjection, hunnamed, hfresh, hopened, fun hgood => ?_⟩, he'⟩
            obtain ⟨stored, e, hstored⟩ := attempt_append_opening clock hne hfresh hgood
            exact absurd (Prod.mk.inj (happ.symm.trans hstored)).1 (by simp)

/-- **A stranded message** fails, and its chat stays. -/
theorem Stranded.attempt_send (h : Stranded setbacks sender m d) (clock : Nat → Timestamp) :
    ∃ refusal d', attempt clock setbacks (Correspondence.send sender m) d = (.error refusal, d') ∧
      (opening clock sender m d).Untouched d' := by
  have hne := ne_of_objection? h.sound
  obtain ⟨e, hfail⟩ := Option.ne_none_iff_exists'.1 h.failed
  have hchat : attempt clock setbacks (Correspondence.chatFor sender m) d =
      (.ok (d.annals.records.lastChat + 1), opening clock sender m d) := by
    unfold Correspondence.chatFor
    rw [h.unnamed]
    exact attempt_bind_ok (attempt_store_answered h.opened (answer_openChat hne h.fresh))
  unfold Correspondence.send
  rw [h.sound]
  dsimp only
  rw [attempt_bind_ok hchat, attempt_bind_error (attempt_store_failed hfail)]
  exact ⟨_, _, rfl, rfl, rfl, rfl⟩

/-! ### The match that is not told -/

/-- **Two users who have a chat are not told of their match.** -/
theorem silent_decide (h : d.annals.records.chatOfPair.get? (orderedPair a b) ≠ none)
    (action : Decision) : d.Silent (perform clock (Pairing.decide a b action) d).2 := by
  by_cases hself : a = b
  · subst hself
    rw [perform_decide_self]
    exact ⟨rfl, rfl⟩
  · obtain ⟨outcome, d', hd, -, -, hquiet⟩ := perform_decide clock hself action d
    rw [hd]
    exact hquiet h

/-- **What a message that fails leaves behind**, of a desk as it was before. -/
structure Failed (clock : Nat → Timestamp) (setbacks : Setbacks) (sender : UserId) (m : Letter)
    (d d' : Desk) : Prop where
  /-- Nobody is told anything. -/
  silent : d.Silent d'
  /-- Nothing is left behind, unless the message is stranded. -/
  untouched : ¬Stranded setbacks sender m d → d'.annals = d.annals
  /-- A stranded message leaves the chat behind, and nothing else. -/
  stranded : Stranded setbacks sender m d → d'.annals.records =
    d.annals.records.filed (clock d.ticks) (orderedPair sender m.receiver)
  /-- No log is different in either case. -/
  logs : d'.annals.records.logs = d.annals.records.logs
  /-- If the message was stranded, then the two are not told if they like each other later, whatever
  happens until then. -/
  unannounced : Stranded setbacks sender m d → ∀ (events : List StoreEvent) (later : Desk),
    later.annals = d'.annals.through events → ∀ actor target action,
      orderedPair actor target = orderedPair sender m.receiver →
      later.Silent (perform clock (Pairing.decide actor target action) later).2

/-- **A message that fails tells nobody and leaves nothing behind**, but for the chat of a stranded
one. -/
theorem send_failed {refusal : Refusal}
    (h : attempt clock setbacks (Correspondence.send sender m) d = (.error refusal, d')) :
    Failed clock setbacks sender m d d' := by
  -- what is left behind by a stranded message is known, whatever the reason of its failure
  have hstays : Stranded setbacks sender m d → (opening clock sender m d).Untouched d' := by
    intro hstranded
    obtain ⟨refusal', e, he, hopening⟩ := hstranded.attempt_send clock
    obtain ⟨-, rfl⟩ := Prod.mk.inj (h.symm.trans he)
    exact hopening
  have hrecords : Stranded setbacks sender m d → d'.annals.records =
      d.annals.records.filed (clock d.ticks) (orderedPair sender m.receiver) := by
    intro hstranded
    rw [(hstays hstranded).annals]
    exact records_opening (ne_of_objection? hstranded.sound) hstranded.fresh
  constructor
  case silent =>
    rcases attempt_send_error h with he | ⟨-, he⟩
    · exact ⟨he.board, he.pushed⟩
    · exact ⟨he.board, he.pushed⟩
  case untouched =>
    intro hnot
    rcases attempt_send_error h with he | ⟨hstranded, -⟩
    · exact he.annals
    · exact absurd hstranded hnot
  case stranded => exact hrecords
  case logs =>
    rcases attempt_send_error h with he | ⟨hstranded, -⟩
    · rw [he.annals]
    · rw [hrecords hstranded]
      rfl
  case unannounced =>
    intro hstranded events later hlater actor target action hpair
    refine silent_decide ?_ action
    rw [hlater, hpair]
    refine Annals.chatOfPair_through ?_ events
    rw [hrecords hstranded]
    exact Option.ne_none_iff_exists'.2
      ⟨_, (Records.get?_chatOfPair_filed hstranded.fresh).2 (Or.inr ⟨rfl, rfl⟩)⟩

/-- The first message of 1 to 2. -/
def hello : Letter := ⟨2, "hello", none⟩

/-- The store fails the second time that it is asked. -/
def away : Setbacks := fun n => if n = 1 then some (.unavailable "away") else none

theorem send_failed_hello : ∃ refusal d',
    attempt (fun n => ⟨n, 0⟩) away (Correspondence.send 1 hello) (start .empty .empty) =
      (.error refusal, d') ∧
    Stranded away 1 hello (start .empty .empty) ∧
    Failed (fun n => ⟨n, 0⟩) away 1 hello (start .empty .empty) d' := by
  have hstranded : Stranded away 1 hello (start .empty .empty) :=
    ⟨by decide +kernel, rfl, rfl, rfl, by decide⟩
  obtain ⟨refusal, d', h, -⟩ := hstranded.attempt_send fun n => ⟨n, 0⟩
  exact ⟨refusal, d', h, hstranded, send_failed h⟩

/-- **A message that fails does not always leave the tables as they were**: after `hello` has failed
there is a chat, and when 1 and 2 like each other then, nobody is told, while both are told if 1 has
never tried to write. -/
theorem stranded_hello :
    let d := start .empty .empty
    let d' := (attempt (fun n => ⟨n, 0⟩) away (Correspondence.send 1 hello) d).2
    let likes : List Choice := [.decide 1 2 .like, .decide 2 1 .like]
    (attempt (fun n => ⟨n, 0⟩) away (Correspondence.send 1 hello) d).1 =
        .error (.ofStore (.unavailable "away")) ∧
      d.annals.records.chats.get? 1 = none ∧
      d'.annals.records.chats.get? 1 = some ⟨1, 1, 2, ⟨0, 0⟩⟩ ∧
      (d.chosen (fun n => ⟨n, 0⟩) likes).pushed =
        [(2, .paired 1 1 matchGreeting), (1, .paired 1 2 matchGreeting)] ∧
      (d'.chosen (fun n => ⟨n, 0⟩) likes).pushed = [] := by
  decide +kernel

end Desk

end Rendezvous
