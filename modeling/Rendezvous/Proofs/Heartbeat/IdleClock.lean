import Mathlib.Data.List.Basic
import Mathlib.Data.List.Induction
import Rendezvous.Proofs.Channel.Acceptance
import Rendezvous.Proofs.Heartbeat.Evictions

/-!
# The idle clock

For how long nothing came from a client is told from two times: when the client was heard last, which
its connection notes in whole milliseconds since it was opened, and what time it is, in nanoseconds.
The fraction of a millisecond that is not noted makes every answer a little too long. None is too
short.

So a connection *remembers* a time (`Connection.Remembers`) if what it has noted is less than a
millisecond earlier, and not later. A sign of life makes it remember that moment, and nothing else
that is done to it changes what it has noted. By induction, whatever has happened to a connection, it
remembers when its client was heard last (`Connection.remembers_aged`), and what is true of an answer
follows (`Connection.KeepsTime`).

The milliseconds are counted in 64 bits. A sign of life is noted rightly up to the last nanosecond
for which they suffice, and after that it is not (`Connection.remembers_touch_iff`).

The heartbeat relies on the direction of the error. A round takes a connection for silent whenever
nothing came from its client for too long, and otherwise only if less than a millisecond is missing
(`Patrol.takesForSilent`).
-/

namespace Rendezvous

namespace Connection

/-! ### What is noted -/

/-- **A connection remembers a time**, but for a fraction of a millisecond. -/
structure Remembers (c : Connection) (t : Nanos) : Prop where
  /-- What it has noted is not later. -/
  le : c.seen ≤ t
  /-- It is less than a millisecond earlier. -/
  lt : t < c.seen + ofMillis 1

variable {c : Connection} {now t liveness : Nanos}

/-- A sign of life is not noted for later than it comes. -/
theorem seen_touch_le (hopened : c.openedAt ≤ now) : (c.touch now).seen ≤ now := by
  have hstamp : stampOf (now - c.openedAt) ≤ wholeMillis (now - c.openedAt) := Nat.mod_le ..
  calc c.openedAt + stampOf (now - c.openedAt) * 1000000
    _ ≤ c.openedAt + (now - c.openedAt) / 1000000 * 1000000 :=
      Nat.add_le_add_left (Nat.mul_le_mul_right _ hstamp) _
    _ ≤ c.openedAt + (now - c.openedAt) := Nat.add_le_add_left (Nat.div_mul_le_self ..) _
    _ = now := Nat.add_sub_cancel' hopened

/-- **A sign of life is noted rightly** as long as the milliseconds since the opening can be counted,
and no longer. -/
theorem remembers_touch_iff (hopened : c.openedAt ≤ now) :
    (c.touch now).Remembers now ↔ now - c.openedAt < ofMillis 18446744073709551616 := by
  refine ⟨fun hnoted => Nat.lt_of_not_le fun hlong => ?_,
    fun hshort => ⟨seen_touch_le hopened, lt_seen_touch hshort⟩⟩
  -- a count that has begun anew is at least one short of what it should be
  have hstamp : stampOf (now - c.openedAt) + 1 ≤ 18446744073709551616 :=
    Nat.mod_lt _ (by decide)
  have hseen : c.openedAt + ofMillis (stampOf (now - c.openedAt)) + ofMillis 1 ≤ now := by
    unfold ofMillis Nanos at *
    omega
  exact absurd hnoted.lt (Nat.not_lt.2 hseen)

/-- A connection that is opened remembers its opening. -/
theorem remembers_opened (user : UserId) (opening : Nanos) :
    (opened user opening).Remembers opening where
  le := Nat.le_of_eq (seen_opened user opening)
  lt := by
    rw [seen_opened]
    exact Nat.lt_add_of_pos_right (by decide)

/-! ### What is read -/

/-- What is subtracted from the age of a connection is not more than that. -/
theorem Remembers.noted_le (hc : c.Remembers t) (hpast : t ≤ now) :
    ofMillis c.lastSeen ≤ now - c.openedAt :=
  Nat.le_sub_of_add_le' (Nat.le_trans hc.le hpast)

/-- A reading is never too short. -/
theorem Remembers.le_silence (hc : c.Remembers t) (now : Nanos) : now - t ≤ c.silence now := by
  rw [silence_eq]
  exact Nat.sub_le_sub_left hc.le now

/-- It is too long by less than a millisecond. -/
theorem Remembers.silence_lt (hc : c.Remembers t) (hpast : t ≤ now) :
    c.silence now < now - t + ofMillis 1 := by
  have hle := hc.le
  have hlt := hc.lt
  rw [silence_eq]
  unfold Nanos at *
  omega

/-- **Two readings differ by the time between them.** -/
theorem silence_later {later : Nanos} (hseen : c.seen ≤ now) (hlater : now ≤ later) :
    c.silence later = c.silence now + (later - now) := by
  rw [silence_eq, silence_eq]
  unfold Nanos at *
  omega

/-- **Who is silent for too long is found to be**, and otherwise less than a millisecond is missing. -/
theorem Remembers.verdict (hc : c.Remembers t) (hpast : t ≤ now) :
    (liveness < now - t → liveness < c.silence now) ∧
      (liveness < c.silence now → liveness < now - t + ofMillis 1) :=
  ⟨fun hlong => Nat.lt_of_lt_of_le hlong (hc.le_silence now),
    fun hlong => Nat.lt_trans hlong (hc.silence_lt hpast)⟩

/-! ### Histories -/

/-- What is done to a connection. -/
inductive Deed where
  /-- Something comes from the client. -/
  | touch
  /-- Somebody asks for how long nothing has come. -/
  | ask
  /-- The queue, the writer or the end of the connection is concerned. -/
  | call (call : Call)
  deriving DecidableEq

/-- What is answered to a deed at some time, and the connection after it. -/
def meet (c : Connection) (now : Nanos) : Deed → Option Nanos × Connection
  | .touch => (none, c.touch now)
  | .ask => (some (c.silence now), c)
  | .call call => (none, c.perform call)

/-- A connection after some deeds. -/
def through (c : Connection) (history : List (Nanos × Deed)) : Connection :=
  history.foldl (fun c d => (c.meet d.1 d.2).2) c

/-- A connection with a history. -/
def aged (user : UserId) (opening : Nanos) (past : List (Nanos × Deed)) : Connection :=
  (opened user opening).through past

/-- **When the client was heard last**, or the connection was opened. -/
def lastHeard (opening : Nanos) (history : List (Nanos × Deed)) : Nanos :=
  ((history.filter (·.2 = .touch)).getLast?.map (·.1)).getD opening

/-- **The deeds come in their order**, and none before the opening. -/
def InOrder (opening : Nanos) (history : List (Nanos × Deed)) : Prop :=
  (opening :: history.map (·.1)).Pairwise (· ≤ ·)

/-- The milliseconds from the opening to a sign of life fit into 64 bits. -/
def Countable (opening : Nanos) (history : List (Nanos × Deed)) : Prop :=
  ∀ d ∈ history, d.2 = .touch → d.1 - opening < ofMillis 18446744073709551616

instance (opening : Nanos) (history : List (Nanos × Deed)) :
    Decidable (InOrder opening history) :=
  inferInstanceAs (Decidable (List.Pairwise _ _))

instance (opening : Nanos) (history : List (Nanos × Deed)) :
    Decidable (Countable opening history) :=
  inferInstanceAs (Decidable (∀ d ∈ history, _))

variable {opening : Nanos} {past later : List (Nanos × Deed)} {d : Deed}

theorem through_concat (c : Connection) (past : List (Nanos × Deed)) (now : Nanos) (d : Deed) :
    c.through (past ++ [(now, d)]) = ((c.through past).meet now d).2 := by
  simp [through]

theorem through_append (c : Connection) (past later : List (Nanos × Deed)) :
    c.through (past ++ later) = (c.through past).through later :=
  List.foldl_append

theorem lastHeard_concat (opening : Nanos) (past : List (Nanos × Deed)) (now : Nanos) (d : Deed) :
    lastHeard opening (past ++ [(now, d)]) =
      if d = .touch then now else lastHeard opening past := by
  unfold lastHeard
  by_cases hd : d = .touch <;> simp [hd]

/-- It was heard by one of the deeds, if it was heard. -/
theorem lastHeard_mem (opening : Nanos) (past : List (Nanos × Deed)) :
    lastHeard opening past ∈ opening :: past.map (·.1) := by
  unfold lastHeard
  cases hlast : (past.filter (·.2 = .touch)).getLast? with
  | none => exact List.mem_cons_self
  | some d =>
    have hd : d ∈ past := (List.mem_filter.1 (List.mem_of_getLast? hlast)).1
    exact List.mem_cons_of_mem _ (List.mem_map_of_mem hd)

theorem InOrder.of_append (h : InOrder opening (past ++ later)) : InOrder opening past := by
  unfold InOrder at h
  rw [List.map_append, ← List.cons_append] at h
  exact (List.pairwise_append.1 h).1

/-- The last deed comes after the others. -/
theorem InOrder.le (h : InOrder opening (past ++ [(now, d)])) :
    ∀ t ∈ opening :: past.map (·.1), t ≤ now := by
  unfold InOrder at h
  rw [List.map_append, ← List.cons_append] at h
  exact fun t ht => (List.pairwise_append.1 h).2.2 t ht now (by simp)

/-- No call says when the client was heard, or when the connection was opened. -/
theorem clock_perform (c : Connection) (call : Call) :
    (c.perform call).openedAt = c.openedAt ∧ (c.perform call).lastSeen = c.lastSeen := by
  cases call with
  | push content => exact Switchboard.lastSeen_offer c (.text content)
  | probe ticket => exact Switchboard.lastSeen_offer c (.probe ticket)
  | close => exact Switchboard.lastSeen_close c
  | take =>
    unfold perform take?
    cases c.queue <;> exact ⟨rfl, rfl⟩
  | abandon => exact ⟨rfl, rfl⟩

theorem openedAt_meet (c : Connection) (now : Nanos) (d : Deed) :
    (c.meet now d).2.openedAt = c.openedAt := by
  cases d with
  | touch => rfl
  | ask => rfl
  | call call => exact (c.clock_perform call).1

/-- **Only a sign of life changes what is noted.** -/
theorem seen_meet (hquiet : d ≠ .touch) (c : Connection) (now : Nanos) :
    (c.meet now d).2.seen = c.seen := by
  cases d with
  | touch => exact absurd rfl hquiet
  | ask => rfl
  | call call =>
    obtain ⟨hopened, hseen⟩ := c.clock_perform call
    change (c.perform call).seen = c.seen
    rw [seen, seen, hopened, hseen]

theorem seen_through (hquiet : ∀ d ∈ later, d.2 ≠ .touch) (c : Connection) :
    (c.through later).seen = c.seen := by
  induction later generalizing c with
  | nil => rfl
  | cons d later ih =>
    obtain ⟨hd, hlater⟩ := List.forall_mem_cons.1 hquiet
    exact (ih hlater _).trans (seen_meet hd c d.1)

/-- **After any history a connection remembers when its client was heard last.** -/
theorem remembers_aged (user : UserId) (horder : InOrder opening past)
    (hcount : Countable opening past) : (aged user opening past).openedAt = opening ∧
      (aged user opening past).Remembers (lastHeard opening past) := by
  unfold aged
  induction past using List.reverseRecOn with
  | nil => exact ⟨rfl, remembers_opened user opening⟩
  | append_singleton past d ih =>
    obtain ⟨now, d⟩ := d
    obtain ⟨hopened, hnoted⟩ := ih horder.of_append fun d hd =>
      hcount d (List.mem_append_left _ hd)
    rw [through_concat, lastHeard_concat]
    refine ⟨(openedAt_meet _ now d).trans hopened, ?_⟩
    by_cases hd : d = .touch
    · subst hd
      rw [if_pos rfl]
      refine (remembers_touch_iff ?_).2 ?_
      · rw [hopened]
        exact horder.le opening List.mem_cons_self
      · rw [hopened]
        exact hcount (now, .touch) (by simp) rfl
    · have hseen := seen_meet hd ((opened user opening).through past) now
      rw [if_neg hd]
      exact ⟨hseen ▸ hnoted.le, hseen ▸ hnoted.lt⟩

/-! ### Readings -/

/-- **What somebody is told** who asks a connection with a history for how long nothing has come. -/
structure KeepsTime (user : UserId) (opening : Nanos) (past : List (Nanos × Deed))
    (now idle : Nanos) : Prop where
  /-- This is the answer. -/
  told : ((aged user opening past).meet now .ask).1 = some idle
  /-- The client was heard before. -/
  heard_le : lastHeard opening past ≤ now
  /-- The answer is not too short. -/
  le : now - lastHeard opening past ≤ idle
  /-- It is too long by less than a millisecond. -/
  lt : idle < now - lastHeard opening past + ofMillis 1
  /-- No difference is cut off: the connection is not from later, and what is noted is not more than
  its age. -/
  whole : (aged user opening past).openedAt ≤ now ∧
    ofMillis (aged user opening past).lastSeen ≤ now - (aged user opening past).openedAt
  /-- Until something comes from the client, the answer grows with the time. -/
  grows : ∀ since later, (∀ d ∈ since, d.2 ≠ .touch) →
    InOrder opening (past ++ (now, .ask) :: since ++ [(later, .ask)]) →
    ((aged user opening (past ++ (now, .ask) :: since)).meet later .ask).1 =
      some (idle + (later - now))
  /-- A round that looks at the connection takes it for silent if it was silent for too long, and
  otherwise only if less than a millisecond is missing. -/
  verdict : ∀ (r : Round) (h : Switchboard) (id : ConnectionId),
    h.connection? id = some (aged user opening past) →
    (r.liveness < now - lastHeard opening past → (r.check now id h).1 = .dead .silent) ∧
    ((r.check now id h).1 = .dead .silent → r.liveness < now - lastHeard opening past + ofMillis 1)

/-- **The idle clock keeps time to the millisecond, and is never behind.** -/
theorem keepsTime (user : UserId) (opening : Nanos) (past : List (Nanos × Deed)) (now : Nanos)
    (horder : InOrder opening (past ++ [(now, .ask)])) (hcount : Countable opening past) :
    ∃ idle, KeepsTime user opening past now idle := by
  obtain ⟨hopened, hnoted⟩ := remembers_aged user horder.of_append hcount
  have hheard : lastHeard opening past ≤ now := horder.le _ (lastHeard_mem opening past)
  refine ⟨(aged user opening past).silence now, ?_⟩
  constructor
  case told => rfl
  case heard_le => exact hheard
  case le => exact hnoted.le_silence now
  case lt => exact hnoted.silence_lt hheard
  case whole =>
    refine ⟨?_, hnoted.noted_le hheard⟩
    rw [hopened]
    exact horder.le opening List.mem_cons_self
  case grows =>
    intro since later hquiet hlater
    have hle : now ≤ later := hlater.le now (by simp)
    have hseen : (aged user opening (past ++ (now, .ask) :: since)).seen =
        (aged user opening past).seen := by
      rw [aged, through_append]
      exact seen_through (List.forall_mem_cons.2 ⟨by simp, hquiet⟩) _
    rw [← silence_later (Nat.le_trans hnoted.le hheard) hle, silence_eq, ← hseen, ← silence_eq]
    rfl
  case verdict =>
    intro r h id hc
    rw [Round.check_eq_silent_iff hc]
    exact hnoted.verdict hheard

/-- A client that is heard before the first millisecond is over, and in the last nanosecond that can
be noted. -/
def aging : List (Nanos × Deed) :=
  [(7, .ask), (1000006, .touch), (1000006, .call (.push "hello")), (1000006, .ask),
    (6 + ofMillis 18446744073709551616, .touch), (6 + ofMillis 18446744073709551616, .call .close)]

/-- Four nanoseconds later its silence is said to be a millisecond and three nanoseconds. -/
theorem keepsTime_aging :
    InOrder 7 (aging ++ [(10 + ofMillis 18446744073709551616, .ask)]) ∧ Countable 7 aging ∧
    lastHeard 7 aging = 6 + ofMillis 18446744073709551616 ∧
    KeepsTime 1 7 aging (10 + ofMillis 18446744073709551616) 1000003 := by
  have horder : InOrder 7 (aging ++ [(10 + ofMillis 18446744073709551616, .ask)]) := by
    decide +kernel
  have hcount : Countable 7 aging := by decide +kernel
  obtain ⟨idle, hkeeps⟩ := keepsTime 1 7 aging _ horder hcount
  have hidle : idle = 1000003 := Option.some.inj (hkeeps.told.symm.trans (by decide +kernel))
  exact ⟨horder, hcount, by decide +kernel, hidle ▸ hkeeps⟩

end Connection

/-! ### The verdict of a round -/

namespace Patrol

variable {p : Patrol} {j k n : Nat} {id : ConnectionId} {c : Connection} {t : Nanos}

/-- A connection of the switchboard remembers a time. -/
def Remembers (p : Patrol) (k : Nat) (id : ConnectionId) (t : Nanos) : Prop :=
  ∃ c ∈ (p.inspection k).board.connection? id, c.Remembers t

/-- **A client was heard last at this time**, of all that has happened before a move. -/
inductive LastHeard (p : Patrol) (k : Nat) (id : ConnectionId) (t : Nanos) : Prop where
  /-- That was before the round began. -/
  | before (hnoted : p.Remembers 0 id t) (hpast : t ≤ (p.inspection 0).now)
      (hquiet : ∀ i < k, p.move i ≠ .event (.touch id))
  /-- That was while the round went on, and the connection was not too old for it to be noted. -/
  | meanwhile {j : Nat} {c : Connection} (hjk : j < k) (hm : p.move j = .event (.touch id))
      (hnow : (p.inspection j).now = t) (hc : (p.inspection j).board.connection? id = some c)
      (hopened : c.openedAt ≤ t) (hshort : t - c.openedAt < ofMillis 18446744073709551616)
      (hquiet : ∀ i, j < i → i < k → p.move i ≠ .event (.touch id))

/-- **What is noted stays noted** until something comes from the client, whatever else happens to
the switchboard. -/
theorem Remembers.later (hnoted : p.Remembers k id t) (hkn : k ≤ n)
    (hquiet : ∀ j, k ≤ j → j < n → p.move j ≠ .event (.touch id)) : p.Remembers n id t := by
  induction n, hkn using Nat.le_induction with
  | base => exact hnoted
  | succ n hkn ih =>
    obtain ⟨c, hc, hrem⟩ := ih fun j hkj hjn => hquiet j hkj (Nat.lt_succ_of_lt hjn)
    obtain ⟨c', hc', -, hseen⟩ := (p.carries n).seen hc (hquiet n hkn (Nat.lt_succ_self n))
    exact ⟨c', hc', hseen ▸ hrem.le, hseen ▸ hrem.lt⟩

/-- A sign of life is noted. -/
theorem remembers_touch (hm : p.move j = .event (.touch id))
    (hc : (p.inspection j).board.connection? id = some c)
    (hopened : c.openedAt ≤ (p.inspection j).now)
    (hshort : (p.inspection j).now - c.openedAt < ofMillis 18446744073709551616) :
    p.Remembers (j + 1) id (p.inspection j).now := by
  refine ⟨c.touch (p.inspection j).now, ?_, (Connection.remembers_touch_iff hopened).2 hshort⟩
  rw [inspection_succ hm]
  exact Switchboard.connection?_touch hc _

theorem LastHeard.noted (hheard : p.LastHeard k id t) :
    p.Remembers k id t ∧ t ≤ (p.inspection k).now := by
  cases hheard with
  | before hnoted hpast hquiet =>
    exact ⟨hnoted.later (Nat.zero_le k) fun i _ hik => hquiet i hik,
      Nat.le_trans hpast (now_le (Nat.zero_le k))⟩
  | meanwhile hjk hm hnow hc hopened hshort hquiet =>
    subst hnow
    exact ⟨(remembers_touch hm hc hopened hshort).later hjk hquiet, now_le (Nat.le_of_lt hjk)⟩

/-- A round finds out whether a connection is silent when it looks at it. -/
theorem Looks.silent_iff (hlook : p.Looks k id) :
    (id, .dead .silent) ∈ (p.inspection (k + 1)).round.candidates ↔ p.Silent k id := by
  constructor
  · intro hmem
    obtain ⟨k', -, hlook', hsilent⟩ := p.known (k + 1) hmem
    exact hlook'.unique hlook ▸ hsilent
  · intro hsilent
    obtain ⟨-, hcheck⟩ := hlook.check.resolve_right fun hnot => hnot.1 hsilent
    rw [hlook.effect, hcheck]
    exact Round.mem_revise.2 ⟨.unchecked, hlook.2, by rw [if_pos rfl]⟩

/-- **A round takes a connection for silent** if nothing came from its client for too long, and
otherwise only if less than a millisecond is missing. -/
theorem takesForSilent (hheard : p.LastHeard k id t) (hlook : p.Looks k id) :
    (p.liveness < (p.inspection k).now - t →
      (id, .dead .silent) ∈ (p.inspection (k + 1)).round.candidates) ∧
    ((id, .dead .silent) ∈ (p.inspection (k + 1)).round.candidates →
      p.liveness < (p.inspection k).now - t + ofMillis 1) := by
  obtain ⟨⟨c, hc, hnoted⟩, hpast⟩ := hheard.noted
  rw [hlook.silent_iff, silent_iff hc]
  exact hnoted.verdict hpast

end Patrol

end Rendezvous
