import Rendezvous.Proofs.Heartbeat.Patrol

/-!
# What a round finds out

A round looks at each of its connections once (`Patrol.Looks`). One from which nothing has come for
too long by then is dead (`Patrol.Silent`). Any other is pinged, and what comes of the ping is the
first that is told of it (`Watch.Event.tells`): that it was written, that it was not, or that it was
given up together with the queue in which it waited. It counts only if the queue took the ping, and
if it is told before the time of the ping is over (`Patrol.Acknowledged`). Whatever else happens
meanwhile makes no difference to it (`Patrol.ping_cases`).

So what a round knows about a connection at any moment is what has happened to it so far
(`Patrol.known`), and the connections that are dead when all are judged are those that failed
(`Patrol.mem_dead_iff`).
-/

namespace Rendezvous

/-! ### What is told of a ping -/

namespace Switchboard

variable {h : Switchboard} {t : Nat} {time : Nanos} {written : Bool}

theorem get?_settle_of_waiting (hopen : h.probes.get? t = some (.waiting time)) (ticket : Nat)
    (written : Bool) : (h.settle ticket written).probes.get? t =
      some (if t = ticket then .settled written else .waiting time) := by
  unfold settle
  by_cases he : t = ticket
  · subst he
    simp [hopen]
  · rw [Table.get?_modify_of_ne _ _ he, hopen, if_neg he]

theorem get?_settle_of_settled (hsettled : h.probes.get? t = some (.settled written))
    (ticket : Nat) (written' : Bool) :
    (h.settle ticket written').probes.get? t = some (.settled written) := by
  unfold settle
  by_cases he : t = ticket
  · subst he
    simp [hsettled]
  · rw [Table.get?_modify_of_ne _ _ he, hsettled]

/-- **Pings that are given up** one after the other. -/
theorem get?_foldl_settle (hopen : h.probes.get? t = some (.waiting time)) (tickets : List Nat) :
    (tickets.foldl (fun h ticket => h.settle ticket false) h).probes.get? t =
      some (if t ∈ tickets then .settled false else .waiting time) := by
  have hsettled : ∀ (tickets : List Nat) (h : Switchboard),
      h.probes.get? t = some (.settled false) →
      (tickets.foldl (fun h ticket => h.settle ticket false) h).probes.get? t =
        some (.settled false) := by
    intro tickets
    induction tickets with
    | nil => exact fun _ hget => hget
    | cons ticket rest ih => exact fun h hget => ih _ (get?_settle_of_settled hget ticket false)
  induction tickets generalizing h with
  | nil => simpa using hopen
  | cons ticket rest ih =>
    have hfirst := get?_settle_of_waiting hopen ticket false
    rw [List.foldl_cons]
    by_cases he : t = ticket
    · rw [if_pos he] at hfirst
      rw [hsettled rest _ hfirst, if_pos (List.mem_cons.2 (Or.inl he))]
    · rw [if_neg he] at hfirst
      simp only [ih hfirst, List.mem_cons, he, false_or]

end Switchboard

namespace Watch.Event

/-- What an event tells of a ping. -/
def tells (h : Switchboard) (t : Nat) : Watch.Event → Option Bool
  | .chore (.settle ticket written) => if t = ticket then some written else none
  | .chore (.abandon id) =>
    if ((h.connection? id).elim [] Connection.waitingTickets).contains t then some false else none
  | _ => none

/-- **An open ping is settled by what is told of it**, and by nothing else. -/
theorem get?_perform {h : Switchboard} {t : Nat} {now time : Nanos}
    (hopen : h.probes.get? t = some (.waiting time)) (hlt : t < h.probes.size) (htime : now < time)
    (e : Watch.Event) : (e.perform now h).probes.get? t =
      some ((e.tells h t).elim (.waiting time) .settled) := by
  have hsame : ∀ h' : Switchboard, h'.probes = h.probes →
      h'.probes.get? t = some (.waiting time) := fun h' he => he ▸ hopen
  cases e with
  | arrive user => exact hopen
  | enter id =>
    refine hsame (h.enter id).2 ?_
    unfold Switchboard.enter
    split <;> rfl
  | touch id => exact hopen
  | push id content =>
    refine hsame (h.push id content).2 ?_
    unfold Switchboard.push
    split <;> rfl
  | chore work =>
    cases work with
    | take id =>
      refine hsame (((h.take? id).map (·.2)).getD h) ?_
      unfold Switchboard.take?
      split <;> rfl
    | abandon id =>
      change (h.abandon id).probes.get? t = _
      unfold Switchboard.abandon
      cases hc : h.connection? id with
      | none => simpa [tells, hc] using hopen
      | some c =>
        have hopen' : (h.update id Connection.abandon).probes.get? t = some (.waiting time) := hopen
        dsimp only
        rw [Switchboard.get?_foldl_settle hopen']
        by_cases hmem : t ∈ c.waitingTickets <;> simp [tells, hc, hmem]
    | close id => exact hopen
    | settle ticket written =>
      change (h.settle ticket written).probes.get? t = _
      rw [Switchboard.get?_settle_of_waiting hopen]
      unfold tells
      by_cases he : t = ticket <;> simp [he]
    | probe id wait => exact (Switchboard.get?_probe_of_lt hlt id now wait).trans hopen
    | expire =>
      change (h.expire now).probes.get? t = _
      unfold Switchboard.expire
      rw [Table.get?_mapValues, hopen]
      simp [Nat.not_le.2 htime, tells]
    | unregister user id =>
      refine hsame (h.unregister user id).2 ?_
      unfold Switchboard.unregister
      split <;> rfl

end Watch.Event

/-! ### What happens to a connection in a round -/

namespace Patrol

variable {p : Patrol} {j k n t : Nat} {id : ConnectionId} {c : Candidacy}

/-- The round looks at a connection by this move. -/
def Looks (p : Patrol) (k : Nat) (id : ConnectionId) : Prop :=
  p.move k = .check id ∧ (id, .unchecked) ∈ (p.inspection k).round.candidates

/-- Nothing has come from the client of a connection for too long. -/
def Silent (p : Patrol) (k : Nat) (id : ConnectionId) : Prop :=
  ∃ c ∈ (p.inspection k).board.connection? id, p.liveness < c.silence (p.inspection k).now

/-- The queue of a connection takes a frame. -/
def HasRoom (p : Patrol) (k : Nat) (id : ConnectionId) : Prop :=
  ∃ c ∈ (p.inspection k).board.connection? id, c.hasRoom = true

/-- The number of the ping that is asked for by this move. -/
def ticket (p : Patrol) (k : Nat) : Nat :=
  (p.inspection k).board.probes.size

/-- What is told by a move of the ping that was asked for by an earlier one. -/
def told (p : Patrol) (k j : Nat) : Option Bool :=
  match p.move j with
  | .event e => e.tells (p.inspection j).board (p.ticket k)
  | _ => none

/-- **The ping of a connection is acknowledged in time**: its queue takes it, and the first that is
told of it is that it was written, before its time is over. -/
structure Acknowledged (p : Patrol) (k : Nat) (id : ConnectionId) : Prop where
  /-- The queue takes it. -/
  room : p.HasRoom k id
  /-- It is said to be written. -/
  written : ∃ j, k < j ∧ (∀ l, k < l → l < j → p.told k l = none) ∧ p.told k j = some true ∧
    (p.inspection j).now < (p.inspection k).now + p.writeWait

/-- A connection that the round looks at by this move is to be taken out. -/
def Fails (p : Patrol) (k : Nat) (id : ConnectionId) : Prop :=
  p.Silent k id ∨ ¬p.Acknowledged k id

/-- A ping is open: nothing was told of it, and its time is not over. -/
structure Pending (p : Patrol) (k n : Nat) (id : ConnectionId) : Prop where
  /-- It is open. -/
  waiting : (p.inspection n).board.probes.get? (p.ticket k) =
    some (.waiting ((p.inspection k).now + p.writeWait))
  /-- Its time is not over. -/
  inTime : (p.inspection n).now < (p.inspection k).now + p.writeWait
  /-- The queue took it. -/
  room : p.HasRoom k id
  /-- Nothing was told of it. -/
  quiet : ∀ l, k < l → l < n → p.told k l = none

/-- It is known what has come of a ping. -/
def Settled (p : Patrol) (k n : Nat) (id : ConnectionId) : Prop :=
  ∃ written, (p.inspection n).board.verdict? (p.ticket k) = some written ∧
    (written = true ↔ p.Acknowledged k id)

theorem Looks.effect (hlook : p.Looks k id) : p.inspection (k + 1) = { p.inspection k with
    board := ((p.inspection k).round.check (p.inspection k).now id (p.inspection k).board).2
    round := (p.inspection k).round.revise id fun _ =>
      ((p.inspection k).round.check (p.inspection k).now id (p.inspection k).board).1 } := by
  rw [inspection_succ hlook.1]
  exact if_pos hlook.2

/-- The connection that is looked at is one of the switchboard. -/
theorem Looks.known (hlook : p.Looks k id) :
    ∃ c, (p.inspection k).board.connection? id = some c :=
  (p.sound k).known id ((p.mem_ids_iff k).2 ⟨_, hlook.2⟩)

theorem silent_iff {c : Connection} (hc : (p.inspection k).board.connection? id = some c) :
    p.Silent k id ↔ p.liveness < c.silence (p.inspection k).now := by
  simp [Silent, hc]

/-- **What the round does** to a connection at which it looks. -/
theorem Looks.check (hlook : p.Looks k id) :
    (p.Silent k id ∧ (p.inspection k).round.check (p.inspection k).now id (p.inspection k).board =
      (.dead .silent, (p.inspection k).board)) ∨
    (¬p.Silent k id ∧ (p.inspection k).round.check (p.inspection k).now id (p.inspection k).board =
      (.pinged (p.ticket k),
        ((p.inspection k).board.probe id (p.inspection k).now p.writeWait).2)) := by
  obtain ⟨c, hc⟩ := hlook.known
  have hwindow := (p.sound k).window
  have hpatience := (p.sound k).patience
  unfold Round.check
  simp only [hc, hwindow, hpatience, silent_iff hc]
  by_cases hlong : p.liveness < c.silence (p.inspection k).now
  · rw [if_pos hlong]
    exact Or.inl ⟨hlong, rfl⟩
  · rw [if_neg hlong]
    exact Or.inr ⟨hlong, rfl⟩

/-! ### What comes of a ping -/

/-- The number of a ping is given out when it is asked for. -/
theorem Looks.lt_size (hlook : p.Looks k id) (hnot : ¬p.Silent k id) (hkn : k < n) :
    p.ticket k < (p.inspection n).board.probes.size := by
  induction n, hkn using Nat.le_induction with
  | base =>
    rcases hlook.check with ⟨hsilent, -⟩ | ⟨-, hcheck⟩
    · exact absurd hsilent hnot
    · rw [hlook.effect, hcheck]
      have hsize := Switchboard.size_probe (p.sound k).ticketed id (p.inspection k).now p.writeWait
      exact Nat.lt_of_lt_of_eq (Nat.lt_succ_self _) hsize.symm
  | succ n _ ih => exact Nat.lt_of_lt_of_le ih (p.carries n).size

/-- A ping that is said to be written, and nothing else before. -/
theorem Pending.acknowledged (hpending : p.Pending k n id) (hkn : k < n)
    (htold : p.told k n = some true) : p.Acknowledged k id :=
  ⟨hpending.room, n, hkn, hpending.quiet, htold, hpending.inTime⟩

/-- A ping that is said not to be written is never acknowledged. -/
theorem Pending.not_acknowledged (hpending : p.Pending k n id) (hkn : k < n)
    (htold : p.told k n = some false) : ¬p.Acknowledged k id := by
  rintro ⟨-, j, hkj, hquiet, hwritten, -⟩
  rcases Nat.lt_trichotomy j n with hlt | rfl | hlt
  · exact absurd ((hpending.quiet j hkj hlt).symm.trans hwritten) nofun
  · exact absurd (htold.symm.trans hwritten) nofun
  · exact absurd ((hquiet n hkn hlt).symm.trans htold) nofun

/-- Nor is one whose time is over before anything was told of it. -/
theorem not_acknowledged_of_late (hquiet : ∀ l, k < l → l < n → p.told k l = none)
    (hlate : (p.inspection k).now + p.writeWait ≤ (p.inspection n).now) :
    ¬p.Acknowledged k id := by
  rintro ⟨-, j, hkj, -, hwritten, htime⟩
  have hjn : j < n := by
    refine Nat.lt_of_not_le fun hnj => ?_
    exact absurd (Nat.lt_of_lt_of_le htime hlate) (Nat.not_lt.2 (now_le hnj))
  exact absurd ((hquiet j hkj hjn).symm.trans hwritten) nofun

/-- When a connection is pinged, the ping is open, or it is known already that it failed. -/
theorem Looks.asked (hlook : p.Looks k id) (hnot : ¬p.Silent k id) :
    p.Pending k (k + 1) id ∨ p.Settled k (k + 1) id := by
  obtain ⟨c, hc⟩ := hlook.known
  rcases hlook.check with ⟨hsilent, -⟩ | ⟨-, hcheck⟩
  · exact absurd hsilent hnot
  have hnext := hlook.effect
  rw [hcheck] at hnext
  have hquiet : ∀ l, k < l → l < k + 1 → p.told k l = none := fun l hkl hlk => by omega
  have hroom : p.HasRoom k id ↔ c.hasRoom = true := by simp [HasRoom, hc]
  have hstate : (p.inspection (k + 1)).board.probes.get? (p.ticket k) =
      some (if c.hasRoom = true ∧ 0 < p.writeWait then
        .waiting ((p.inspection k).now + p.writeWait) else .settled false) := by
    rw [hnext]
    unfold Switchboard.probe ticket
    simp only [hc, Connection.offer]
    cases hr : c.hasRoom <;> simp
  by_cases htaken : c.hasRoom = true ∧ 0 < p.writeWait
  · rw [if_pos htaken] at hstate
    refine Or.inl ⟨hstate, ?_, hroom.2 htaken.1, hquiet⟩
    rw [hnext]
    exact Nat.lt_add_of_pos_right htaken.2
  · rw [if_neg htaken] at hstate
    refine Or.inr ⟨false, by rw [Switchboard.verdict?, hstate], ?_⟩
    refine iff_of_false Bool.false_ne_true ?_
    rintro ⟨hr, j, hkj, -, -, htime⟩
    refine htaken ⟨hroom.1 hr, Nat.pos_of_ne_zero fun hzero => ?_⟩
    rw [hzero] at htime
    exact absurd htime (Nat.not_lt.2 (now_le (Nat.le_of_lt hkj)))

/-- **An open ping stays open, or it is known what has come of it**, whatever happens next. -/
theorem Pending.step (hpending : p.Pending k n id) (hkn : k < n)
    (hlt : p.ticket k < (p.inspection n).board.probes.size) :
    p.Pending k (n + 1) id ∨ p.Settled k (n + 1) id := by
  have hquiet : p.told k n = none → ∀ l, k < l → l < n + 1 → p.told k l = none := by
    intro htold l hkl hln
    rcases Nat.lt_succ_iff_lt_or_eq.1 hln with hln | rfl
    · exact hpending.quiet l hkl hln
    · exact htold
  -- a move that tells nothing of the ping, and after which it is open
  have hstays : p.told k n = none → (p.inspection (n + 1)).board.probes.get? (p.ticket k) =
      some (.waiting ((p.inspection k).now + p.writeWait)) →
      (p.inspection (n + 1)).now < (p.inspection k).now + p.writeWait →
      p.Pending k (n + 1) id :=
    fun htold hopen htime => ⟨hopen, htime, hpending.room, hquiet htold⟩
  have heffect := p.effect n
  have htold : p.told k n = match p.move n with
    | .event e => e.tells (p.inspection n).board (p.ticket k)
    | _ => none := rfl
  unfold Settled
  generalize p.move n = m, hi' : p.inspection (n + 1) = i' at heffect htold hstays ⊢
  cases heffect with
  | idle hidle =>
    refine Or.inl (hstays ?_ hpending.waiting hpending.inTime)
    cases m with
    | event e => exact absurd trivial hidle
    | _ => exact htold
  | @happened e =>
    have hget := Watch.Event.get?_perform hpending.waiting hlt hpending.inTime e
    dsimp only at htold
    rw [← htold] at hget
    cases hanswer : p.told k n with
    | none =>
      rw [hanswer] at hget
      exact Or.inl (hstays hanswer hget hpending.inTime)
    | some written =>
      rw [hanswer] at hget
      refine Or.inr ⟨written, by simp [Switchboard.verdict?, hget], ?_⟩
      cases written with
      | true => exact iff_of_true rfl (hpending.acknowledged hkn hanswer)
      | false => exact iff_of_false Bool.false_ne_true (hpending.not_acknowledged hkn hanswer)
  | looked hnew =>
    refine Or.inl (hstays htold ?_ hpending.inTime)
    exact (Round.get?_check hlt).trans hpending.waiting
  | judged => exact Or.inl (hstays htold hpending.waiting hpending.inTime)
  | removed hnext =>
    refine Or.inl (hstays htold ?_ hpending.inTime)
    rw [Switchboard.probes_withdraw]
    exact hpending.waiting
  | closed hnext => exact Or.inl (hstays htold hpending.waiting hpending.inTime)
  | @waited span =>
    by_cases htime : (p.inspection n).now + span < (p.inspection k).now + p.writeWait
    · refine Or.inl (hstays htold ?_ htime)
      simp [Switchboard.expire, hpending.waiting, Nat.not_le.2 htime]
    · have hlate : (p.inspection k).now + p.writeWait ≤ (p.inspection (n + 1)).now := by
        rw [hi']
        exact Nat.not_lt.1 htime
      refine Or.inr ⟨false, ?_, iff_of_false Bool.false_ne_true (not_acknowledged_of_late (hquiet htold) hlate)⟩
      simp [Switchboard.verdict?, Switchboard.expire, hpending.waiting, Nat.not_lt.1 htime]

/-- **A ping is open, or it is known what has come of it**: whether it was acknowledged in time. -/
theorem ping_cases (hlook : p.Looks k id) (hnot : ¬p.Silent k id) (hkn : k < n) :
    p.Pending k n id ∨ p.Settled k n id := by
  induction n, hkn using Nat.le_induction with
  | base => exact hlook.asked hnot
  | succ n hkn ih =>
    have hlt := hlook.lt_size hnot hkn
    rcases ih with hpending | ⟨written, hverdict, hiff⟩
    · exact hpending.step hkn hlt
    · exact Or.inr ⟨written, (p.carries n).verdict _ written hlt hverdict, hiff⟩

/-! ### What the round knows -/

/-- **What the round knows about a connection is so.** -/
def Known (p : Patrol) (n : Nat) (id : ConnectionId) : Candidacy → Prop
  | .unchecked => ∀ k < n, ¬p.Looks k id
  | .pinged t => ∃ k < n, p.Looks k id ∧ ¬p.Silent k id ∧ t = p.ticket k
  | .alive => ∃ k < n, p.Looks k id ∧ ¬p.Silent k id ∧ p.Acknowledged k id
  | .dead .silent => ∃ k < n, p.Looks k id ∧ p.Silent k id
  | .dead .unwritten => ∃ k < n, p.Looks k id ∧ ¬p.Silent k id ∧ ¬p.Acknowledged k id

/-- What was so is so later, unless the round looks at the connection now. -/
theorem Known.succ (hknown : p.Known n id c) (hnot : ¬p.Looks n id) : p.Known (n + 1) id c := by
  unfold Known at hknown ⊢
  split at hknown
  · intro k hkn
    rcases Nat.lt_succ_iff_lt_or_eq.1 hkn with hkn | rfl
    · exact hknown k hkn
    · exact hnot
  all_goals
    obtain ⟨k, hkn, hrest⟩ := hknown
    exact ⟨k, Nat.lt_succ_of_lt hkn, hrest⟩

/-- What the round finds out when it looks at a connection. -/
theorem Looks.known_check (hlook : p.Looks n id) : p.Known (n + 1) id
    ((p.inspection n).round.check (p.inspection n).now id (p.inspection n).board).1 := by
  rcases hlook.check with ⟨hsilent, he⟩ | ⟨hnot, he⟩ <;> rw [he]
  · exact ⟨n, Nat.lt_succ_self n, hlook, hsilent⟩
  · exact ⟨n, Nat.lt_succ_self n, hlook, hnot, rfl⟩

/-- What it finds out when it learns what has come of a ping. -/
theorem Known.judge (hknown : p.Known n id c) :
    p.Known n id (Round.judge (p.inspection n).board c) := by
  cases c with
  | pinged t =>
    obtain ⟨k, hkn, hlook, hnot, rfl⟩ := hknown
    have hsame : p.Known n id (.pinged (p.ticket k)) := ⟨k, hkn, hlook, hnot, rfl⟩
    unfold Round.judge
    rcases ping_cases hlook hnot hkn with hpending | ⟨written, hverdict, hiff⟩
    · have hopen : (p.inspection n).board.verdict? (p.ticket k) = none := by
        rw [Switchboard.verdict?, hpending.waiting]
      simpa only [hopen] using hsame
    · simp only [hverdict]
      cases written with
      | true => exact ⟨k, hkn, hlook, hnot, hiff.1 rfl⟩
      | false => exact ⟨k, hkn, hlook, hnot, fun hack => absurd (hiff.2 hack) Bool.false_ne_true⟩
  | _ => exact hknown

/-- **What the round knows is so**, after any number of moves. -/
theorem known (p : Patrol) (n : Nat) (hmem : (id, c) ∈ (p.inspection n).round.candidates) :
    p.Known n id c := by
  induction n generalizing c with
  | zero =>
    obtain ⟨rfl, -⟩ := Round.mem_start.1 hmem
    exact nofun
  | succ n ih =>
    have heffect := p.effect n
    have hlooks : p.Looks n id ↔ p.move n = .check id ∧
        (id, .unchecked) ∈ (p.inspection n).round.candidates := Iff.rfl
    have hchecked : p.Looks n id → p.Known (n + 1) id
        ((p.inspection n).round.check (p.inspection n).now id (p.inspection n).board).1 :=
      Looks.known_check
    generalize hm : p.move n = m, p.inspection (n + 1) = i' at heffect hmem hlooks
    cases heffect with
    | idle hidle =>
      refine (ih hmem).succ fun hlook => hidle ?_
      obtain ⟨rfl, hnew⟩ := hlooks.1 hlook
      exact hnew
    | @looked id' hnew =>
      obtain ⟨c', hold, hc⟩ := Round.mem_revise.1 hmem
      split at hc
      · next hid =>
        subst hid hc
        exact hchecked (hlooks.2 ⟨rfl, hnew⟩)
      · next hid =>
        subst hc
        refine (ih hold).succ fun hlook => hid ?_
        exact (Inspection.Move.check.inj (hlooks.1 hlook).1).symm
    | @judged id' =>
      obtain ⟨c', hold, hc⟩ := Round.mem_revise.1 hmem
      have hnot : ¬p.Looks n id := fun hlook => absurd (hlooks.1 hlook).1 nofun
      split at hc
      · exact hc ▸ (ih hold).judge.succ hnot
      · exact hc ▸ (ih hold).succ hnot
    | _ => exact (ih hmem).succ fun hlook => absurd (hlooks.1 hlook).1 nofun

/-- **The round looks at a connection once.** -/
theorem Looks.unique (hlook : p.Looks j id) (hlook' : p.Looks k id) : j = k := by
  rcases Nat.lt_trichotomy j k with hlt | rfl | hlt
  · exact absurd hlook (p.known k hlook'.2 j hlt)
  · rfl
  · exact absurd hlook' (p.known j hlook.2 k hlt)

/-- And only at its own connections. -/
theorem Looks.mem_ids (hlook : p.Looks k id) : id ∈ p.ids :=
  (p.mem_ids_iff k).2 ⟨_, hlook.2⟩

/-- When all are judged, the round has looked at each of its connections. -/
theorem exists_looks (hjudged : (p.inspection n).round.isJudged = true) (hid : id ∈ p.ids) :
    ∃ k < n, p.Looks k id := by
  obtain ⟨c, hmem⟩ := (p.mem_ids_iff n).1 hid
  have hjudged' := Round.isJudged_iff.1 hjudged id c hmem
  have hknown := p.known n hmem
  unfold Known at hknown
  split at hknown
  · exact absurd hjudged' nofun
  · exact absurd hjudged' nofun
  all_goals
    obtain ⟨k, hkn, hlook, -⟩ := hknown
    exact ⟨k, hkn, hlook⟩

/-- **The dead connections are those that failed**, when all are judged. -/
theorem mem_dead_iff (hjudged : (p.inspection n).round.isJudged = true) :
    id ∈ (p.inspection n).round.dead ↔ ∃ k < n, p.Looks k id ∧ p.Fails k id := by
  rw [Round.mem_dead]
  constructor
  · rintro ⟨reason, hmem⟩
    have hknown := p.known n hmem
    cases reason with
    | silent =>
      obtain ⟨k, hkn, hlook, hsilent⟩ := hknown
      exact ⟨k, hkn, hlook, Or.inl hsilent⟩
    | unwritten =>
      obtain ⟨k, hkn, hlook, -, hnot⟩ := hknown
      exact ⟨k, hkn, hlook, Or.inr hnot⟩
  · rintro ⟨k, hkn, hlook, hfails⟩
    obtain ⟨c, hmem⟩ := (p.mem_ids_iff n).1 hlook.mem_ids
    have hknown := p.known n hmem
    have hjudged' := Round.isJudged_iff.1 hjudged id c hmem
    cases c with
    | unchecked => exact absurd hjudged' nofun
    | pinged t => exact absurd hjudged' nofun
    | alive =>
      obtain ⟨k', -, hlook', hnot, hack⟩ := hknown
      obtain rfl := hlook.unique hlook'
      exact absurd hfails (not_or.2 ⟨hnot, not_not.2 hack⟩)
    | dead reason => exact ⟨reason, hmem⟩

end Patrol

end Rendezvous
