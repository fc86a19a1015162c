import Rendezvous.Proofs.Heartbeat.Watch
import Rendezvous.Settings.Service

/-!
# Who answers is left alone

A round looks for how long a connection was silent before it pings it, so that a client that says
nothing unless it is pinged is judged by its answer to the round before. Such a client is left alone
by the heartbeat as long as two rounds are not too far apart. The silence that is allowed is the
same for all intervals between two rounds: sixty seconds.

A client is *responsive* (`Vigil.Responsive`) if its connection has been heard of when the heartbeat
starts or is opened later, and is registered whenever a round begins, its queue has room whenever a
round looks at it, every ping is written before time goes by, and something comes from the client
before time goes by. It need not say anything else.

## The invariant

A connection is *fresh* (`Vigil.Fresh`) if something came from it after the last round has begun, or
is about to, or if the round under way has not looked at it yet and something came from it after the
round before had begun. In all three cases a round that looks at it now finds that it was not silent
for too long (`Vigil.Fresh.silence_le`), and it is pinged. Then it is about to answer, and is fresh
again. No move takes that away (`Vigil.Heeded.fresh_old_succ`), and what a round knows about the
connection never comes to its death (`Vigil.Heeded.hopeful_succ`).

## How far apart

Milliseconds are whole, so that an answer may seem older than it is by almost one of them. The
interval, one millisecond, and twice the time by which the heartbeat may be late have to fit into
the sixty seconds (`Vigil.heeded`). An interval of fifty-nine seconds does if the heartbeat is late
by less than half a second. One of sixty-one seconds does not, nor does one of sixty, unless every
connection is opened a whole number of milliseconds before a round.
-/

namespace Rendezvous

namespace Watch

/-- What the round that is under way knows about its connections. -/
def candidates (w : Watch) : List (ConnectionId × Candidacy) :=
  (w.round.map Round.candidates).getD []

theorem candidates_of_round {w : Watch} {r : Round} (hr : w.round = some r) :
    w.candidates = r.candidates := by
  rw [candidates, hr]
  rfl

theorem mem_candidates {w : Watch} {p : ConnectionId × Candidacy} :
    p ∈ w.candidates ↔ ∃ r, w.round = some r ∧ p ∈ r.candidates := by
  unfold candidates
  cases w.round with
  | none => simp
  | some r => simp

end Watch

namespace Vigil

/-! ### Responsive clients -/

/-- **A connection is pinged** in a move. -/
def Pings (v : Vigil) (k : Nat) (id : ConnectionId) (t : Nat) : Prop :=
  (id, .pinged t) ∉ (v.watch k).candidates ∧ (id, .pinged t) ∈ (v.watch (k + 1)).candidates

/-- A ping is written before time goes by, or has been written. -/
def WrittenAtOnce (v : Vigil) (k t : Nat) : Prop :=
  ∃ j, k ≤ j ∧ (v.watch j).now = (v.watch k).now ∧ (v.watch j).board.verdict? t = some true

/-- Something comes from a client before time goes by. -/
def HeardAtOnce (v : Vigil) (k : Nat) (id : ConnectionId) : Prop :=
  ∃ j, k ≤ j ∧ (v.watch j).now = (v.watch k).now ∧ v.move j = .event (.touch id)

/-- **A connection with a client that answers**, up to some move. -/
structure Responsive (v : Vigil) (id : ConnectionId) (n : Nat) : Prop where
  /-- It is not older than the heartbeat, or something has come from it when the heartbeat starts. -/
  recent : ∀ c, v.board.connection? id = some c → v.start ≤ c.seen
  /-- It is the current one of its user when a round begins, unless it is being opened right now. -/
  registered : ∀ k < n, v.move k = .begin → (v.watch k).task.isDue (v.watch k).now = true →
    ∀ c, (v.watch k).board.connection? id = some c →
      (∃ user, (v.watch k).board.current? user = some id) ∨ (v.watch k).now = c.openedAt
  /-- Its queue has room when a round looks at it. -/
  room : ∀ k < n, v.move k = .check → ∀ c, (v.watch k).board.connection? id = some c →
    c.hasRoom = true
  /-- Its writer writes every ping at once. -/
  written : ∀ k < n, ∀ t, v.Pings k id t → v.WrittenAtOnce (k + 1) t
  /-- Its client answers every ping, and the answer is read at once. -/
  answered : ∀ k < n, ∀ t, v.Pings k id t → v.HeardAtOnce (k + 1) id
  /-- It is not so old that its milliseconds cannot be counted in 64 bits. -/
  young : ∀ k < n, v.move k = .event (.touch id) → ∀ c, (v.watch k).board.connection? id = some c →
    (v.watch k).now - c.openedAt < ofMillis 18446744073709551616

/-- **The heartbeat leaves a connection alone** up to some move. -/
structure Spared (v : Vigil) (id : ConnectionId) (n : Nat) : Prop where
  /-- No round judges it dead. -/
  alive : ∀ k ≤ n, ∀ reason, (id, .dead reason) ∉ (v.watch k).candidates
  /-- It is not taken out by the heartbeat. -/
  current : ∀ k < n, (∀ e, v.move k ≠ .event e) → ∀ user,
    (v.watch k).board.current? user = some id → (v.watch (k + 1)).board.current? user = some id
  /-- And it is not closed by it. -/
  unclosed : ∀ k < n, (∀ e, v.move k ≠ .event e) →
    (v.watch (k + 1)).board.IsClosed id → (v.watch k).board.IsClosed id

variable {v : Vigil} {id : ConnectionId} {k n t : Nat} {late : Nanos}

/-! ### At once -/

/-- Time that has not gone by in the end has not gone by on the way. -/
theorem now_eq {i j : Nat} (hij : i ≤ j) (hjk : j ≤ k) (hnow : (v.watch k).now = (v.watch i).now) :
    (v.watch k).now = (v.watch j).now ∧ (v.watch j).now = (v.watch i).now := by
  have hle := v.now_le hij
  have hle' := v.now_le hjk
  rw [hnow] at hle' ⊢
  exact ⟨Nat.le_antisymm hle hle', Nat.le_antisymm hle' hle⟩

/-- A ping that is going to be written has not failed. -/
theorem WrittenAtOnce.verdict_ne (hw : v.WrittenAtOnce k t)
    (hlt : t < (v.watch k).board.probes.size) : (v.watch k).board.verdict? t ≠ some false := by
  intro hfailed
  obtain ⟨j, hkj, -, hwritten⟩ := hw
  have hlater := (v.verdict_later hkj hlt hfailed).2
  exact absurd (hwritten.symm.trans hlater) nofun

theorem WrittenAtOnce.succ (hw : v.WrittenAtOnce k t)
    (hlt : t < (v.watch k).board.probes.size) : v.WrittenAtOnce (k + 1) t := by
  obtain ⟨j, hkj, hnow, hwritten⟩ := hw
  rcases Nat.eq_or_lt_of_le hkj with rfl | hlater
  · exact ⟨k + 1, Nat.le_refl _, rfl, (v.verdict_later (Nat.le_succ k) hlt hwritten).2⟩
  · exact ⟨j, hlater, (v.now_eq (Nat.le_succ k) hlater hnow).1, hwritten⟩

/-- What is about to come has come in this move, or is still about to come. -/
theorem HeardAtOnce.succ (hh : v.HeardAtOnce k id) (hnot : v.move k ≠ .event (.touch id)) :
    v.HeardAtOnce (k + 1) id ∧ (v.watch (k + 1)).now = (v.watch k).now := by
  obtain ⟨j, hkj, hnow, htouch⟩ := hh
  rcases Nat.eq_or_lt_of_le hkj with rfl | hlater
  · exact absurd htouch hnot
  · obtain ⟨hlast, hfirst⟩ := v.now_eq (Nat.le_succ k) hlater hnow
    exact ⟨⟨j, hlater, hlast, htouch⟩, hfirst⟩

/-! ### Nobody is forgotten -/

/-- **Something has come from a connection** lately, or is about to. -/
inductive Fresh (v : Vigil) (late : Nanos) (id : ConnectionId) (k : Nat) (c : Connection) :
    Prop where
  /-- Something has come since the last round began. -/
  | heard (hseen : (v.watch k).begunAt < c.seen + ofMillis 1)
  /-- An answer is about to come. -/
  | owed (hsoon : v.HeardAtOnce k id)
      (hseen : (v.watch k).now < c.seen + ofMillis 1 + Watch.gap late v.period + late)
  /-- The round under way has not looked at the connection yet. -/
  | unchecked (hmem : (id, .unchecked) ∈ (v.watch k).candidates)
      (hseen : (v.watch k).begunAt < c.seen + ofMillis 1 + Watch.gap late v.period)

/-- What a round knows about a connection will not come to its death. -/
def Hopeful (v : Vigil) (k : Nat) : Candidacy → Prop
  | .pinged t => t < (v.watch k).board.probes.size ∧ v.WrittenAtOnce k t
  | .dead _ => False
  | _ => True

/-- **The heartbeat has left a connection alone** so far, and goes on doing so. -/
structure Heeded (v : Vigil) (late : Nanos) (id : ConnectionId) (k : Nat) : Prop where
  /-- Something has come from the connection lately, or is about to. -/
  fresh : ∀ c, (v.watch k).board.connection? id = some c → v.Fresh late id k c
  /-- What the round knows about it is no reason for its death. -/
  hopeful : ∀ what, (id, what) ∈ (v.watch k).candidates → v.Hopeful k what

section

variable {c c' : Connection} {r : Round} {what : Candidacy}
  (hwindow : Watch.gap late v.period + late + ofMillis 1 ≤ Limit.liveness)
  (hpunctual : v.Punctual late n) (hresponsive : v.Responsive id n) (hk : k < n)

include hpunctual hk in
/-- A round looks at its connections soon after it has begun. -/
theorem now_le_of_unchecked (hr : (v.watch k).round = some r)
    (hunchecked : (v.watch k).checkedAt = none) :
    (v.watch k).now ≤ (v.watch k).begunAt + late :=
  (hpunctual.timely (Nat.le_of_lt hk)).onTime _ (Watch.deadline?_unchecked hr hunchecked)

/-- What is pinged when a round looks at its connections was not pinged before. -/
theorem pings_of_unchecked (hr : (v.watch k).round = some r)
    (hunchecked : (v.watch k).checkedAt = none)
    (hmem : (id, .pinged t) ∈ (v.watch (k + 1)).candidates) : v.Pings k id t := by
  refine ⟨?_, hmem⟩
  rw [Watch.candidates_of_round hr]
  intro hbefore
  exact absurd (((v.sound k).round r hr).unchecked hunchecked id _ hbefore) nofun

include hwindow hpunctual hk in
/-- **A connection that is fresh** was not silent for too long when a round looks at it. -/
theorem Fresh.silence_le (hfresh : v.Fresh late id k c) (hr : (v.watch k).round = some r)
    (hunchecked : (v.watch k).checkedAt = none) :
    c.silence (v.watch k).now ≤ Limit.liveness := by
  have hnow := now_le_of_unchecked hpunctual hk hr hunchecked
  have hseen : (v.watch k).now < c.seen + ofMillis 1 + Watch.gap late v.period + late := by
    cases hfresh with
    | heard hseen => grind
    | owed _ hseen => exact hseen
    | unchecked _ hseen => grind
  rw [c.silence_eq]
  unfold Nanos at *
  omega

include hwindow hpunctual hresponsive hk in
/-- **A round that looks at the connection** pings it. -/
theorem Heeded.pinged (hh : v.Heeded late id k) (hm : v.move k = .check)
    (hr : (v.watch k).round = some r) (hunchecked : (v.watch k).checkedAt = none)
    (hmem : (id, what) ∈
      (r.checkFrom (v.watch k).now r.candidates (v.watch k).board).1) :
    ∃ t, what = .pinged t ∧
      (r.checkFrom (v.watch k).now r.candidates (v.watch k).board).2.verdict? t = none := by
  have hs := v.sound k
  have hu := hs.round r hr
  have hid : id ∈ r.candidates.map (·.1) := by
    rw [← r.map_fst_checkFrom (v.watch k).now r.candidates (v.watch k).board]
    exact List.mem_map_of_mem (f := (·.1)) hmem
  obtain ⟨⟨id, before⟩, hbefore, rfl⟩ := List.mem_map.1 hid
  obtain rfl := hu.unchecked hunchecked id before hbefore
  obtain ⟨c, hc⟩ := hu.known id hid
  have hsilence := (hh.fresh c hc).silence_le hwindow hpunctual hk hr hunchecked
  have hwait : 0 < r.writeWait := by
    rw [hu.writeWait]
    decide
  exact Round.checkFrom_responsive hs.ticketed hu.nodup hwait hc
    (hresponsive.room k hk hm c hc) (hu.liveness ▸ hsilence) hbefore hmem

include hpunctual hresponsive hk in
/-- A connection from which something has come since the last round began. -/
theorem fresh_heard_succ (hc : (v.watch k).board.connection? id = some c)
    (hsame : c'.seen = c.seen) (hseen : (v.watch k).begunAt < c.seen + ofMillis 1) :
    v.Fresh late id (k + 1) c' := by
  have heffect := v.effect k
  generalize hm : v.move k = m, hw : v.watch (k + 1) = w' at heffect
  cases heffect with
  | begun hdue =>
    rcases hresponsive.registered k hk hm hdue c hc with hcurrent | hopened
    · -- the round that begins has yet to look at it
      refine .unchecked ?_ ?_
      · rw [hw, Watch.candidates_of_round rfl]
        exact Round.mem_start.2 ⟨rfl, hcurrent⟩
      · have hgap := (hpunctual.timely (Nat.le_of_lt hk)).begin_le (v.sound k) hdue
        rw [hw, hsame]
        grind
    · -- the round begins in the instant in which the connection was opened
      refine .heard ?_
      have hsince : c.openedAt ≤ c.seen := Nat.le_add_right ..
      rw [hw, hsame, hopened]
      exact Nat.lt_of_le_of_lt hsince (Nat.lt_add_of_pos_right (by decide))
  | _ =>
    refine .heard ?_
    rw [hw, hsame]
    exact hseen

include hwindow hpunctual hresponsive hk in
/-- A connection at which the round under way has yet to look. -/
theorem Heeded.fresh_unchecked_succ (hh : v.Heeded late id k)
    (hsame : c'.seen = c.seen) (hmem : (id, .unchecked) ∈ (v.watch k).candidates)
    (hseen : (v.watch k).begunAt < c.seen + ofMillis 1 + Watch.gap late v.period) :
    v.Fresh late id (k + 1) c' := by
  obtain ⟨r, hr, hmem⟩ := Watch.mem_candidates.1 hmem
  have heffect := v.effect k
  generalize hm : v.move k = m, hw : v.watch (k + 1) = w' at heffect
  cases heffect with
  | begun hdue => exact absurd (hr.symm.trans ((v.sound k).round_eq_none hdue)) nofun
  | @checked r' hr' hunchecked =>
    obtain rfl := Option.some.inj (hr.symm.trans hr')
    have hid : id ∈ (r.checkFrom (v.watch k).now r.candidates (v.watch k).board).1.map (·.1) := by
      rw [Round.map_fst_checkFrom]
      exact List.mem_map_of_mem (f := (·.1)) hmem
    obtain ⟨⟨id, what⟩, hwhat, rfl⟩ := List.mem_map.1 hid
    obtain ⟨t, rfl, -⟩ := hh.pinged hwindow hpunctual hresponsive hk hm hr hunchecked hwhat
    have hnew : (id, .pinged t) ∈ (v.watch (k + 1)).candidates := by
      rw [hw, Watch.candidates_of_round rfl]
      exact hwhat
    -- it is pinged for the first time in this round, and is going to answer
    have hpings := pings_of_unchecked hr hunchecked hnew
    have hnow := now_le_of_unchecked hpunctual hk hr hunchecked
    refine .owed (hresponsive.answered k hk t hpings) ?_
    rw [hw, hsame]
    grind
  | @judged r' hr' =>
    obtain rfl := Option.some.inj (hr.symm.trans hr')
    refine .unchecked ?_ ?_
    · rw [hw, Watch.candidates_of_round rfl]
      exact List.mem_map.2 ⟨(id, .unchecked), hmem, rfl⟩
    · rw [hw, hsame]
      exact hseen
  | @concluded r' hr' hjudged =>
    obtain rfl := Option.some.inj (hr.symm.trans hr')
    exact absurd (List.all_eq_true.1 hjudged _ hmem) nofun
  | _ =>
    refine .unchecked ?_ ?_
    · rw [hw]
      exact Watch.mem_candidates.2 ⟨r, hr, hmem⟩
    · rw [hw, hsame]
      exact hseen

include hwindow hpunctual hresponsive hk in
/-- A connection that was there before. -/
theorem Heeded.fresh_old_succ (hh : v.Heeded late id k)
    (hc : (v.watch k).board.connection? id = some c)
    (hc' : (v.watch (k + 1)).board.connection? id = some c') : v.Fresh late id (k + 1) c' := by
  by_cases htouch : v.move k = .event (.touch id)
  · -- something comes from it now
    have hnow := (hpunctual.timely (Nat.le_of_lt hk)).begun
    have hheard := Connection.lt_seen_touch (hresponsive.young k hk htouch c hc)
    have hw := v.watch_succ htouch
    have htouched : c' = c.touch (v.watch k).now := by
      rw [hw] at hc'
      exact Option.some.inj (hc'.symm.trans (Switchboard.connection?_touch hc _))
    refine .heard ?_
    rw [hw, htouched]
    exact Nat.lt_of_le_of_lt hnow hheard
  · obtain ⟨c'', hold, -, hsame⟩ := (v.carries k).seen hc htouch
    obtain rfl : c'' = c' := Option.some.inj (hold.symm.trans hc')
    cases hh.fresh c hc with
    | heard hseen => exact fresh_heard_succ hpunctual hresponsive hk hc hsame hseen
    | owed hsoon hseen =>
      obtain ⟨hlater, hnow⟩ := hsoon.succ htouch
      refine .owed hlater ?_
      rw [hnow, hsame]
      exact hseen
    | unchecked hmem hseen =>
      exact hh.fresh_unchecked_succ hwindow hpunctual hresponsive hk hsame hmem hseen

include hpunctual hk in
/-- A connection that is opened. -/
theorem fresh_new_succ (hnone : (v.watch k).board.connection? id = none)
    (hc' : (v.watch (k + 1)).board.connection? id = some c') : v.Fresh late id (k + 1) c' := by
  have harrive : ∃ user, v.move k = .event (.arrive user) := by
    by_contra hnot
    have hlasts := (v.effect k).lasts fun user he => hnot ⟨user, he⟩
    have howner := hlasts.owner id
    simp [Switchboard.owner?, hnone, hc'] at howner
  obtain ⟨user, hm⟩ := harrive
  have hw := v.watch_succ hm
  have hopened : c' = .opened user (v.watch k).now := by
    rw [hw] at hc'
    have hopen := (v.watch k).board.connection?_open user (v.watch k).now id
    by_cases hid : id = (v.watch k).board.connections.size
    · rw [if_pos hid] at hopen
      exact Option.some.inj (hc'.symm.trans hopen)
    · rw [if_neg hid, hnone] at hopen
      exact absurd (hc'.symm.trans hopen) (by simp)
  have hnow := (hpunctual.timely (Nat.le_of_lt hk)).begun
  refine .heard ?_
  rw [hw, hopened, Connection.seen_opened]
  exact Nat.lt_of_le_of_lt hnow (Nat.lt_add_of_pos_right (by decide))

theorem Hopeful.succ (hhope : v.Hopeful k what) : v.Hopeful (k + 1) what := by
  cases what with
  | pinged t => exact ⟨Nat.lt_of_lt_of_le hhope.1 (v.carries k).size, hhope.2.succ hhope.1⟩
  | dead reason => exact hhope
  | _ => trivial

include hwindow hpunctual hresponsive hk in
/-- **What a round knows about the connection** is no reason for its death after any move. -/
theorem Heeded.hopeful_succ (hh : v.Heeded late id k)
    (hmem : (id, what) ∈ (v.watch (k + 1)).candidates) : v.Hopeful (k + 1) what := by
  have heffect := v.effect k
  generalize hm : v.move k = m, hw : v.watch (k + 1) = w' at heffect
  cases heffect with
  | begun hdue =>
    rw [hw, Watch.candidates_of_round rfl] at hmem
    obtain ⟨rfl, -⟩ := Round.mem_start.1 hmem
    trivial
  | @checked r hr hunchecked =>
    have hnew := hmem
    rw [hw, Watch.candidates_of_round rfl] at hmem
    obtain ⟨t, rfl, hopen⟩ := hh.pinged hwindow hpunctual hresponsive hk hm hr hunchecked hmem
    have hpings := pings_of_unchecked hr hunchecked hnew
    have hticketed := (v.sound (k + 1)).ticketed
    refine ⟨hticketed.lt_size ?_, hresponsive.written k hk t hpings⟩
    rw [hw, hopen]
    nofun
  | @judged r hr =>
    rw [hw, Watch.candidates_of_round rfl] at hmem
    obtain ⟨before, hbefore, rfl⟩ := Round.mem_judgeAll hmem
    have hhope := hh.hopeful before (Watch.mem_candidates.2 ⟨r, hr, hbefore⟩)
    cases before with
    | pinged t =>
      have hlater : v.Hopeful (k + 1) (.pinged t) := hhope.succ
      have hverdict := hlater.2.verdict_ne hlater.1
      rw [hw] at hverdict
      rcases Round.judge_pinged hverdict with halive | hpinged
      · rw [halive]
        trivial
      · rw [hpinged]
        exact hlater
    | dead reason => exact hhope
    | _ => trivial
  | concluded => exact absurd hmem (by rw [hw]; exact List.not_mem_nil)
  | _ =>
    rw [hw] at hmem
    exact (hh.hopeful what hmem).succ

end

/-! ### Responsive clients are left alone -/

/-- **The heartbeat leaves a responsive client alone**, if the silence that is allowed is longer
than what comes to pass between two rounds. -/
theorem heeded (hwindow : Watch.gap late v.period + late + ofMillis 1 ≤ Limit.liveness)
    (hpunctual : v.Punctual late n) (hresponsive : v.Responsive id n) (hk : k ≤ n) :
    v.Heeded late id k := by
  induction k with
  | zero =>
    constructor
    case fresh =>
      intro c hc
      exact .heard (Nat.lt_of_le_of_lt (hresponsive.recent c hc)
        (Nat.lt_add_of_pos_right (by decide)))
    case hopeful => exact nofun
  | succ k ih =>
    have hh := ih (Nat.le_of_succ_le hk)
    constructor
    case fresh =>
      intro c' hc'
      cases hc : (v.watch k).board.connection? id with
      | none => exact fresh_new_succ hpunctual hk hc hc'
      | some c => exact hh.fresh_old_succ hwindow hpunctual hresponsive hk hc hc'
    case hopeful =>
      intro what hmem
      exact hh.hopeful_succ hwindow hpunctual hresponsive hk hmem

theorem spared_of_heeded (hheeded : ∀ k ≤ n, v.Heeded late id k) : v.Spared id n := by
  have halive : ∀ k ≤ n, ∀ reason, (id, .dead reason) ∉ (v.watch k).candidates :=
    fun k hk reason hmem => (hheeded k hk).hopeful _ hmem
  have hnot : ∀ k ≤ n, ∀ r, (v.watch k).round = some r → id ∉ r.dead := by
    intro k hk r hr hdead
    obtain ⟨reason, hmem⟩ := Round.mem_dead.1 hdead
    exact halive k hk reason (Watch.mem_candidates.2 ⟨r, hr, hmem⟩)
  constructor
  case alive => exact halive
  case current =>
    intro k hk hm user hcurrent
    refine ((v.effect k).keeps hm).stays user id hcurrent ?_
    rintro ⟨r, hr, hdead⟩
    exact hnot k (Nat.le_of_lt hk) r hr hdead
  case unclosed =>
    intro k hk hm hclosed
    exact (v.effect k).isClosed hm (hnot k (Nat.le_of_lt hk)) hclosed

/-- **A client that answers every ping is left alone by the heartbeat**, whatever interval is
configured, if it is not longer than fifty-nine seconds and the heartbeat is late by less than half
a second. -/
theorem spared (settings : Settings) (hinterval : settings.heartbeatSeconds.toNat ≤ 59)
    (hperiod : v.period = ofSeconds settings.heartbeatSeconds.toNat)
    (hlate : late ≤ ofMillis 499) (hpunctual : v.Punctual late n)
    (hresponsive : v.Responsive id n) : v.Spared id n := by
  have hwindow : Watch.gap late v.period + late + ofMillis 1 ≤ Limit.liveness := by
    unfold Watch.gap Limit.liveness Limit.probeWrite
    rw [hperiod]
    unfold ofMillis ofSeconds Nanos at *
    omega
  exact spared_of_heeded fun k hk => heeded hwindow hpunctual hresponsive hk

/-! ### A client that says nothing else -/

/-- Nobody is connected when the task starts, and it is told to stop after these moves. -/
def ofMoves (start period : Nanos) (moves : List Watch.Move) : Vigil where
  start := start
  period := period
  board := .empty
  owned := Switchboard.owned_empty
  ticketed := Switchboard.ticketed_empty
  move k := moves.getD k .stop

/-- Two rounds, and a client that answers their pings and says nothing else. The first round is
late. -/
def answering : Vigil :=
  ofMoves 0 (ofSeconds 59)
    [.event (.arrive 1), .event (.enter 0),
      .wait (ofSeconds 59 + ofMillis 499), .begin, .check,
      .event (.chore (.settle 0 true)), .event (.touch 0), .judge, .conclude,
      .wait (ofSeconds 59), .begin, .check,
      .event (.chore (.settle 1 true)), .event (.touch 0), .judge, .conclude]

theorem pings_answering {k t : Nat} (hk : k < 16) (hpings : answering.Pings k 0 t) :
    (k = 4 ∧ t = 0) ∨ (k = 11 ∧ t = 1) := by
  have hothers : ∀ k < 16, k ≠ 4 → k ≠ 11 → (answering.watch (k + 1)).candidates.all fun p =>
      p ∈ (answering.watch k).candidates || p.2 ∈ [.unchecked, .alive] := by decide +kernel
  have hfirst : (answering.watch 5).candidates = [(0, .pinged 0)] := by decide +kernel
  have hsecond : (answering.watch 12).candidates = [(0, .pinged 1)] := by decide +kernel
  obtain ⟨hnot, hmem⟩ := hpings
  by_cases h4 : k = 4
  · subst h4
    simpa [hfirst] using hmem
  · by_cases h11 : k = 11
    · subst h11
      simpa [hsecond] using hmem
    · simpa [hnot] using List.all_eq_true.1 (hothers k hk h4 h11) _ hmem

theorem responsive_answering : answering.Responsive 0 16 := by
  constructor
  case recent => exact nofun
  case registered =>
    intro k hk hm _ c hc
    have hcurrent : ∀ k < 16, answering.move k = .begin →
        (answering.watch k).board.current? 1 = some 0 := by decide +kernel
    exact Or.inl ⟨1, hcurrent k hk hm⟩
  case room =>
    intro k hk hm c hc
    have hroom : ∀ k < 16, answering.move k = .check →
        ∀ c ∈ (answering.watch k).board.connection? 0, c.hasRoom = true := by decide +kernel
    exact hroom k hk hm c hc
  case written =>
    intro k hk t hpings
    rcases pings_answering hk hpings with ⟨rfl, rfl⟩ | ⟨rfl, rfl⟩
    · exact ⟨6, by decide, by decide +kernel, by decide +kernel⟩
    · exact ⟨13, by decide, by decide +kernel, by decide +kernel⟩
  case answered =>
    intro k hk t hpings
    rcases pings_answering hk hpings with ⟨rfl, rfl⟩ | ⟨rfl, rfl⟩
    · exact ⟨6, by decide, by decide +kernel, by decide +kernel⟩
    · exact ⟨13, by decide, by decide +kernel, by decide +kernel⟩
  case young =>
    intro k hk hm c hc
    have hyoung : ∀ k < 16, answering.move k = .event (.touch 0) →
        ∀ c ∈ (answering.watch k).board.connection? 0,
          (answering.watch k).now - c.openedAt < ofMillis 18446744073709551616 := by
      decide +kernel
    exact hyoung k hk hm c hc

theorem spared_answering :
    (∃ settings, Settings.ofEnvironment [("HEARTBEAT_INTERVAL_SECS", "59")] = .ok settings ∧
      answering.period = ofSeconds settings.heartbeatSeconds.toNat) ∧
    answering.Punctual (ofMillis 499) 16 ∧ answering.Responsive 0 16 ∧ answering.Spared 0 16 := by
  have hperiod : answering.period = ofSeconds (UInt64.toNat 59) := by decide +kernel
  have hpunctual : answering.Punctual (ofMillis 499) 16 := by decide +kernel
  refine ⟨⟨{ Settings.default with heartbeatSeconds := 59 }, by decide +kernel, hperiod⟩, hpunctual,
    responsive_answering, ?_⟩
  exact spared { Settings.default with heartbeatSeconds := 59 } (by decide) hperiod
    (Nat.le_refl _) hpunctual responsive_answering

/-! ### Longer intervals -/

/-- A round after sixty-one seconds, and a client that says nothing before it is pinged. -/
def patient : Vigil :=
  ofMoves 0 (ofSeconds 61)
    [.event (.arrive 1), .event (.enter 0), .wait (ofSeconds 61), .begin, .check, .judge,
      .conclude]

theorem not_pings_patient {k t : Nat} (hk : k < 7) : ¬patient.Pings k 0 t := by
  have hnone : ∀ k < 7, (patient.watch (k + 1)).candidates.all fun p =>
      p.2 ∈ [.unchecked, .dead .silent] := by decide +kernel
  rintro ⟨-, hmem⟩
  simpa using List.all_eq_true.1 (hnone k hk) _ hmem

theorem responsive_patient : patient.Responsive 0 7 := by
  constructor
  case recent => exact nofun
  case registered =>
    intro k hk hm _ c hc
    have hcurrent : ∀ k < 7, patient.move k = .begin →
        (patient.watch k).board.current? 1 = some 0 := by decide +kernel
    exact Or.inl ⟨1, hcurrent k hk hm⟩
  case room =>
    intro k hk hm c hc
    have hroom : ∀ k < 7, patient.move k = .check →
        ∀ c ∈ (patient.watch k).board.connection? 0, c.hasRoom = true := by decide +kernel
    exact hroom k hk hm c hc
  case written =>
    intro k hk t hpings
    exact absurd hpings (not_pings_patient hk)
  case answered =>
    intro k hk t hpings
    exact absurd hpings (not_pings_patient hk)
  case young =>
    intro k hk hm
    have hnone : ∀ k < 7, patient.move k ≠ .event (.touch 0) := by decide +kernel
    exact absurd hm (hnone k hk)

/-- **An interval of sixty-one seconds is too long**: a client is evicted before it is pinged for
the first time, by a heartbeat that is never late. -/
theorem patient_evicted :
    (∃ settings, Settings.ofEnvironment [("HEARTBEAT_INTERVAL_SECS", "61")] = .ok settings ∧
      patient.period = ofSeconds settings.heartbeatSeconds.toNat) ∧
    patient.Punctual 0 7 ∧ patient.Responsive 0 7 ∧ ¬patient.Spared 0 7 ∧
    (patient.watch 7).board.IsClosed 0 ∧ (patient.watch 7).board.current? 1 = none := by
  have hsilent : (0, .dead .silent) ∈ (patient.watch 6).candidates := by decide +kernel
  refine ⟨⟨{ Settings.default with heartbeatSeconds := 61 }, by decide +kernel, by decide +kernel⟩,
    by decide +kernel, responsive_patient, ?_, ?_, by decide +kernel⟩
  · intro hspared
    exact hspared.alive 6 (by decide) .silent hsilent
  · exact ⟨(Connection.opened 1 0).close, by decide +kernel, by decide +kernel⟩

/-- Sixty seconds are too long for a client whose connection is half a millisecond younger than the
task. -/
example :
    ((ofMoves 0 (ofSeconds 60)
      [.wait 500000, .event (.arrive 1), .event (.enter 0), .wait (ofSeconds 60 - 500000), .begin,
        .check, .event (.chore (.settle 0 true)), .event (.touch 0), .judge, .conclude,
        .wait (ofSeconds 60), .begin, .check]).watch 13).candidates = [(0, .dead .silent)] := by
  decide +kernel

end Vigil

end Rendezvous
