import Rendezvous.Proofs.Heartbeat.Rounds
import Rendezvous.Proofs.Recurrence.Rota
import Rendezvous.Proofs.Service.Keeping

/-!
# The heartbeat at work

The heartbeat is a periodic task whose work is a round. A round begins with the connections that are
current at that moment, looks at them, learns one after the other what has come of the pings, and
ends when all its connections are judged. Meanwhile connections come and go, writers write, clients
answer, and anything else may be done to the switchboard (`Watch.Event`).

A *watch* is the heartbeat at one moment, with the switchboard that it looks after, and a *vigil* is
what becomes of it from its start on, in any sequence of moves. All that a move does is said once,
by `Watch.Effect`.

## Punctuality

Nothing is said about how fast the heartbeat is. Where that matters, a vigil is *punctual*
(`Vigil.Punctual`): time does not pass over what the heartbeat is to do by more than some span. It
is to begin a round when that is due, or at once when the one before has ended too late; to look at
the connections as soon as the round has begun; and to end the round when the time that pings have
is over. Nobody can keep it from that, since the round is judged by then (`Watch.Sound.isJudged`).
So the beginnings of two rounds are not far apart (`Watch.Timely.begin_le`).
-/

namespace Rendezvous

/-- **The heartbeat at one moment.** -/
structure Watch where
  /-- What time it is. -/
  now : Nanos
  /-- The switchboard. -/
  board : Switchboard
  /-- The task whose work is a round. -/
  task : Recurrence
  /-- The round that is under way. -/
  round : Option Round
  /-- When the last round began, or the task started. -/
  begunAt : Nanos
  /-- When the last round looked at its connections, if it has. -/
  checkedAt : Option Nanos
  /-- When the last round ended, or the task started. -/
  endedAt : Nanos

namespace Watch

/-! ### What others do -/

deriving instance DecidableEq for Service.Chore

/-- What others do to the switchboard. -/
inductive Event where
  /-- A connection is opened. -/
  | arrive (user : UserId)
  /-- A connection becomes the current one of its user. -/
  | enter (id : ConnectionId)
  /-- Something has come from a client. -/
  | touch (id : ConnectionId)
  /-- A text is put into a queue. -/
  | push (id : ConnectionId) (content : String)
  /-- Somebody takes part in another way. -/
  | chore (work : Service.Chore)
  deriving DecidableEq

/-- The switchboard after an event. -/
def Event.perform (now : Nanos) (h : Switchboard) : Event → Switchboard
  | .arrive user => (h.open user now).2
  | .enter id => (h.enter id).2
  | .touch id => h.touch id now
  | .push id content => (h.push id content).2
  | .chore work => work.perform now h

variable {h : Switchboard}

theorem Event.follows (hown : h.Owned) (now : Nanos) (e : Event) :
    h.Follows (fun _ _ => True) (e.perform now h) := by
  cases e with
  | arrive user => exact Switchboard.follows_open hown user now
  | enter id => exact Switchboard.follows_enter id
  | touch id => exact Switchboard.follows_touch id now
  | push id content => exact (Switchboard.follows_push id content).mono fun _ _ _ => trivial
  | chore work => exact work.follows h now

/-- Writers and clients that are silent give no sign of life. -/
theorem carries_chore {heard : ConnectionId → Prop} (hticketed : h.Ticketed) (now : Nanos)
    (work : Service.Chore) : h.Carries heard (work.perform now h) := by
  cases work with
  | take id => exact Switchboard.carries_take? id
  | abandon id => exact Switchboard.carries_abandon id
  | close id => exact Switchboard.carries_close id
  | settle ticket written => exact Switchboard.carries_settle ticket written
  | probe id wait => exact Switchboard.carries_probe hticketed id now wait
  | expire => exact Switchboard.carries_expire now
  | unregister user id => exact Switchboard.carries_unregister user id

/-- **One event only is a sign of life** of a connection. -/
theorem Event.carries (hown : h.Owned) (hticketed : h.Ticketed) (now : Nanos) (e : Event) :
    h.Carries (fun id => e = .touch id) (e.perform now h) := by
  cases e with
  | arrive user =>
    refine Switchboard.carries_open ?_ user now
    cases hfree : h.connection? h.connections.size with
    | none => rfl
    | some c => exact absurd (hown.fresh _ c hfree) (Nat.lt_irrefl _)
  | enter id => exact Switchboard.carries_enter id
  | touch id =>
    exact (Switchboard.carries_touch id now).mono fun _ he => congrArg Event.touch he.symm
  | push id content => exact Switchboard.carries_push id content
  | chore work => exact carries_chore hticketed now work

/-- Writers and the heartbeat let nobody in. -/
theorem keeps_chore (now : Nanos) (work : Service.Chore) :
    h.Keeps (fun _ => True) (work.perform now h) := by
  cases work with
  | take id =>
    cases htake : h.take? id with
    | none => simpa [Service.Chore.perform, htake] using Switchboard.Keeps.refl h
    | some taken => simpa [Service.Chore.perform, htake] using Switchboard.keeps_take? htake
  | abandon id => exact Switchboard.keeps_abandon id
  | close id => exact Switchboard.keeps_close id
  | settle ticket written => exact Switchboard.keeps_settle ticket written
  | probe id wait => exact Switchboard.keeps_probe id now wait
  | expire => exact Switchboard.keeps_expire now
  | unregister user id => exact (Switchboard.keeps_unregister user id).mono fun _ _ => trivial

/-- **Connections last**, and there are no others but one that arrives. -/
theorem Event.lasts {e : Event} (hne : ∀ user, e ≠ .arrive user) (now : Nanos) :
    h.Lasts (e.perform now h) := by
  cases e with
  | arrive user => exact absurd rfl (hne user)
  | enter id => exact Switchboard.lasts_enter id
  | touch id =>
    have hkeeps : h.Keeps (fun _ => True) (h.touch id now) := Switchboard.keeps_touch id now
    exact hkeeps.toLasts
  | push id content =>
    have hkeeps : h.Keeps (fun _ => True) (h.push id content).2 := Switchboard.keeps_push id content
    exact hkeeps.toLasts
  | chore work => exact (keeps_chore now work).toLasts

/-! ### What happens -/

/-- What happens next. -/
inductive Move where
  /-- Something happens to the switchboard. -/
  | event (e : Event)
  /-- A round begins. -/
  | begin
  /-- It looks at its connections. -/
  | check
  /-- It learns what has come of its pings. -/
  | judge
  /-- It ends. -/
  | conclude
  /-- The task is told to stop. -/
  | stop
  /-- Time goes by. -/
  | wait (span : Nanos)
  deriving DecidableEq

/-- The task starts. -/
def start (now period : Nanos) (h : Switchboard) : Watch :=
  ⟨now, h, .start now period, none, now, none, now⟩

/-- A round begins, if one is due. -/
def begin (w : Watch) : Watch :=
  if w.task.isDue w.now then
    { w with
      task := w.task.begin w.now
      round := some (.start Limit.probeWrite Limit.liveness w.board)
      begunAt := w.now
      checkedAt := none }
  else w

/-- The round looks at its connections, if it has not done so. -/
def check (w : Watch) : Watch :=
  match w.round, w.checkedAt with
  | some r, none =>
    { w with
      board := (r.checkAll w.now w.board).2
      round := some (r.checkAll w.now w.board).1
      checkedAt := some w.now }
  | _, _ => w

/-- The round learns what has come of its pings. -/
def judge (w : Watch) : Watch :=
  match w.round with
  | some r => { w with round := some (r.judgeAll w.board) }
  | none => w

/-- The round ends, if all its connections are judged. -/
def conclude (w : Watch) : Watch :=
  match w.round with
  | some r =>
    if r.isJudged then
      { w with
        board := (r.conclude w.board).2
        task := w.task.finish
        round := none
        endedAt := w.now }
    else w
  | none => w

/-- What there is after a move. -/
def step (w : Watch) : Move → Watch
  | .event e => { w with board := e.perform w.now w.board }
  | .begin => w.begin
  | .check => w.check
  | .judge => w.judge
  | .conclude => w.conclude
  | .stop => { w with task := w.task.cancel }
  | .wait span => { w with now := w.now + span }

/-- **What a move does.** -/
inductive Effect (w : Watch) : Move → Watch → Prop where
  /-- The heartbeat has nothing to do. -/
  | idle {m : Move} (hm : ∀ e, m ≠ .event e) : Effect w m w
  /-- Something has happened to the switchboard. -/
  | happened {e : Event} : Effect w (.event e) { w with board := e.perform w.now w.board }
  /-- A round has begun. -/
  | begun (hdue : w.task.isDue w.now = true) : Effect w .begin
      { w with
        task := w.task.begin w.now
        round := some (.start Limit.probeWrite Limit.liveness w.board)
        begunAt := w.now
        checkedAt := none }
  /-- The round has looked at its connections. -/
  | checked {r : Round} (hr : w.round = some r) (hunchecked : w.checkedAt = none) : Effect w .check
      { w with
        board := (r.checkFrom w.now r.candidates w.board).2
        round := some { r with candidates := (r.checkFrom w.now r.candidates w.board).1 }
        checkedAt := some w.now }
  /-- The round has learnt what has come of its pings. -/
  | judged {r : Round} (hr : w.round = some r) :
      Effect w .judge { w with round := some (r.judgeAll w.board) }
  /-- The round has ended. -/
  | concluded {r : Round} (hr : w.round = some r) (hjudged : r.isJudged = true) :
      Effect w .conclude
        { w with
          board := (r.conclude w.board).2
          task := w.task.finish
          round := none
          endedAt := w.now }
  /-- The task was told to stop. -/
  | stopped : Effect w .stop { w with task := w.task.cancel }
  /-- Time has gone by. -/
  | waited {span : Nanos} : Effect w (.wait span) { w with now := w.now + span }

theorem effect_begin (w : Watch) : w.Effect .begin w.begin := by
  unfold begin
  split
  · next hdue => exact .begun hdue
  · exact .idle nofun

theorem effect_check (w : Watch) : w.Effect .check w.check := by
  unfold check
  split
  · next hr hunchecked => exact .checked hr hunchecked
  · exact .idle nofun

theorem effect_judge (w : Watch) : w.Effect .judge w.judge := by
  unfold judge
  split
  · next hr => exact .judged hr
  · exact .idle nofun

theorem effect_conclude (w : Watch) : w.Effect .conclude w.conclude := by
  unfold conclude
  split
  · next hr =>
    split
    · next hjudged => exact .concluded hr hjudged
    · exact .idle nofun
  · exact .idle nofun

/-- **Every move has one of these effects.** -/
theorem effect (w : Watch) (m : Move) : w.Effect m (w.step m) := by
  cases m with
  | event e => exact .happened
  | begin => exact w.effect_begin
  | check => exact w.effect_check
  | judge => exact w.effect_judge
  | conclude => exact w.effect_conclude
  | stop => exact .stopped
  | wait span => exact .waited

/-! ### What is always so -/

variable {w w' : Watch} {m : Move} {late period : Nanos}

/-- **A round that is under way.** -/
structure Underway (w : Watch) (r : Round) : Prop where
  /-- The task is at work. -/
  working : w.task.phase = .working
  /-- So long it waits for its pings. -/
  writeWait : r.writeWait = Limit.probeWrite
  /-- So long a connection may be silent. -/
  liveness : r.liveness = Limit.liveness
  /-- No connection is in it twice. -/
  nodup : (r.candidates.map (·.1)).Nodup
  /-- Nothing is known about a connection before it is looked at. -/
  unchecked : w.checkedAt = none → ∀ id k, (id, k) ∈ r.candidates → k = .unchecked
  /-- And then every connection is looked at. -/
  looked : ∀ checked, w.checkedAt = some checked → ∀ id k, (id, k) ∈ r.candidates → k ≠ .unchecked
  /-- From then on the pings have their time. -/
  timed : ∀ checked, w.checkedAt = some checked → ∀ id t, (id, .pinged t) ∈ r.candidates →
    t < w.board.probes.size ∧ ∀ time, w.board.probes.get? t = some (.waiting time) →
      time = checked + Limit.probeWrite
  /-- There is nothing in it that is no connection. -/
  known : ∀ id ∈ r.candidates.map (·.1), ∃ c, w.board.connection? id = some c

/-- **The switchboard and the round fit together.** -/
structure Sound (w : Watch) : Prop where
  /-- The connections belong to their users. -/
  owned : w.board.Owned
  /-- The number of the next ping is not taken. -/
  ticketed : w.board.Ticketed
  /-- The round fits the switchboard. -/
  round : ∀ r, w.round = some r → w.Underway r

theorem sound_start (now period : Nanos) (hown : h.Owned) (hticketed : h.Ticketed) :
    (start now period h).Sound where
  owned := hown
  ticketed := hticketed
  round := nofun

theorem Effect.follows (hs : w.Sound) (he : w.Effect m w') :
    w.board.Follows (fun _ _ => True) w'.board := by
  cases he with
  | happened => exact Event.follows hs.owned w.now _
  | checked => exact Round.follows_checkFrom _
  | concluded => exact Round.follows_evictAll _
  | _ => exact .refl w.board

/-- **One event only is a sign of life** of a connection, and nothing that the heartbeat does is. -/
theorem Effect.carries (hs : w.Sound) (he : w.Effect m w') :
    w.board.Carries (fun id => m = .event (.touch id)) w'.board := by
  cases he with
  | happened =>
    exact (Event.carries hs.owned hs.ticketed w.now _).mono fun _ he => congrArg Move.event he
  | checked => exact Round.carries_checkFrom hs.ticketed _
  | concluded => exact Round.carries_evictAll _
  | _ => exact .refl w.board

/-- **Nobody comes or goes by the heartbeat**, but those whom a round has judged dead. -/
theorem Effect.keeps (he : w.Effect m w') (hm : ∀ e, m ≠ .event e) :
    w.board.Keeps (fun id => ∃ r, w.round = some r ∧ id ∈ r.dead) w'.board := by
  cases he with
  | happened => exact absurd rfl (hm _)
  | checked => exact Round.keeps_checkFrom _
  | concluded hr => exact (Round.keeps_evictAll _).mono fun id hdead => ⟨_, hr, hdead⟩
  | _ => exact .refl w.board

/-- **And nobody else is closed by it.** -/
theorem Effect.isClosed {id : ConnectionId} (he : w.Effect m w') (hm : ∀ e, m ≠ .event e)
    (hnot : ∀ r, w.round = some r → id ∉ r.dead) (hclosed : w'.board.IsClosed id) :
    w.board.IsClosed id := by
  cases he with
  | happened => exact absurd rfl (hm _)
  | checked => exact Round.isClosed_of_checkFrom hclosed
  | concluded hr =>
    obtain ⟨c, hc, hflag⟩ := hclosed
    exact ⟨c, (Round.connection?_evictAll (hnot _ hr)).symm.trans hc, hflag⟩
  | _ => exact hclosed

theorem Effect.lasts (he : w.Effect m w') (hm : ∀ user, m ≠ .event (.arrive user)) :
    w.board.Lasts w'.board := by
  by_cases hevent : ∃ e, m = .event e
  · obtain ⟨e, rfl⟩ := hevent
    cases he with
    | idle hnone => exact absurd rfl (hnone e)
    | happened => exact Event.lasts (fun user he => hm user (congrArg Move.event he)) w.now
  · exact (he.keeps fun e he => hevent ⟨e, he⟩).toLasts

/-- Nothing becomes of a round while something else happens. -/
theorem Underway.carries {r : Round} {heard : ConnectionId → Prop} (hu : w.Underway r)
    (hc : w.board.Carries heard w'.board) (hphase : w'.task.phase = .working)
    (hchecked : w'.checkedAt = w.checkedAt) : w'.Underway r where
  working := hphase
  writeWait := hu.writeWait
  liveness := hu.liveness
  nodup := hu.nodup
  unchecked hnone := hu.unchecked (hchecked.symm.trans hnone)
  looked checked hthen := hu.looked checked (hchecked.symm.trans hthen)
  timed checked hthen id t hmem := by
    obtain ⟨hlt, htime⟩ := hu.timed checked (hchecked.symm.trans hthen) id t hmem
    exact ⟨Nat.lt_of_lt_of_le hlt hc.size, fun time ht => htime time (hc.deadline t time hlt ht)⟩
  known id hid := by
    obtain ⟨c, hold⟩ := hu.known id hid
    obtain ⟨c', hnew, -⟩ := hc.connection id c hold
    exact ⟨c', hnew⟩

theorem underway_start (hown : w.board.Owned) (hphase : w.task.phase = .working)
    (hnone : w.checkedAt = none) :
    w.Underway (.start Limit.probeWrite Limit.liveness w.board) where
  working := hphase
  writeWait := rfl
  liveness := rfl
  nodup := Round.nodup_start hown ..
  unchecked _ id k hmem := (Round.mem_start.1 hmem).1
  looked checked hthen := absurd (hnone.symm.trans hthen) nofun
  timed checked hthen := absurd (hnone.symm.trans hthen) nofun
  known id hid := by
    obtain ⟨⟨id, k⟩, hmem, rfl⟩ := List.mem_map.1 hid
    obtain ⟨-, user, hcurrent⟩ := Round.mem_start.1 hmem
    obtain ⟨c, hc, -⟩ := hown.current user id hcurrent
    exact ⟨c, hc⟩

/-- **What is always so**, by what each move does. -/
theorem Sound.effect (hs : w.Sound) (he : w.Effect m w') : w'.Sound where
  owned := hs.owned.follows (he.follows hs)
  ticketed := hs.ticketed.carries (he.carries hs)
  round r' hr' := by
    have hcarries := he.carries hs
    cases he with
    | idle => exact hs.round r' hr'
    | happened =>
      have hu := hs.round r' hr'
      exact hu.carries hcarries hu.working rfl
    | begun hdue =>
      obtain rfl := Option.some.inj hr'
      exact underway_start hs.owned rfl rfl
    | @checked r hr hunchecked =>
      obtain rfl := Option.some.inj hr'
      have hu := hs.round r hr
      have hkeys := r.map_fst_checkFrom w.now r.candidates w.board
      have hu' : Underway { w with board := _ } r := hu.carries hcarries hu.working rfl
      exact { hu' with
        nodup := by rw [hkeys]; exact hu.nodup
        unchecked := nofun
        looked := fun _ _ id k => Round.checkFrom_ne_unchecked hs.ticketed hu.nodup
        timed := by
          intro checked hthen id t hmem
          obtain rfl := Option.some.inj hthen
          obtain ⟨hlt, htime⟩ :=
            Round.checkFrom_pinged hs.ticketed hu.nodup (hu.unchecked hunchecked) hmem
          rw [hu.writeWait] at htime
          exact ⟨hlt, htime⟩
        known := by rw [hkeys]; exact hu'.known }
    | @judged r hr =>
      obtain rfl := Option.some.inj hr'
      have hu := hs.round r hr
      have hkeys := r.map_fst_judgeAll w.board
      exact { hu with
        nodup := by rw [hkeys]; exact hu.nodup
        unchecked := by
          intro hnone id k hmem
          obtain ⟨k', hold, rfl⟩ := Round.mem_judgeAll hmem
          rw [hu.unchecked hnone id k' hold]
          rfl
        looked := by
          intro checked hthen id k hmem hk
          obtain ⟨k', hold, rfl⟩ := Round.mem_judgeAll hmem
          have hsame := Round.judge_eq (by rw [hk]; rfl)
          exact hu.looked checked hthen id k' hold (hsame.symm.trans hk)
        timed := by
          intro checked hthen id t hmem
          obtain ⟨k', hold, hk⟩ := Round.mem_judgeAll hmem
          have hsame := Round.judge_eq (by rw [← hk]; rfl)
          rw [hsame] at hk
          exact hu.timed checked hthen id t (hk ▸ hold)
        known := by rw [hkeys]; exact hu.known }
    | concluded => exact absurd hr' nofun
    | stopped =>
      have hu := hs.round r' hr'
      refine hu.carries hcarries ?_ rfl
      simp [Recurrence.cancel, hu.working]
    | waited => exact (hs.round r' hr').carries hcarries (hs.round r' hr').working rfl

/-- **A round is judged when the time of its pings is over**: nothing that happens to the switchboard
can keep it from ending then. -/
theorem Sound.isJudged (hs : w.Sound) {r : Round} {checked : Nanos} (hr : w.round = some r)
    (hchecked : w.checkedAt = some checked) (hover : checked + Limit.probeWrite ≤ w.now) :
    (r.judgeAll (w.board.expire w.now)).isJudged = true := by
  have hu := hs.round r hr
  refine List.all_eq_true.2 fun e hmem => ?_
  obtain ⟨id, k⟩ := e
  obtain ⟨k', hold, rfl⟩ := Round.mem_judgeAll hmem
  refine Round.isJudged_judge (hu.looked checked hchecked id k' hold) ?_
  rintro t rfl hopen
  obtain ⟨hlt, htime⟩ := hu.timed checked hchecked id t hold
  unfold Switchboard.verdict? Switchboard.expire at hopen
  rw [Table.get?_mapValues] at hopen
  cases hget : w.board.probes.get? t with
  | none => simp [hget] at hopen
  | some state =>
    cases state with
    | settled written => simp [hget] at hopen
    | waiting time => simp [hget, htime time hget, hover] at hopen

/-! ### Punctuality -/

/-- Until when the heartbeat is to go on by itself. -/
def deadline? (w : Watch) : Option Nanos :=
  match w.round with
  | none => if w.task.isAlive then some (max w.task.due w.endedAt) else none
  | some _ => some (w.checkedAt.elim w.begunAt (· + Limit.probeWrite))

/-- Time does not go by for so long that the heartbeat is too late. -/
def Bears (w : Watch) (late : Nanos) : Move → Prop
  | .wait span => ∀ t ∈ w.deadline?, w.now + span ≤ t + late
  | _ => True

instance (w : Watch) (late : Nanos) : (m : Move) → Decidable (w.Bears late m)
  | .wait span => inferInstanceAs (Decidable (∀ t ∈ w.deadline?, w.now + span ≤ t + late))
  | .event _ | .begin | .check | .judge | .conclude | .stop => .isTrue trivial

/-- **The heartbeat is on time**, or not later than that. -/
structure Timely (late period : Nanos) (w : Watch) : Prop where
  /-- The task has the period. -/
  regular : w.task.period = period
  /-- The last round has begun by now. -/
  begun : w.begunAt ≤ w.now
  /-- The next one is due after a period at the latest. -/
  due : w.task.due ≤ w.begunAt + period
  /-- The last round has ended by now. -/
  past : w.endedAt ≤ w.now
  /-- Or a round that has begun later is under way, and it was not long under way itself. -/
  ended : w.endedAt ≤ w.begunAt + (Limit.probeWrite + 2 * late)
  /-- The last round has looked at its connections soon. -/
  checked : ∀ t, w.checkedAt = some t → t ≤ w.begunAt + late
  /-- What is to be done now is not late. -/
  onTime : ∀ t, w.deadline? = some t → w.now ≤ t + late

theorem timely_start (late now period : Nanos) (h : Switchboard) :
    (start now period h).Timely late period := by
  unfold start Recurrence.start
  split
  · exact ⟨rfl, Nat.le_refl _, Nat.le_add_right .., Nat.le_refl _, Nat.le_add_right .., nofun,
      nofun⟩
  · refine ⟨rfl, Nat.le_refl _, Nat.le_refl _, Nat.le_refl _, Nat.le_add_right .., nofun, ?_⟩
    intro t ht
    obtain rfl := Option.some.inj ht
    exact Nat.le_trans (Nat.le_max_right ..) (Nat.le_add_right ..)

/-- No round is due while one is under way. -/
theorem Sound.round_eq_none (hs : w.Sound) (hdue : w.task.isDue w.now = true) : w.round = none := by
  have hwaiting : w.task.phase = .waiting := by
    simp only [Recurrence.isDue, Bool.and_eq_true, beq_iff_eq] at hdue
    exact hdue.1.1
  cases hr : w.round with
  | none => rfl
  | some r => exact absurd ((hs.round r hr).working.symm.trans hwaiting) nofun

theorem isAlive_of_isDue (hdue : w.task.isDue w.now = true) : w.task.isAlive = true := by
  simp only [Recurrence.isDue, Bool.and_eq_true, beq_iff_eq] at hdue
  simp [Recurrence.isAlive, hdue.1.1]

theorem deadline?_unchecked {r : Round} (hr : w.round = some r) (hnone : w.checkedAt = none) :
    w.deadline? = some w.begunAt := by
  rw [deadline?, hr, hnone]
  rfl

theorem deadline?_checked {r : Round} {t : Nanos} (hr : w.round = some r)
    (hchecked : w.checkedAt = some t) : w.deadline? = some (t + Limit.probeWrite) := by
  rw [deadline?, hr, hchecked]
  rfl

/-- A round that is under way is not so for long. -/
theorem Timely.now_le (ht : w.Timely late period) {r : Round} (hr : w.round = some r) :
    w.now ≤ w.begunAt + (Limit.probeWrite + 2 * late) := by
  cases hchecked : w.checkedAt with
  | none =>
    have hnow := ht.onTime _ (deadline?_unchecked hr hchecked)
    grind
  | some t =>
    have hnow := ht.onTime _ (deadline?_checked hr hchecked)
    have hthen := ht.checked t hchecked
    grind

/-- **A heartbeat on time stays so**, whatever happens but that time passes over what it is to do.
-/
theorem Timely.effect (ht : w.Timely late period) (he : w.Effect m w') (hbears : w.Bears late m) :
    w'.Timely late period := by
  cases he with
  | idle => exact ht
  | happened => exact { ht with }
  | begun hdue =>
    constructor
    case regular => exact (w.task.period_begin w.now).trans ht.regular
    case begun => exact Nat.le_refl _
    case due =>
      have hpast : w.task.due ≤ w.now := by
        simp only [Recurrence.isDue, Bool.and_eq_true, decide_eq_true_eq] at hdue
        exact hdue.2
      exact ht.regular ▸ Recurrence.nextDue_le hpast
    case past => exact ht.past
    case ended => exact Nat.le_add_right_of_le ht.past
    case checked => exact nofun
    case onTime =>
      intro t hdeadline
      rw [deadline?_unchecked rfl rfl] at hdeadline
      obtain rfl := Option.some.inj hdeadline
      exact Nat.le_add_right ..
  | @checked r hr hunchecked =>
    have hnow : w.now ≤ w.begunAt + late := ht.onTime _ (deadline?_unchecked hr hunchecked)
    refine { ht with checked := ?_, onTime := ?_ }
    · intro t hchecked
      exact Option.some.inj hchecked ▸ hnow
    · intro t hdeadline
      rw [deadline?_checked rfl rfl] at hdeadline
      obtain rfl := Option.some.inj hdeadline
      exact Nat.le_trans (Nat.le_add_right ..) (Nat.le_add_right ..)
  | @judged r hr =>
    refine { ht with onTime := ?_ }
    intro t hdeadline
    refine ht.onTime t (Eq.trans ?_ hdeadline)
    rw [deadline?, deadline?, hr]
  | @concluded r hr hjudged =>
    refine { ht with past := Nat.le_refl _, ended := ht.now_le hr, onTime := ?_ }
    intro t hdeadline
    simp only [deadline?, Option.ite_none_right_eq_some, Option.some.injEq] at hdeadline
    obtain ⟨-, rfl⟩ := hdeadline
    exact Nat.le_trans (Nat.le_max_right ..) (Nat.le_add_right ..)
  | stopped =>
    refine { ht with onTime := ?_ }
    intro t hdeadline
    refine ht.onTime t ?_
    unfold deadline? at hdeadline ⊢
    cases hr : w.round with
    | some r => simpa only [hr] using hdeadline
    | none =>
      simp only [hr, Option.ite_none_right_eq_some] at hdeadline ⊢
      refine ⟨?_, hdeadline.2⟩
      have halive := hdeadline.1
      unfold Recurrence.isAlive Recurrence.cancel at halive
      unfold Recurrence.isAlive
      grind
  | @waited span =>
    refine { ht with
      begun := Nat.le_trans ht.begun (Nat.le_add_right ..)
      past := Nat.le_trans ht.past (Nat.le_add_right ..)
      onTime := hbears }

/-- How far apart the beginnings of two rounds are at most. -/
def gap (late period : Nanos) : Nanos :=
  max period (Limit.probeWrite + 2 * late) + late

/-- **The next round begins soon enough** after the last one has. -/
theorem Timely.begin_le (ht : w.Timely late period) (hs : w.Sound)
    (hdue : w.task.isDue w.now = true) : w.now ≤ w.begunAt + gap late period := by
  have hdeadline : w.deadline? = some (max w.task.due w.endedAt) := by
    rw [deadline?, hs.round_eq_none hdue]
    exact if_pos (isAlive_of_isDue hdue)
  have hnow := ht.onTime _ hdeadline
  have hdueAt := ht.due
  have hended := ht.ended
  unfold gap Nanos at *
  omega

end Watch

/-! ### Vigils -/

/-- **The heartbeat from its start on.** -/
structure Vigil where
  /-- When the task starts. -/
  start : Nanos
  /-- The time between two rounds. -/
  period : Nanos
  /-- Who is connected when the task starts. -/
  board : Switchboard
  /-- The connections belong to their users. -/
  owned : board.Owned
  /-- The number of the next ping is not taken. -/
  ticketed : board.Ticketed
  /-- What happens, in this order. -/
  move : Nat → Watch.Move

namespace Vigil

/-- What there is after so many moves. -/
def watch (v : Vigil) : Nat → Watch
  | 0 => .start v.start v.period v.board
  | k + 1 => (v.watch k).step (v.move k)

variable {v : Vigil} {j k n : Nat} {late : Nanos} {t : Nat} {written : Bool}

theorem watch_succ {m : Watch.Move} (hm : v.move k = m) : v.watch (k + 1) = (v.watch k).step m := by
  rw [← hm]
  rfl

theorem effect (v : Vigil) (k : Nat) : (v.watch k).Effect (v.move k) (v.watch (k + 1)) :=
  (v.watch k).effect (v.move k)

theorem sound (v : Vigil) (k : Nat) : (v.watch k).Sound := by
  induction k with
  | zero => exact Watch.sound_start v.start v.period v.owned v.ticketed
  | succ k ih => exact ih.effect (v.effect k)

/-- **The heartbeat is on time** up to some move, but for a delay. -/
def Punctual (v : Vigil) (late : Nanos) (n : Nat) : Prop :=
  ∀ k < n, (v.watch k).Bears late (v.move k)

instance (late : Nanos) (n : Nat) : Decidable (v.Punctual late n) :=
  inferInstanceAs (Decidable (∀ k < n, (v.watch k).Bears late (v.move k)))

theorem Punctual.timely (hp : v.Punctual late n) (hk : k ≤ n) :
    (v.watch k).Timely late v.period := by
  induction k with
  | zero => exact Watch.timely_start late v.start v.period v.board
  | succ k ih => exact (ih (Nat.le_of_succ_le hk)).effect (v.effect k) (hp k hk)

/-! ### Later -/

theorem carries (v : Vigil) (k : Nat) : (v.watch k).board.Carries
    (fun id => v.move k = .event (.touch id)) (v.watch (k + 1)).board :=
  (v.effect k).carries (v.sound k)

/-- Time does not go back. -/
theorem now_le (hjk : j ≤ k) : (v.watch j).now ≤ (v.watch k).now := by
  induction hjk with
  | refl => exact Nat.le_refl _
  | @step k _ ih =>
    refine Nat.le_trans ih ?_
    have heffect := v.effect k
    generalize v.move k = m, v.watch (k + 1) = w' at heffect
    cases heffect with
    | waited => exact Nat.le_add_right ..
    | _ => exact Nat.le_refl _

/-- What has come of a ping is the same later. -/
theorem verdict_later (hjk : j ≤ k) (hlt : t < (v.watch j).board.probes.size)
    (hverdict : (v.watch j).board.verdict? t = some written) :
    t < (v.watch k).board.probes.size ∧ (v.watch k).board.verdict? t = some written := by
  induction hjk with
  | refl => exact ⟨hlt, hverdict⟩
  | @step k _ ih =>
    exact ⟨Nat.lt_of_lt_of_le ih.1 (v.carries k).size, (v.carries k).verdict t written ih.1 ih.2⟩

end Vigil

end Rendezvous
