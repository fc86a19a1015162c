import Rendezvous.Proofs.Heartbeat.Watch

/-!
# A round step by step

A round looks at its connections one after the other, learns what has come of each ping by itself,
and at its end takes the dead connections out one after the other, each in two steps: it is taken
out of the switchboard, and then it is closed. Between any two of these steps anything may happen to
the switchboard: connections are opened, enter, are replaced, leave and are closed, writers take
frames and answer pings, clients are heard, and time goes by.

An *inspection* is a round at one moment, with the switchboard that it looks after, and a *patrol*
is what becomes of it from its beginning on, in any sequence of moves. All that a move does is said
once, by `Inspection.Effect`, and what is always so by `Inspection.Sound`.

A ping whose time is over is settled at that very moment: time does not go by without it
(`Inspection.Move.wait`).

A round that looks at all its connections at once, judges them at once and ends at once goes through
such a sequence of moves (`Inspection.after_checks`, `Inspection.after_judges`,
`Inspection.after_evictions`). And whatever has happened so far, a round can be brought to its end by
its own moves, when the time of its pings is over (`Inspection.Sound.exists_isOver`).
-/

namespace Rendezvous

/-! ### Taking a connection out, and closing it -/

namespace Switchboard

variable {h : Switchboard} {id : ConnectionId} {user : UserId} {heard : ConnectionId → Prop}
  {new : ConnectionId → String → Prop}

/-- A connection is taken out, if it is the current one of its user; the answer says so. -/
def withdraw (h : Switchboard) (id : ConnectionId) : Bool × Switchboard :=
  match h.owner? id with
  | some user => h.unregister user id
  | none => (false, h)

theorem withdraw_cases (h : Switchboard) (id : ConnectionId) :
    (h.withdraw id).2 = h ∨ ∃ user, (h.withdraw id).2 = (h.unregister user id).2 := by
  unfold withdraw
  cases h.owner? id with
  | none => exact Or.inl rfl
  | some user => exact Or.inr ⟨user, rfl⟩

/-- **An eviction** is taking out and closing. -/
theorem evict_eq_withdraw {c : Connection} (hc : h.connection? id = some c) :
    h.evict id = ((h.withdraw id).1, (h.withdraw id).2.close id) := by
  unfold evict withdraw owner?
  rw [hc]
  rfl

theorem connections_withdraw (h : Switchboard) (id : ConnectionId) :
    (h.withdraw id).2.connections = h.connections := by
  rcases h.withdraw_cases id with he | ⟨user, he⟩ <;> rw [he]
  exact h.connections_unregister user id

theorem probes_withdraw (h : Switchboard) (id : ConnectionId) :
    (h.withdraw id).2.probes = h.probes := by
  rcases h.withdraw_cases id with he | ⟨user, he⟩ <;> rw [he]
  unfold unregister
  split <;> rfl

theorem current?_withdraw (h : Switchboard) (id : ConnectionId) (user : UserId) :
    (h.withdraw id).2.current? user =
      if h.owner? id = some user ∧ h.current? user = some id then none else h.current? user := by
  unfold withdraw
  cases howner : h.owner? id with
  | none => simp
  | some owner =>
    refine (h.current?_unregister owner user id).trans ?_
    by_cases he : user = owner
    · subst he
      simp
    · simp [he, Ne.symm he]

theorem withdraw_eq_true :
    (h.withdraw id).1 = true ↔ ∃ user, h.owner? id = some user ∧ h.current? user = some id := by
  unfold withdraw
  cases h.owner? id with
  | none => simp
  | some user => simp [unregister_eq_true]

theorem carries_withdraw (id : ConnectionId) : h.Carries heard (h.withdraw id).2 := by
  rcases h.withdraw_cases id with he | ⟨user, he⟩ <;> rw [he]
  · exact .refl h
  · exact carries_unregister user id

theorem follows_withdraw (id : ConnectionId) : h.Follows new (h.withdraw id).2 := by
  rcases h.withdraw_cases id with he | ⟨user, he⟩ <;> rw [he]
  · exact .refl h
  · exact follows_unregister user id

end Switchboard

/-! ### What is known about one connection -/

namespace Round

variable {r : Round} {id id' : ConnectionId} {k : Candidacy} {f : Candidacy → Candidacy}
  {h : Switchboard}

/-- What is known about one connection is known better. -/
def revise (r : Round) (id : ConnectionId) (f : Candidacy → Candidacy) : Round :=
  { r with candidates := r.candidates.map fun p => (p.1, if p.1 = id then f p.2 else p.2) }

theorem map_fst_revise (r : Round) (id : ConnectionId) (f : Candidacy → Candidacy) :
    (r.revise id f).candidates.map (·.1) = r.candidates.map (·.1) := by
  simp [revise, Function.comp_def]

theorem mem_revise : (id', k) ∈ (r.revise id f).candidates ↔
    ∃ k', (id', k') ∈ r.candidates ∧ k = if id' = id then f k' else k' := by
  unfold revise
  simp only [List.mem_map, Prod.exists, Prod.mk.injEq]
  constructor
  · rintro ⟨id'', k', hmem, rfl, rfl⟩
    exact ⟨k', hmem, rfl⟩
  · rintro ⟨k', hmem, rfl⟩
    exact ⟨id', k', hmem, rfl, rfl⟩

theorem isJudged_iff : r.isJudged = true ↔ ∀ id k, (id, k) ∈ r.candidates → k.isJudged = true := by
  simp [isJudged]

/-- What is judged is judged for ever. -/
theorem judge_of_isJudged (hjudged : k.isJudged = true) : judge h k = k := by
  cases k with
  | unchecked => exact absurd hjudged nofun
  | pinged t => exact absurd hjudged nofun
  | _ => rfl

/-- Nothing more is learnt in a round that is judged. -/
theorem revise_judge_of_isJudged (hjudged : r.isJudged = true) :
    r.revise id (judge h) = r := by
  have hsame : r.candidates.map (fun p => (p.1, if p.1 = id then judge h p.2 else p.2)) =
      r.candidates.map fun p => p := by
    refine List.map_congr_left fun p hmem => ?_
    rw [judge_of_isJudged (isJudged_iff.1 hjudged p.1 p.2 hmem), ite_self]
  unfold revise
  rw [hsame, List.map_id']

end Round

/-- **A round at one moment**, with the switchboard that it looks after. -/
structure Inspection where
  /-- What time it is. -/
  now : Nanos
  /-- The switchboard. -/
  board : Switchboard
  /-- The round. -/
  round : Round
  /-- How many of the dead connections are dealt with: taken out and closed. -/
  done : Nat
  /-- The next one is taken out, and still to be closed. -/
  closing : Bool
  /-- How many of them were current. -/
  evicted : Nat

namespace Inspection

/-- What happens next. -/
inductive Move where
  /-- Something happens to the switchboard. -/
  | event (e : Watch.Event)
  /-- The round looks at a connection. -/
  | check (id : ConnectionId)
  /-- It learns what has come of the ping of a connection. -/
  | judge (id : ConnectionId)
  /-- It takes the next dead connection out. -/
  | remove
  /-- It closes the one that it has taken out. -/
  | close
  /-- Time goes by, and pings whose time is over are settled. -/
  | wait (span : Nanos)
  deriving DecidableEq

/-- What the round does by itself. -/
def Move.IsOwn : Move → Prop
  | .event _ => False
  | .wait _ => False
  | _ => True

instance (m : Move) : Decidable m.IsOwn := by
  cases m <;> unfold Move.IsOwn <;> infer_instance

/-- A round begins. -/
def start (now writeWait liveness : Nanos) (h : Switchboard) : Inspection :=
  ⟨now, h, .start writeWait liveness h, 0, false, 0⟩

/-- The dead connection that comes next. There is none before all are judged. -/
def next? (i : Inspection) : Option ConnectionId :=
  if i.round.isJudged then i.round.dead[i.done]? else none

/-- A connection is to be taken out now. -/
def ToRemove (i : Inspection) (id : ConnectionId) : Prop :=
  i.next? = some id ∧ i.closing = false

/-- A connection is to be closed now. -/
def ToClose (i : Inspection) (id : ConnectionId) : Prop :=
  i.next? = some id ∧ i.closing = true

/-- The round is over. -/
def IsOver (i : Inspection) : Prop :=
  i.round.isJudged = true ∧ i.round.dead.length ≤ i.done

instance (i : Inspection) (id : ConnectionId) : Decidable (i.ToRemove id) :=
  inferInstanceAs (Decidable (_ ∧ _))

instance (i : Inspection) (id : ConnectionId) : Decidable (i.ToClose id) :=
  inferInstanceAs (Decidable (_ ∧ _))

instance (i : Inspection) : Decidable i.IsOver :=
  inferInstanceAs (Decidable (_ ∧ _))

/-- The round looks at a connection, if it is one of its own and it has not looked at it yet. -/
def check (i : Inspection) (id : ConnectionId) : Inspection :=
  if (id, .unchecked) ∈ i.round.candidates then
    { i with
      board := (i.round.check i.now id i.board).2
      round := i.round.revise id fun _ => (i.round.check i.now id i.board).1 }
  else i

/-- The next dead connection is taken out. -/
def remove (i : Inspection) : Inspection :=
  match i.next?, i.closing with
  | some id, false =>
    { i with
      board := (i.board.withdraw id).2
      closing := true
      evicted := i.evicted + if (i.board.withdraw id).1 then 1 else 0 }
  | _, _ => i

/-- It is closed. -/
def close (i : Inspection) : Inspection :=
  match i.next?, i.closing with
  | some id, true =>
    { i with board := i.board.close id, done := i.done + 1, closing := false }
  | _, _ => i

/-- What there is after a move. -/
def step (i : Inspection) : Move → Inspection
  | .event e => { i with board := e.perform i.now i.board }
  | .check id => i.check id
  | .judge id => { i with round := i.round.revise id (Round.judge i.board) }
  | .remove => i.remove
  | .close => i.close
  | .wait span => { i with now := i.now + span, board := i.board.expire (i.now + span) }

/-- What there is after some moves. -/
def after (i : Inspection) (moves : List Move) : Inspection :=
  moves.foldl step i

variable {i i' : Inspection} {m : Move} {id : ConnectionId} {k : Candidacy} {t : Nat}

theorem after_nil (i : Inspection) : i.after [] = i := rfl

theorem after_cons (i : Inspection) (m : Move) (moves : List Move) :
    i.after (m :: moves) = (i.step m).after moves := rfl

theorem after_append (i : Inspection) (moves later : List Move) :
    i.after (moves ++ later) = (i.after moves).after later :=
  List.foldl_append

/-! ### What a move does -/

/-- A move has something to do. -/
def Acts (i : Inspection) : Move → Prop
  | .check id => (id, .unchecked) ∈ i.round.candidates
  | .remove => ∃ id, i.ToRemove id
  | .close => ∃ id, i.ToClose id
  | _ => True

/-- **What a move does.** -/
inductive Effect (i : Inspection) : Move → Inspection → Prop where
  /-- There is nothing to do. -/
  | idle {m : Move} (hidle : ¬i.Acts m) : Effect i m i
  /-- Something has happened to the switchboard. -/
  | happened {e : Watch.Event} : Effect i (.event e) { i with board := e.perform i.now i.board }
  /-- The round has looked at a connection. -/
  | looked {id : ConnectionId} (hnew : (id, .unchecked) ∈ i.round.candidates) :
      Effect i (.check id) { i with
        board := (i.round.check i.now id i.board).2
        round := i.round.revise id fun _ => (i.round.check i.now id i.board).1 }
  /-- It has learnt what has come of a ping. -/
  | judged {id : ConnectionId} :
      Effect i (.judge id) { i with round := i.round.revise id (Round.judge i.board) }
  /-- It has taken a connection out. -/
  | removed {id : ConnectionId} (hnext : i.ToRemove id) : Effect i .remove { i with
        board := (i.board.withdraw id).2
        closing := true
        evicted := i.evicted + if (i.board.withdraw id).1 then 1 else 0 }
  /-- It has closed a connection. -/
  | closed {id : ConnectionId} (hnext : i.ToClose id) : Effect i .close { i with
        board := i.board.close id
        done := i.done + 1
        closing := false }
  /-- Time has gone by. -/
  | waited {span : Nanos} : Effect i (.wait span) { i with
        now := i.now + span
        board := i.board.expire (i.now + span) }

theorem remove_of_toRemove (hnext : i.ToRemove id) : i.remove = { i with
    board := (i.board.withdraw id).2
    closing := true
    evicted := i.evicted + if (i.board.withdraw id).1 then 1 else 0 } := by
  unfold remove
  rw [hnext.1, hnext.2]

theorem close_of_toClose (hnext : i.ToClose id) : i.close = { i with
    board := i.board.close id
    done := i.done + 1
    closing := false } := by
  unfold close
  rw [hnext.1, hnext.2]

theorem effect_remove (i : Inspection) : i.Effect .remove i.remove := by
  by_cases hacts : ∃ id, i.ToRemove id
  · obtain ⟨id, hnext⟩ := hacts
    rw [remove_of_toRemove hnext]
    exact .removed hnext
  · have hsame : i.remove = i := by
      unfold remove
      split
      · next hnext hclosing => exact absurd ⟨_, hnext, hclosing⟩ hacts
      · rfl
    rw [hsame]
    exact .idle hacts

theorem effect_close (i : Inspection) : i.Effect .close i.close := by
  by_cases hacts : ∃ id, i.ToClose id
  · obtain ⟨id, hnext⟩ := hacts
    rw [close_of_toClose hnext]
    exact .closed hnext
  · have hsame : i.close = i := by
      unfold close
      split
      · next hnext hclosing => exact absurd ⟨_, hnext, hclosing⟩ hacts
      · rfl
    rw [hsame]
    exact .idle hacts

/-- **Every move has one of these effects.** -/
theorem effect (i : Inspection) (m : Move) : i.Effect m (i.step m) := by
  cases m with
  | event e => exact .happened
  | check id =>
    change i.Effect (.check id) (i.check id)
    unfold check
    split
    · next hnew => exact .looked hnew
    · next hnot => exact .idle hnot
  | judge id => exact .judged
  | remove => exact i.effect_remove
  | close => exact i.effect_close
  | wait span => exact .waited

/-! ### What is always so -/

/-- **The switchboard and the round fit together**, in a round over these connections. -/
structure Sound (writeWait liveness : Nanos) (ids : List ConnectionId) (i : Inspection) : Prop where
  /-- The connections belong to their users. -/
  owned : i.board.Owned
  /-- The number of the next ping is not taken. -/
  ticketed : i.board.Ticketed
  /-- So long the round waits for its pings. -/
  patience : i.round.writeWait = writeWait
  /-- So long a connection may be silent. -/
  window : i.round.liveness = liveness
  /-- These are its connections. -/
  same : i.round.candidates.map (·.1) = ids
  /-- No connection is in it twice. -/
  nodup : ids.Nodup
  /-- There is nothing in it that is no connection. -/
  known : ∀ id ∈ ids, ∃ c, i.board.connection? id = some c
  /-- A ping has no more time than it was given. -/
  timed : ∀ id t, (id, .pinged t) ∈ i.round.candidates → t < i.board.probes.size ∧
    ∀ time, i.board.probes.get? t = some (.waiting time) → time ≤ i.now + writeWait
  /-- Nobody is taken out before all are judged. -/
  early : i.round.isJudged = false → i.done = 0 ∧ i.closing = false

theorem sound_start {h : Switchboard} (hown : h.Owned) (hticketed : h.Ticketed)
    (now writeWait liveness : Nanos) :
    (start now writeWait liveness h).Sound writeWait liveness
      ((Round.start writeWait liveness h).candidates.map (·.1)) where
  owned := hown
  ticketed := hticketed
  patience := rfl
  window := rfl
  same := rfl
  nodup := Round.nodup_start hown writeWait liveness
  known id hid := by
    obtain ⟨⟨id, k⟩, hmem, rfl⟩ := List.mem_map.1 hid
    obtain ⟨-, user, hcurrent⟩ := Round.mem_start.1 hmem
    obtain ⟨c, hc, -⟩ := hown.current user id hcurrent
    exact ⟨c, hc⟩
  timed id t hmem := absurd (Round.mem_start.1 hmem).1 nofun
  early _ := ⟨rfl, rfl⟩

section

variable {writeWait liveness : Nanos} {ids : List ConnectionId}

theorem Effect.follows (hs : i.Sound writeWait liveness ids) (he : i.Effect m i') :
    i.board.Follows (fun _ _ => True) i'.board := by
  cases he with
  | happened => exact Watch.Event.follows hs.owned i.now _
  | looked =>
    rename_i id _
    rcases i.round.check_cases i.now id i.board with ⟨reason, he⟩ | he <;> rw [he]
    · exact .refl i.board
    · exact Switchboard.follows_probe id i.now i.round.writeWait
  | removed => exact Switchboard.follows_withdraw _
  | closed => exact Switchboard.follows_close _
  | waited => exact Switchboard.follows_expire _
  | _ => exact .refl i.board

/-- **One event only is a sign of life** of a connection, and nothing that the round does is. -/
theorem Effect.carries (hs : i.Sound writeWait liveness ids) (he : i.Effect m i') :
    i.board.Carries (fun id => m = .event (.touch id)) i'.board := by
  cases he with
  | happened =>
    exact (Watch.Event.carries hs.owned hs.ticketed i.now _).mono fun _ he =>
      congrArg Move.event he
  | looked => exact Round.carries_check hs.ticketed
  | removed => exact Switchboard.carries_withdraw _
  | closed => exact Switchboard.carries_close _
  | waited => exact Switchboard.carries_expire _
  | _ => exact .refl i.board

/-- Time does not go back. -/
theorem Effect.now_le (he : i.Effect m i') : i.now ≤ i'.now := by
  cases he with
  | waited => exact Nat.le_add_right ..
  | _ => exact Nat.le_refl _

theorem Effect.map_fst (he : i.Effect m i') :
    i'.round.candidates.map (·.1) = i.round.candidates.map (·.1) := by
  cases he with
  | looked => exact Round.map_fst_revise ..
  | judged => exact Round.map_fst_revise ..
  | _ => rfl

/-- **A round that is judged** does not change any more. -/
theorem Effect.round_eq (he : i.Effect m i') (hjudged : i.round.isJudged = true) :
    i'.round = i.round := by
  cases he with
  | looked hnew => exact absurd (Round.isJudged_iff.1 hjudged _ _ hnew) nofun
  | judged => exact Round.revise_judge_of_isJudged hjudged
  | _ => rfl

/-- A ping of the round was asked for before, or is asked for now. -/
theorem Effect.pinged (he : i.Effect m i') (hmem : (id, .pinged t) ∈ i'.round.candidates) :
    (id, .pinged t) ∈ i.round.candidates ∨
      (i.round.check i.now id i.board).1 = .pinged t ∧
        i'.board = (i.round.check i.now id i.board).2 := by
  cases he with
  | looked hnew =>
    obtain ⟨k', hold, hk⟩ := Round.mem_revise.1 hmem
    split at hk
    · next hid =>
      subst hid
      exact Or.inr ⟨hk.symm, rfl⟩
    · exact Or.inl (hk ▸ hold)
  | judged =>
    obtain ⟨k', hold, hk⟩ := Round.mem_revise.1 hmem
    split at hk
    · rw [Round.judge_eq (by rw [← hk]; rfl)] at hk
      exact Or.inl (hk ▸ hold)
    · exact Or.inl (hk ▸ hold)
  | _ => exact Or.inl hmem

/-- No connection is next before all are judged. -/
theorem next?_of_not_isJudged (hearly : i.round.isJudged = false) : i.next? = none := by
  rw [next?, hearly, if_neg Bool.false_ne_true]

theorem not_toRemove (hearly : i.round.isJudged = false) (id : ConnectionId) : ¬i.ToRemove id :=
  fun hnext => Option.some_ne_none id (hnext.1.symm.trans (next?_of_not_isJudged hearly))

theorem not_toClose (hearly : i.round.isJudged = false) (id : ConnectionId) : ¬i.ToClose id :=
  fun hnext => Option.some_ne_none id (hnext.1.symm.trans (next?_of_not_isJudged hearly))

/-- **What is always so**, by what each move does. -/
theorem Sound.effect (hs : i.Sound writeWait liveness ids) (he : i.Effect m i') :
    i'.Sound writeWait liveness ids where
  owned := hs.owned.follows (he.follows hs)
  ticketed := hs.ticketed.carries (he.carries hs)
  patience := by
    cases he with
    | _ => exact hs.patience
  window := by
    cases he with
    | _ => exact hs.window
  same := he.map_fst.trans hs.same
  nodup := hs.nodup
  known id hid := by
    obtain ⟨c, hold⟩ := hs.known id hid
    obtain ⟨c', hnew, -⟩ := (he.carries hs).connection id c hold
    exact ⟨c', hnew⟩
  timed id t hmem := by
    rcases he.pinged hmem with hold | ⟨hping, hboard⟩
    · obtain ⟨hlt, htime⟩ := hs.timed id t hold
      have hcarries := he.carries hs
      refine ⟨Nat.lt_of_lt_of_le hlt hcarries.size, fun time ht => ?_⟩
      exact Nat.le_trans (htime time (hcarries.deadline t time hlt ht))
        (Nat.add_le_add_right he.now_le _)
    · obtain ⟨hlt, htime⟩ := Round.check_pinged hs.ticketed hping
      rw [hboard]
      refine ⟨hlt, fun time ht => ?_⟩
      rw [htime time ht, hs.patience]
      exact Nat.add_le_add_right he.now_le _
  early hnot := by
    have hbefore : i.round.isJudged = false := by
      refine Bool.eq_false_iff.2 fun hjudged => ?_
      rw [he.round_eq hjudged, hjudged] at hnot
      exact absurd hnot nofun
    have hearly := hs.early hbefore
    cases he with
    | removed hnext => exact absurd hnext (not_toRemove hbefore _)
    | closed hnext => exact absurd hnext (not_toClose hbefore _)
    | _ => exact hearly

end

/-! ### All at once -/

/-- How a round looks at connections depends on how long it waits, and on how long they may be
silent. -/
theorem checkFrom_congr (r : Round) (candidates : List (ConnectionId × Candidacy)) (now : Nanos)
    (l : List (ConnectionId × Candidacy)) (h : Switchboard) :
    { r with candidates }.checkFrom now l h = r.checkFrom now l h := by
  induction l generalizing h with
  | nil => rfl
  | cons p rest ih =>
    obtain ⟨id, k⟩ := p
    have hcheck : { r with candidates }.check now id h = r.check now id h := rfl
    cases k <;> simp only [Round.checkFrom, hcheck, ih]

/-- Only what is known about one connection is revised. -/
theorem revise_append {r : Round} {f : Candidacy → Candidacy}
    {before rest : List (ConnectionId × Candidacy)} (hr : r.candidates = before ++ (id, k) :: rest)
    (hnodup : (r.candidates.map (·.1)).Nodup) :
    r.revise id f = { r with candidates := before ++ (id, f k) :: rest } := by
  rw [hr, List.map_append, List.map_cons, List.nodup_middle, List.nodup_cons] at hnodup
  have hothers : ∀ l : List (ConnectionId × Candidacy), id ∉ l.map (·.1) →
      l.map (fun p => (p.1, if p.1 = id then f p.2 else p.2)) = l := by
    intro l hnot
    refine (List.map_congr_left fun p hmem => ?_).trans (List.map_id' l)
    rw [if_neg]
    rintro rfl
    exact hnot (List.mem_map_of_mem hmem)
  have hnot := hnodup.1
  rw [List.mem_append, not_or] at hnot
  unfold Round.revise
  rw [hr, List.map_append, List.map_cons, hothers before hnot.1, hothers rest hnot.2, if_pos rfl]

/-- **Looking at connections in turn** is looking at them one by one. -/
theorem after_checks_from (before l : List (ConnectionId × Candidacy))
    (hc : i.round.candidates = before ++ l) (hnodup : (i.round.candidates.map (·.1)).Nodup) :
    i.after (l.map fun p => .check p.1) = { i with
      board := (i.round.checkFrom i.now l i.board).2
      round := { i.round with candidates := before ++ (i.round.checkFrom i.now l i.board).1 } } := by
  induction l generalizing i before with
  | nil =>
    simp only [List.map_nil, after_nil, Round.checkFrom, ← hc]
  | cons p rest ih =>
    obtain ⟨id, k⟩ := p
    rw [List.map_cons, after_cons]
    rcases i.round.checkFrom_cons i.now id k rest i.board with ⟨rfl, he⟩ | ⟨hk, he⟩
    · -- the connection is looked at, and what is known about it stands behind the others
      have hcheck : i.step (.check id) = { i with
          board := (i.round.check i.now id i.board).2
          round := { i.round with
            candidates := before ++ (id, (i.round.check i.now id i.board).1) :: rest } } := by
        change i.check id = _
        rw [check, if_pos (by rw [hc]; simp), revise_append hc hnodup]
      have hnodup' : ((before ++ (id, (i.round.check i.now id i.board).1) :: rest).map
          (·.1)).Nodup := by
        rw [hc] at hnodup
        simpa using hnodup
      rw [hcheck, ih (before ++ [(id, (i.round.check i.now id i.board).1)]) (by simp) hnodup', he]
      simp only [checkFrom_congr, List.append_assoc, List.singleton_append]
    · have hcheck : i.step (.check id) = i := by
        change i.check id = i
        refine if_neg fun hmem => hk ?_
        have hmem' : (id, k) ∈ i.round.candidates := by rw [hc]; simp
        exact (Prod.mk.inj (List.inj_on_of_nodup_map hnodup hmem' hmem rfl)).2
      rw [hcheck, ih (before ++ [(id, k)]) (by simpa using hc) hnodup, he]
      simp only [List.append_assoc, List.singleton_append]

/-- **Looking at all connections** is looking at them one by one. -/
theorem after_checks (hnodup : (i.round.candidates.map (·.1)).Nodup) :
    i.after (i.round.candidates.map fun p => .check p.1) = { i with
      board := (i.round.checkAll i.now i.board).2
      round := (i.round.checkAll i.now i.board).1 } :=
  after_checks_from [] i.round.candidates rfl hnodup

theorem after_judges_from (before l : List (ConnectionId × Candidacy))
    (hc : i.round.candidates = before ++ l) (hnodup : (i.round.candidates.map (·.1)).Nodup) :
    i.after (l.map fun p => .judge p.1) = { i with
      round := { i.round with
        candidates := before ++ l.map fun p => (p.1, Round.judge i.board p.2) } } := by
  induction l generalizing i before with
  | nil =>
    simp only [List.map_nil, after_nil, ← hc]
  | cons p rest ih =>
    obtain ⟨id, k⟩ := p
    have hjudge : i.step (.judge id) = { i with
        round := { i.round with candidates := before ++ (id, Round.judge i.board k) :: rest } } := by
      change { i with round := i.round.revise id (Round.judge i.board) } = _
      rw [revise_append hc hnodup]
    have hnodup' : ((before ++ (id, Round.judge i.board k) :: rest).map (·.1)).Nodup := by
      rw [hc] at hnodup
      simpa using hnodup
    rw [List.map_cons, after_cons, hjudge, ih (before ++ [(id, Round.judge i.board k)]) (by simp)
      hnodup']
    simp only [List.map_cons, List.append_assoc, List.singleton_append]

/-- **Judging all connections** is judging them one by one. -/
theorem after_judges (hnodup : (i.round.candidates.map (·.1)).Nodup) :
    i.after (i.round.candidates.map fun p => .judge p.1) =
      { i with round := i.round.judgeAll i.board } :=
  after_judges_from [] i.round.candidates rfl hnodup

/-- **Taking all dead connections out** is taking out and closing one by one. -/
theorem after_evictions {ids : List ConnectionId} (hjudged : i.round.isJudged = true)
    (hdead : i.round.dead.drop i.done = ids) (hclosing : i.closing = false)
    (hknown : ∀ id ∈ ids, ∃ c, i.board.connection? id = some c) :
    i.after (ids.flatMap fun _ => [.remove, .close]) = { i with
      board := (Round.evictAll ids i.board).2
      done := i.done + ids.length
      evicted := i.evicted + (Round.evictAll ids i.board).1 } := by
  induction ids generalizing i with
  | nil => rfl
  | cons id rest ih =>
    obtain ⟨c, hc⟩ := hknown id List.mem_cons_self
    have hevict := Switchboard.evict_eq_withdraw hc
    have hnext : i.next? = some id := by
      rw [next?, if_pos hjudged, ← List.head?_drop, hdead, List.head?_cons]
    have hremove : i.step .remove = { i with
        board := (i.board.withdraw id).2
        closing := true
        evicted := i.evicted + if (i.board.withdraw id).1 then 1 else 0 } :=
      remove_of_toRemove ⟨hnext, hclosing⟩
    -- both moves together are one eviction
    have hboth : (i.step .remove).step .close = { i with
        board := (i.board.evict id).2
        done := i.done + 1
        evicted := i.evicted + if (i.board.evict id).1 then 1 else 0 } := by
      have hclose : (i.step .remove).ToClose id := by
        rw [hremove]
        exact ⟨hnext, rfl⟩
      refine (close_of_toClose hclose).trans ?_
      rw [hremove, hevict, ← hclosing]
    have hrest : i.round.dead.drop (i.done + 1) = rest := by
      rw [← List.drop_drop, hdead]
      rfl
    have hknown' : ∀ id' ∈ rest, ∃ c, (i.board.evict id).2.connection? id' = some c := by
      intro id' hid'
      obtain ⟨c', hc'⟩ := hknown id' (List.mem_cons_of_mem _ hid')
      have hcarries : i.board.Carries (fun _ => False) (i.board.evict id).2 :=
        Switchboard.carries_evict id
      obtain ⟨c'', hc'', -⟩ := hcarries.connection id' c' hc'
      exact ⟨c'', hc''⟩
    rw [List.flatMap_cons, List.cons_append, List.cons_append, List.nil_append, after_cons,
      after_cons, hboth]
    refine (ih (i := { i with
      board := (i.board.evict id).2
      done := i.done + 1
      evicted := i.evicted + if (i.board.evict id).1 then 1 else 0 })
      hjudged hrest hclosing hknown').trans ?_
    rw [Round.evictAll, List.length_cons]
    simp only [Nat.add_assoc, Nat.add_comm 1]

/-! ### A round comes to its end -/

section

variable {writeWait liveness : Nanos} {ids : List ConnectionId}

theorem Sound.after (hs : i.Sound writeWait liveness ids) (moves : List Move) :
    (i.after moves).Sound writeWait liveness ids := by
  induction moves generalizing i with
  | nil => exact hs
  | cons m rest ih => exact ih (hs.effect (i.effect m))

theorem Sound.nodup_candidates (hs : i.Sound writeWait liveness ids) :
    (i.round.candidates.map (·.1)).Nodup :=
  hs.same.symm ▸ hs.nodup

/-- A dead connection is one of the switchboard. -/
theorem Sound.known_of_mem_dead (hs : i.Sound writeWait liveness ids) (hdead : id ∈ i.round.dead) :
    ∃ c, i.board.connection? id = some c := by
  obtain ⟨reason, hmem⟩ := Round.mem_dead.1 hdead
  exact hs.known id (hs.same ▸ List.mem_map_of_mem (f := (·.1)) hmem)

/-- **A round is judged when the time of its pings is over**: what has happened to the switchboard
cannot keep it from ending then. -/
theorem Sound.isJudged (hs : i.Sound writeWait liveness ids)
    (hlooked : ∀ id, (id, .unchecked) ∉ i.round.candidates) :
    (i.round.judgeAll (i.board.expire (i.now + writeWait))).isJudged = true := by
  refine Round.isJudged_iff.2 fun id k hmem => ?_
  obtain ⟨k', hold, rfl⟩ := Round.mem_judgeAll hmem
  refine Round.isJudged_judge (fun hk => hlooked id (hk ▸ hold)) ?_
  rintro t rfl hopen
  obtain ⟨-, htime⟩ := hs.timed id t hold
  unfold Switchboard.verdict? Switchboard.expire at hopen
  rw [Table.get?_mapValues] at hopen
  cases hget : i.board.probes.get? t with
  | none => simp [hget] at hopen
  | some state =>
    cases state with
    | settled written => simp [hget] at hopen
    | waiting time => simp [hget, htime time hget] at hopen

/-- The dead connections are taken out and closed, when all are judged. -/
theorem Sound.exists_isOver_of_isJudged (hs : i.Sound writeWait liveness ids)
    (hjudged : i.round.isJudged = true) :
    ∃ moves : List Move, (∀ m ∈ moves, m.IsOwn) ∧ (i.after moves).IsOver := by
  -- one that is taken out already is closed first
  have hopen : ∀ {i : Inspection}, i.Sound writeWait liveness ids → i.round.isJudged = true →
      i.closing = false →
      ∃ moves : List Move, (∀ m ∈ moves, m.IsOwn) ∧ (i.after moves).IsOver := by
    intro i hs hjudged hclosing
    have hknown : ∀ id ∈ i.round.dead.drop i.done, ∃ c, i.board.connection? id = some c :=
      fun id hid => hs.known_of_mem_dead (List.mem_of_mem_drop hid)
    refine ⟨(i.round.dead.drop i.done).flatMap fun _ => [.remove, .close], ?_, ?_⟩
    · intro m hm
      obtain ⟨_, -, hm⟩ := List.mem_flatMap.1 hm
      rcases List.mem_pair.1 hm with rfl | rfl <;> trivial
    · rw [after_evictions hjudged rfl hclosing hknown]
      refine ⟨hjudged, ?_⟩
      dsimp only
      rw [List.length_drop]
      exact Nat.sub_le_iff_le_add'.1 (Nat.le_refl _)
  cases hclosing : i.closing with
  | false => exact hopen hs hjudged hclosing
  | true =>
    cases hnext : i.next? with
    | none =>
      refine ⟨[], nofun, hjudged, ?_⟩
      rw [next?, if_pos hjudged] at hnext
      exact List.getElem?_eq_none_iff.1 hnext
    | some id =>
      have hclose : i.step .close = { i with
          board := i.board.close id, done := i.done + 1, closing := false } :=
        close_of_toClose ⟨hnext, hclosing⟩
      have hs' := hs.effect (i.effect .close)
      obtain ⟨moves, hown, hover⟩ := hopen hs' (by rw [hclose]; exact hjudged) (by rw [hclose])
      refine ⟨.close :: moves, ?_, hover⟩
      intro m hm
      rcases List.mem_cons.1 hm with rfl | hm
      · trivial
      · exact hown m hm

/-- **A round can always be brought to its end**, by its own moves, when the time that its pings have
is over. -/
theorem Sound.exists_isOver (hs : i.Sound writeWait liveness ids) :
    ∃ moves : List Move, (∀ m ∈ moves, m.IsOwn ∨ m = .wait writeWait) ∧
      (i.after moves).IsOver := by
  -- all are looked at, the time is over, and all are judged
  obtain ⟨i₁, hi₁⟩ : ∃ i₁, i.after (i.round.candidates.map fun p => .check p.1) = i₁ := ⟨_, rfl⟩
  have hs₁ : i₁.Sound writeWait liveness ids := hi₁ ▸ hs.after _
  have hlooked : ∀ id, (id, .unchecked) ∉ i₁.round.candidates := by
    intro id hmem
    rw [after_checks hs.nodup_candidates] at hi₁
    rw [← hi₁] at hmem
    exact Round.checkFrom_ne_unchecked hs.ticketed hs.nodup_candidates hmem rfl
  obtain ⟨i₂, hi₂⟩ : ∃ i₂, i₁.step (.wait writeWait) = i₂ := ⟨_, rfl⟩
  have hs₂ : i₂.Sound writeWait liveness ids := hi₂ ▸ hs₁.effect (i₁.effect _)
  have hjudged : (i₂.after (i₂.round.candidates.map fun p => .judge p.1)).round.isJudged = true := by
    rw [after_judges hs₂.nodup_candidates, ← hi₂]
    exact hs₁.isJudged hlooked
  obtain ⟨moves, hown, hover⟩ := (hs₂.after _).exists_isOver_of_isJudged hjudged
  refine ⟨(i.round.candidates.map fun p => .check p.1) ++ .wait writeWait ::
    ((i₂.round.candidates.map fun p => .judge p.1) ++ moves), ?_, ?_⟩
  · intro m hm
    simp only [List.mem_append, List.mem_map, List.mem_cons] at hm
    rcases hm with ⟨p, -, rfl⟩ | rfl | ⟨p, -, rfl⟩ | hm
    · exact Or.inl trivial
    · exact Or.inr rfl
    · exact Or.inl trivial
    · exact Or.inl (hown m hm)
  · rw [after_append, hi₁, after_cons, hi₂, after_append]
    exact hover

end

end Inspection

/-! ### Patrols -/

/-- **A round from its beginning on.** -/
structure Patrol where
  /-- When the round begins. -/
  start : Nanos
  /-- How long the writing of a ping may take. -/
  writeWait : Nanos
  /-- For how long nothing may come from a client. -/
  liveness : Nanos
  /-- Who is connected when the round begins. -/
  board : Switchboard
  /-- The connections belong to their users. -/
  owned : board.Owned
  /-- The number of the next ping is not taken. -/
  ticketed : board.Ticketed
  /-- What happens, in this order. -/
  move : Nat → Inspection.Move

namespace Patrol

/-- What there is after so many moves. -/
def inspection (p : Patrol) : Nat → Inspection
  | 0 => .start p.start p.writeWait p.liveness p.board
  | k + 1 => (p.inspection k).step (p.move k)

/-- The connections that are current when the round begins. -/
def ids (p : Patrol) : List ConnectionId :=
  p.board.snapshot.map (·.2)

variable {p : Patrol} {j k n t : Nat} {id : ConnectionId} {c : Candidacy}

theorem mem_ids : id ∈ p.ids ↔ ∃ user, p.board.current? user = some id := by
  unfold ids Switchboard.snapshot Switchboard.current?
  simp only [List.mem_map, Prod.exists, exists_eq_right, Table.mem_entries]

theorem inspection_succ {m : Inspection.Move} (hm : p.move k = m) :
    p.inspection (k + 1) = (p.inspection k).step m := by
  rw [← hm]
  rfl

theorem effect (p : Patrol) (k : Nat) :
    (p.inspection k).Effect (p.move k) (p.inspection (k + 1)) :=
  (p.inspection k).effect (p.move k)

theorem sound (p : Patrol) (k : Nat) : (p.inspection k).Sound p.writeWait p.liveness p.ids := by
  induction k with
  | zero =>
    have hids : (Round.start p.writeWait p.liveness p.board).candidates.map (·.1) = p.ids := by
      simp [Round.start, ids, Function.comp_def]
    exact hids ▸ Inspection.sound_start p.owned p.ticketed p.start p.writeWait p.liveness
  | succ k ih => exact ih.effect (p.effect k)

/-- Every connection of the round is known to it as something. -/
theorem mem_ids_iff (p : Patrol) (k : Nat) :
    id ∈ p.ids ↔ ∃ c, (id, c) ∈ (p.inspection k).round.candidates := by
  rw [← (p.sound k).same]
  simp

theorem carries (p : Patrol) (k : Nat) : (p.inspection k).board.Carries
    (fun id => p.move k = .event (.touch id)) (p.inspection (k + 1)).board :=
  (p.effect k).carries (p.sound k)

/-- Time does not go back. -/
theorem now_le (hjk : j ≤ k) : (p.inspection j).now ≤ (p.inspection k).now := by
  induction hjk with
  | refl => exact Nat.le_refl _
  | step _ ih => exact Nat.le_trans ih (p.effect _).now_le

end Patrol

end Rendezvous
