import Mathlib.Data.List.Basic
import Rendezvous.Proofs.Channel.Shift

/-!
# What a client gets

Whatever happens while a writer is at work, the client gets the texts that the queue took in the
order in which the queue took them, from the first one on and without a gap
(`Shift.Delivered.texts`). It may get fewer of them, since a writer that loses a frame is done, and
so is one that has written a closing frame: nothing happens to it any more
(`Shift.after_of_not_atWork`). Hence nothing is ever written behind a frame that was lost.

Whoever asked for a ping is told once what came of it, when the ping is written or lost
(`Shift.Delivered.told`). That it was written is said of a ping that was written within its time,
and of no other (`Shift.Delivered.answer`).
-/

namespace Rendezvous

/-! ### Pings that are settled -/

namespace Switchboard

variable {h : Switchboard} {ticket : Nat} {written : Bool}

theorem settled_settle (hsettled : h.probes.get? ticket = some (.settled written)) (ticket' : Nat)
    (written' : Bool) :
    (h.settle ticket' written').probes.get? ticket = some (.settled written) := by
  unfold settle
  by_cases he : ticket = ticket'
  · subst he
    rw [Table.get?_modify_self, hsettled]
    rfl
  · rw [Table.get?_modify_of_ne _ _ he, hsettled]

theorem settled_abandon (hsettled : h.probes.get? ticket = some (.settled written))
    (id : ConnectionId) : (h.abandon id).probes.get? ticket = some (.settled written) :=
  abandon_induction
    (p := fun h h' => h.probes.get? ticket = some (.settled written) →
      h'.probes.get? ticket = some (.settled written))
    (fun _ hs => hs) (fun _ _ _ hs hs' h => hs' (hs h)) (fun _ _ hs => hs)
    (fun _ _ hs => settled_settle hs _ false) h id hsettled

end Switchboard

namespace Shift

variable {s s' : Shift} {c c' : Connection}

/-! ### The end of a writer -/

theorem not_admits_of_finished (hphase : s.phase = .finished) (event : Writer.Event) :
    s.admits event = false := by
  unfold admits
  rw [hphase]

/-- **Nothing happens to a writer that is not at work.** -/
theorem step_of_not_atWork (h : ¬s.AtWork) (m : Move) :
    ¬(s.step m).AtWork ∧ (s.step m).log = s.log := by
  cases m with
  | disturb event =>
    change ¬(s.disturb event).AtWork ∧ (s.disturb event).log = s.log
    unfold disturb
    split
    · exact ⟨h, rfl⟩
    · exact ⟨h, rfl⟩
  | write event =>
    change ¬(s.write event).AtWork ∧ (s.write event).log = s.log
    have hcannot : ¬(s.stopped = false ∧ s.admits event = true) := by
      rintro ⟨hat, hadmits⟩
      refine h ⟨hat, fun hphase => ?_⟩
      rw [not_admits_of_finished hphase] at hadmits
      exact absurd hadmits (by simp)
    rw [write, if_neg hcannot]
    exact ⟨h, rfl⟩
  | stop =>
    change ¬s.stop.AtWork ∧ s.stop.log = s.log
    unfold AtWork at h
    rw [stop, if_neg h]
    exact ⟨h, rfl⟩
  | _ => exact ⟨h, rfl⟩

theorem after_of_not_atWork (h : ¬s.AtWork) (later : List Move) : (s.after later).log = s.log := by
  induction later generalizing s with
  | nil => rfl
  | cons m later ih =>
    obtain ⟨hnot, hlog⟩ := step_of_not_atWork h m
    exact (ih hnot).trans hlog

/-- A writer that has lost a frame or written a closing frame is done. -/
theorem Recorded.finished (h : s.Recorded) (hend : .close ∈ s.written ∨ s.lost ≠ []) :
    s.phase = .finished := by
  by_contra hnot
  obtain ⟨hlost, hclose⟩ := h.going hnot
  exact hend.elim hclose fun hne => hne hlost

/-! ### What is in the record -/

/-- **An incident is sound**: it could happen, and a frame was written or not according to its
time. -/
structure SoundIncident (i : Writer.Incident) : Prop where
  /-- The writer goes on from what it was doing. -/
  proceeds : ∃ next, Writer.Proceeds i.phase i.event next
  /-- A frame that is written is written within its time. -/
  written : ∀ frame, i.phase = .writing frame → i.event = .written →
    i.now ≤ i.since + Writer.budget frame
  /-- The time for a frame is over when it is said to be. -/
  timedOut : ∀ frame, i.phase = .writing frame → i.event = .timedOut →
    i.since + Writer.budget frame ≤ i.now

/-- What can happen is sound. -/
theorem soundIncident_of_admits {event : Writer.Event} (hadmits : s.admits event = true) :
    SoundIncident ⟨s.phase, event, s.since, s.now⟩ where
  proceeds := proceeds_of_admits hadmits
  written := by
    rintro frame (hphase : s.phase = .writing frame) (rfl : event = .written)
    rw [admits_written hphase] at hadmits
    exact of_decide_eq_true hadmits
  timedOut := by
    rintro frame (hphase : s.phase = .writing frame) (rfl : event = .timedOut)
    rw [admits_timedOut hphase] at hadmits
    exact of_decide_eq_true hadmits

/-- **All that has happened to a writer is sound.** -/
def Sound (s : Shift) : Prop :=
  ∀ i ∈ s.log, SoundIncident i

theorem Sound.concat (h : s.Sound) {i : Writer.Incident} (hi : SoundIncident i)
    (hlog : s'.log = s.log ++ [i]) : s'.Sound := by
  intro j hj
  rw [hlog] at hj
  rcases List.mem_append.1 hj with hj | hj
  · exact h j hj
  · rwa [List.mem_singleton.1 hj]

theorem Sound.effect {extra : List Outgoing} (h : s.Sound) (heffect : s.Effect c extra s' c') :
    s'.Sound := by
  cases heffect with
  | asked => exact h
  | took hat hphase hqueue =>
    refine h.concat ⟨⟨_, .takes _⟩, fun frame he => ?_, fun frame he => ?_⟩ rfl
    · exact absurd he (by simp)
    · exact absurd he (by simp)
  | went hat hadmits => exact h.concat (soundIncident_of_admits hadmits) rfl
  | ended hat hadmits => exact h.concat (soundIncident_of_admits hadmits) rfl
  | stopped => exact h

theorem Sound.after (h : s.Sound) (horderly : s.Orderly) (moves : List Move) :
    (s.after moves).Sound := by
  induction moves generalizing s with
  | nil => exact h
  | cons m moves ih =>
    have hnext := horderly.step m
    obtain ⟨c, hc, -⟩ := horderly
    obtain ⟨c', extra, -, heffect, -⟩ := s.effect hc m
    exact ih (h.effect heffect) hnext

/-! ### Delivery -/

/-- **The one who asked for a ping is told** when the writer is done with it. -/
theorem settled_occur {ticket : Nat} (hphase : s.phase = .writing (.probe ticket))
    {deadline : Nanos} (hwaiting : s.board.probes.get? ticket = some (.waiting deadline))
    {event : Writer.Event} (hadmits : s.admits event = true) :
    (s.occur event).board.probes.get? ticket = some (.settled (event = .written)) := by
  have hsettle : ∀ written, (s.board.settle ticket written).probes.get? ticket =
      some (.settled written) := by
    intro written
    unfold Switchboard.settle
    rw [Table.get?_modify_self, hwaiting]
    rfl
  -- a writer that is done drops its queue, which leaves this ping alone
  have hended : (((s.board.settle ticket false).close s.id).abandon s.id).probes.get? ticket =
      some (.settled false) :=
    Switchboard.settled_abandon (h := (s.board.settle ticket false).close s.id) (hsettle false) s.id
  unfold admits at hadmits
  rw [hphase] at hadmits
  unfold occur found Writer.advance
  rw [hphase]
  cases event with
  | took frame => exact absurd hadmits (by simp)
  | sawClosed => exact absurd hadmits (by simp)
  | written => exact hsettle true
  | failed => exact hended
  | timedOut => exact hended

/-- **What a client gets**, and what is told about pings. -/
structure Delivered (s : Shift) : Prop where
  /-- The texts that are written are the first ones that the queue took, in the same order. -/
  texts : Outgoing.texts s.written <+: s.accepted
  /-- After a closing frame, and after a frame that is lost, nothing is written or even begun. -/
  last : .close ∈ s.written ∨ s.lost ≠ [] → ∀ later,
    (s.after later).begun = s.begun ∧ (s.after later).written = s.written
  /-- About each ping that was taken from the queue something was told, once and in its turn, but
  for the one that is being written. -/
  told : Outgoing.tickets s.begun = s.told.map (·.1) ++ Outgoing.tickets s.phase.inHand
  /-- What is told is that the ping is written if it is, which is within its time, and that it is
  not if it cannot be written or its time is over. -/
  answer : ∀ i ∈ s.log, ∀ ticket, i.phase = .writing (.probe ticket) →
    (i.told? = some (ticket, true) ∧ i.event = .written ∧ i.now ≤ i.since + Limit.probeWrite) ∨
    (i.told? = some (ticket, false) ∧ i.event = .failed) ∨
    (i.told? = some (ticket, false) ∧ i.event = .timedOut ∧ i.since + Limit.probeWrite ≤ i.now)
  /-- This is told to the one who asked for the ping, and waits for it. -/
  settled : ∀ ticket, s.phase = .writing (.probe ticket) → s.stopped = false →
    ∀ deadline, s.board.probes.get? ticket = some (.waiting deadline) →
    ∀ event, s.admits event = true →
    (s.step (.write event)).board.probes.get? ticket = some (.settled (event = .written))

/-- **Texts are delivered in order**, and pings are answered, whatever happens while a writer is at
work. -/
theorem delivered (h : Switchboard) (user : UserId) (now : Nanos) (moves : List Move) :
    ((start h user now).after moves).Delivered := by
  have horderly := orderly_after h user now moves
  have hsound : ((start h user now).after moves).Sound :=
    Sound.after (fun i hi => absurd hi List.not_mem_nil) (orderly_start h user now) moves
  generalize (start h user now).after moves = s at horderly hsound
  obtain ⟨c, -, hrecorded, hstocked⟩ := horderly
  constructor
  case texts =>
    have hbegun : Outgoing.texts s.written <+: Outgoing.texts s.begun := by
      rw [hrecorded.begun, List.append_assoc, Outgoing.texts_append]
      exact List.prefix_append ..
    refine hbegun.trans ?_
    -- what was begun is the beginning of what the queue took, at work and afterwards
    by_cases hat : s.AtWork
    · exact hstocked.accepted hat ▸ List.prefix_append ..
    · exact (hstocked.gone hat).2.2
  case last =>
    intro hend later
    have hnot : ¬s.AtWork := fun hat => hat.2 (hrecorded.finished hend)
    have hlog := after_of_not_atWork hnot later
    exact ⟨congrArg (List.filterMap _) hlog, congrArg (List.filterMap _) hlog⟩
  case told => rw [hrecorded.begun, Outgoing.tickets_append, hrecorded.told]
  case answer =>
    rintro ⟨phase, event, since, time⟩ hi ticket rfl
    obtain ⟨⟨next, hproceeds⟩, hwritten, htimedOut⟩ := hsound _ hi
    cases hproceeds with
    | writes => exact Or.inl ⟨rfl, rfl, hwritten _ rfl rfl⟩
    | fails => exact Or.inr (Or.inl ⟨rfl, rfl⟩)
    | isLate => exact Or.inr (Or.inr ⟨rfl, rfl, htimedOut _ rfl rfl⟩)
  case settled =>
    intro ticket hphase hat deadline hwaiting event hadmits
    change (s.write event).board.probes.get? ticket = _
    rw [write, if_pos ⟨hat, hadmits⟩]
    exact settled_occur hphase hwaiting hadmits

end Shift

end Rendezvous
