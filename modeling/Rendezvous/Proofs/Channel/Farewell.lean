import Mathlib.Data.List.Basic
import Rendezvous.Proofs.Channel.Delivery
import Rendezvous.Rehearsal.Socket

/-!
# How a connection ends

A connection is closed when another one takes its place, when it is evicted, or when it is torn
down. Its flag goes up and stays up, and the writer, which watches the flag, says farewell with a
closing frame. Whether the client gets one is asked here of a socket that takes every frame at once:
no frame fails there, none is late, no time goes by while one is written, and nobody stops the
writer (`Shift.Smooth`). What else happens, and what the writer does where it can do several things,
is left open.

Such a writer is never stuck once the flag is up, and what it does is bounded by what waits in the
queue, so that it comes to its end (`Shift.PartsWell.progress`, `Shift.PartsWell.bounded`). It ends
in one of two ways (`Shift.PartsWell.done`). It has written one closing frame, which comes last. Or
it had taken a text, saw the flag before the text was written, and gave the text up: then there is
no closing frame. Texts are given up so that a client that does not read cannot hold its writer. But
the writer sees the flag and not the client, and treats a client that reads in the same way.
-/

namespace Rendezvous

/-- The pong that waits goes out behind everything else. -/
theorem WebSocket.Endpoint.outgoing_queueReply (e : Endpoint) :
    e.queueReply.outgoing = e.outgoing ++ (e.reply.map (·.write none)).getD [] := by
  unfold queueReply
  cases e.reply with
  | none => exact (List.append_nil _).symm
  | some reply => rfl

/-! ### How much a writer has to do -/

namespace Writer

/-- What a writer has to do at most, with so many frames in its queue: two things about each frame,
and two about the closing frame. -/
def Phase.toDo (waiting : Nat) : Phase → Nat
  | .waiting => 2 * waiting + 2
  | .writing .close => 1
  | .writing _ => 2 * waiting + 3
  | .finished => 0

theorem Phase.toDo_le (waiting : Nat) (phase : Phase) : phase.toDo waiting ≤ 2 * waiting + 3 := by
  unfold toDo
  split <;> omega

theorem Phase.toDo_mono {waiting waiting' : Nat} (hle : waiting ≤ waiting') (phase : Phase) :
    phase.toDo waiting ≤ phase.toDo waiting' := by
  unfold toDo
  split <;> omega

theorem Phase.toDo_add (waiting extra : Nat) (phase : Phase) :
    phase.toDo (waiting + extra) ≤ phase.toDo waiting + 2 * extra := by
  unfold toDo
  split <;> omega

/-- A frame that is taken leaves less to do. -/
theorem Phase.toDo_writing_lt (frame : Outgoing) (waiting : Nat) :
    (Phase.writing frame).toDo waiting < Phase.waiting.toDo (waiting + 1) := by
  cases frame <;> simp only [toDo] <;> omega

/-- And so does everything else. -/
theorem Proceeds.toDo_lt {phase next : Phase} {event : Event} (h : Proceeds phase event next)
    (htook : ∀ frame, event ≠ .took frame) (waiting : Nat) :
    next.toDo waiting < phase.toDo waiting := by
  cases h with
  | takes frame => exact absurd rfl (htook frame)
  | parts => simp only [Phase.toDo]; omega
  | @writes frame hne =>
    cases frame with
    | close => exact absurd rfl hne
    | _ => exact Nat.lt_succ_self _
  | fails frame => cases frame <;> exact Nat.zero_lt_succ _
  | isLate frame => cases frame <;> exact Nat.zero_lt_succ _
  | _ => exact Nat.zero_lt_succ _

end Writer

namespace Shift

variable {s s' : Shift} {c c' : Connection}

/-! ### Sockets that take every frame at once -/

/-- **A move that leaves the socket in peace.** -/
def Welcomes (s : Shift) : Move → Prop
  | .write event => event ≠ .failed ∧ event ≠ .timedOut
  | .stop => False
  | .wait _ => s.phase.inHand = []
  | _ => True

instance (s : Shift) (m : Move) : Decidable (s.Welcomes m) := by
  cases m <;> unfold Welcomes <;> infer_instance

/-- **The socket takes every frame at once**: none fails or is late, no time goes by while one is
written, and the writer is not stopped. -/
def Smooth (s : Shift) : List Move → Prop
  | [] => True
  | m :: moves => s.Welcomes m ∧ (s.step m).Smooth moves

instance decidableSmooth (s : Shift) : (moves : List Move) → Decidable (s.Smooth moves)
  | [] => isTrue trivial
  | m :: moves =>
    have : Decidable ((s.step m).Smooth moves) := decidableSmooth (s.step m) moves
    inferInstanceAs (Decidable (s.Welcomes m ∧ (s.step m).Smooth moves))

/-- **A shift without harm**, so far. -/
structure Healthy (s : Shift) : Prop where
  /-- The writer was not stopped. -/
  running : s.stopped = false
  /-- A frame that is being written was begun just now. -/
  prompt : ∀ frame, s.phase = .writing frame → s.now = s.since
  /-- No frame has failed or was late. -/
  unharmed : ∀ i ∈ s.log, i.event ≠ .failed ∧ i.event ≠ .timedOut

theorem healthy_start (h : Switchboard) (user : UserId) (now : Nanos) :
    (start h user now).Healthy where
  running := rfl
  prompt _ hphase := absurd hphase (by simp [start])
  unharmed _ hi := absurd hi List.not_mem_nil

theorem Healthy.step (h : s.Healthy) {m : Move} (hm : s.Welcomes m) : (s.step m).Healthy := by
  cases m with
  | disturb event =>
    change (s.disturb event).Healthy
    unfold disturb
    split
    · exact ⟨h.running, h.prompt, h.unharmed⟩
    · exact h
  | write event =>
    change (s.write event).Healthy
    unfold write
    split
    · -- with every event the writer begins with something new
      refine ⟨h.running, fun _ _ => rfl, fun i hi => ?_⟩
      rcases List.mem_append.1 hi with hi | hi
      · exact h.unharmed i hi
      · rw [List.mem_singleton.1 hi]
        exact hm
    · exact h
  | stop => exact absurd hm not_false
  | wait span =>
    -- time goes by only while nothing is being written
    refine ⟨h.running, fun frame hphase => ?_, h.unharmed⟩
    have hnone : s.phase.inHand = [] := hm
    rw [show s.phase = .writing frame from hphase] at hnone
    exact absurd hnone (by simp [Writer.Phase.inHand])
  | _ => exact ⟨h.running, h.prompt, h.unharmed⟩

theorem Healthy.after (h : s.Healthy) {moves : List Move} (hsmooth : s.Smooth moves) :
    (s.after moves).Healthy := by
  induction moves generalizing s with
  | nil => exact h
  | cons m moves ih => exact ih (h.step hsmooth.1) hsmooth.2

/-- **A writer that sees the flag is not stuck.** -/
theorem Healthy.not_stuck (h : s.Healthy) (hending : s.isEnding = true)
    (hphase : s.phase ≠ .finished) :
    ∃ event, s.Welcomes (.write event) ∧ s.admits event = true := by
  cases hp : s.phase with
  | finished => exact absurd hp hphase
  | waiting => exact ⟨.sawClosed, ⟨by decide, by decide⟩, by simpa [admits, hp] using hending⟩
  | writing frame =>
    refine ⟨.written, ⟨by decide, by decide⟩, ?_⟩
    rw [admits_written hp, h.prompt frame hp]
    exact decide_eq_true (Nat.le_add_right ..)

/-! ### The flag -/

theorem isEnding_of_connection (hc : s.connection? = some c) : s.isEnding = c.closed := by
  unfold isEnding
  rw [hc]
  rfl

theorem Effect.closed {extra : List Outgoing} (h : s.Effect c extra s' c')
    (hclosed : c.closed = true) : c'.closed = true := by
  cases h with
  | asked hone hroom hqueue hgone hkept => exact hkept hclosed
  | ended => exact Connection.closed_close c
  | _ => exact hclosed

/-- The flag stays up. -/
theorem isEnding_after (hc : s.connection? = some c) (hending : s.isEnding = true)
    (later : List Move) : (s.after later).isEnding = true := by
  induction later generalizing s c with
  | nil => exact hending
  | cons m later ih =>
    obtain ⟨c', extra, hc', heffect, -⟩ := s.effect hc m
    refine ih hc' ?_
    rw [isEnding_of_connection hc] at hending
    rw [isEnding_of_connection hc']
    exact heffect.closed hending

/-- The flag goes up with a call that closes the connection. -/
theorem isEnding_call (hc : s.connection? = some c) {call : RegistryCall}
    (hcloses : s.board.Closes s.id call) : (s.step (.call call)).isEnding = true := by
  have hc' : (s.step (.call call)).connection? = some c.close := by
    refine (s.board.connection?_perform call s.id).trans ?_
    rw [if_pos hcloses, show s.board.connection? s.id = some c from hc]
    rfl
  rw [isEnding_of_connection hc']
  exact Connection.closed_close c

/-! ### How much is left to do -/

theorem Effect.length_extra {extra : List Outgoing} (h : s.Effect c extra s' c') :
    extra.length ≤ 1 := by
  cases h with
  | asked hone => exact hone
  | _ => exact Nat.zero_le _

/-- **Whatever happens to a writer leaves it less to do**, but for the frames that come into its
queue. -/
theorem Effect.toDo_le {extra : List Outgoing} (h : s.Effect c extra s' c') :
    s'.log.length + s'.phase.toDo c'.queue.length ≤
      s.log.length + s.phase.toDo c.queue.length + 2 * extra.length := by
  have hone : ∀ i : Writer.Incident, (s.log ++ [i]).length = s.log.length + 1 :=
    fun i => List.length_append
  cases h with
  | asked _ _ hqueue =>
    -- a frame that comes into the queue is paid for by `extra`
    rw [hqueue, List.length_append]
    have hmore := s.phase.toDo_add c.queue.length extra.length
    dsimp only
    omega
  | @took board frame rest _ hphase hqueue =>
    -- the queue gets shorter by one, which is worth two: to take the frame and to write it
    rw [hphase, hqueue, hone]
    have htake := Writer.Phase.toDo_writing_lt frame rest.length
    dsimp only [List.length_cons, List.length_nil]
    omega
  | went _ _ hproceeds _ htook =>
    rw [hone]
    have hless := hproceeds.toDo_lt htook c.queue.length
    dsimp only [List.length_nil]
    omega
  | ended _ _ hproceeds =>
    rw [hone]
    have hless := hproceeds.toDo_lt hproceeds.not_took c.queue.length
    dsimp only [List.length_nil, Writer.Phase.toDo] at hless ⊢
    omega
  | stopped =>
    have hfewer := s.phase.toDo_mono (Nat.zero_le c.queue.length)
    dsimp only [Connection.abandon, List.length_nil]
    omega

/-- **How much happens to a writer** is bounded by what it has to do, and by the frames that others
ask for. -/
theorem length_log_after (hc : s.connection? = some c) (later : List Move) :
    (s.after later).log.length ≤
      s.log.length + s.phase.toDo c.queue.length + 2 * later.countP Move.Asks := by
  induction later generalizing s c with
  | nil => exact Nat.le_add_right ..
  | cons m later ih =>
    -- what is in the log and what is to do grow together by no more than what is asked for
    obtain ⟨c', extra, hc', heffect, hnone⟩ := s.effect hc m
    have hstep := heffect.toDo_le
    have hextra : extra.length ≤ if m.Asks then 1 else 0 := by
      cases hasks : m.Asks with
      | true => exact heffect.length_extra
      | false => exact (congrArg List.length (hnone hasks)).le
    have hrest : (s.after (m :: later)).log.length ≤ _ := ih hc'
    rw [List.countP_cons]
    omega

/-! ### The closing frame -/

/-- **A closing frame on its way**: on this socket it goes out behind what is still to go out, with
nothing after it but a pong that was promised, and the client finds the code of a normal closure
in it. -/
def SaysFarewell (socket : Rehearsal.Socket) : Prop :=
  ∃ endpoint frame, socket.encode? .close = some endpoint ∧
    endpoint.outgoing = socket.endpoint.outgoing ++ frame.write none ++
      (socket.endpoint.reply.map (·.write none)).getD [] ∧
    Rehearsal.Socket.seen frame = .close 1000

theorem says_farewell {socket : Rehearsal.Socket} (hnobody : socket.endpoint.closing = .nobody) :
    SaysFarewell socket := by
  let frame : WebSocket.Frame := ⟨true, false, .close, WebSocket.Endpoint.normalClosure⟩
  let sent : WebSocket.Endpoint :=
    { socket.endpoint with outgoing := socket.endpoint.outgoing ++ frame.write none }
  have hsend :
      socket.endpoint.send? .close WebSocket.Endpoint.normalClosure = some sent.queueReply :=
    if_pos hnobody
  exact ⟨{ sent.queueReply with closing := .byService }, frame, congrArg (Option.map _) hsend,
    sent.outgoing_queueReply, by decide⟩

/-- **A connection parts well from its client.** -/
structure PartsWell (s : Shift) : Prop where
  /-- The flag goes up when another connection takes the place of this one, when it is evicted, and
  when it is torn down. -/
  raised : ∀ call, s.board.Closes s.id call → (s.step (.call call)).isEnding = true
  /-- It stays up. -/
  kept : s.isEnding = true → ∀ later, (s.after later).isEnding = true
  /-- A writer that sees it and is not done can go on. -/
  progress : s.isEnding = true → s.phase ≠ .finished → ∃ event, s.Welcomes (.write event) ∧
    (s.step (.write event)).log = s.log ++ [⟨s.phase, event, s.since, s.now⟩]
  /-- It cannot go on for long, unless others give it more and more to do. -/
  bounded : ∀ later, (s.after later).log.length ≤
    s.log.length + 2 * s.queue.length + 3 + 2 * later.countP Move.Asks
  /-- A closing frame is written once, and after it nothing. -/
  last : .close ∈ s.written → (∃ frames, s.written = frames ++ [.close] ∧ .close ∉ frames) ∧
    ∀ later, (s.after later).written = s.written
  /-- A writer that is done has written a closing frame, or it has given up a text when it saw the
  flag, the only frame that it has lost, and has not written a closing frame. -/
  done : s.phase = .finished → (s.lost = [] ∧ .close ∈ s.written) ∨
    ∃ content since now, ⟨.writing (.text content), .sawClosed, since, now⟩ ∈ s.log ∧
      s.lost = [.text content] ∧ .close ∉ s.written
  /-- The closing frame has the code of a normal closure. -/
  code : ∀ socket : Rehearsal.Socket, socket.endpoint.closing = .nobody → SaysFarewell socket

/-- What is lost without harm is a text that was given up. -/
theorem gives_up (hhealthy : s.Healthy) (hsound : s.Sound) {frame : Outgoing}
    (hlost : frame ∈ s.lost) : ∃ content since now, frame = .text content ∧
      ⟨.writing (.text content), .sawClosed, since, now⟩ ∈ s.log := by
  obtain ⟨⟨phase, event, since, now⟩, hi, hframe⟩ := List.mem_filterMap.1 hlost
  obtain ⟨hfailed, htimedOut⟩ := hhealthy.unharmed _ hi
  obtain ⟨⟨next, hproceeds⟩, -, -⟩ := hsound _ hi
  cases hproceeds with
  | givesUp content => exact ⟨content, since, now, (Option.some.inj hframe).symm, hi⟩
  | fails => exact absurd rfl hfailed
  | isLate => exact absurd rfl htimedOut
  | writes hne =>
    rename_i frame'
    cases frame' <;> exact absurd hframe (by simp [Writer.Incident.lost?])
  | _ => exact absurd hframe (by simp [Writer.Incident.lost?])

/-- **On a socket that takes every frame at once a connection parts well**, whatever else
happens. -/
theorem parts_well (h : Switchboard) (user : UserId) (now : Nanos) (moves : List Move)
    (hsmooth : (start h user now).Smooth moves) : ((start h user now).after moves).PartsWell := by
  have hhealthy := (healthy_start h user now).after hsmooth
  have horderly := orderly_after h user now moves
  have hsound : ((start h user now).after moves).Sound :=
    Sound.after (fun i hi => absurd hi List.not_mem_nil) (orderly_start h user now) moves
  generalize (start h user now).after moves = s at hhealthy horderly hsound
  obtain ⟨c, hc, hrecorded, -⟩ := horderly
  constructor
  case raised => exact fun call hcloses => isEnding_call hc hcloses
  case kept => exact fun hending later => isEnding_after hc hending later
  case progress =>
    intro hending hphase
    obtain ⟨event, hwelcome, hadmits⟩ := hhealthy.not_stuck hending hphase
    refine ⟨event, hwelcome, ?_⟩
    change (s.write event).log = _
    rw [write, if_pos ⟨hhealthy.running, hadmits⟩]
    rfl
  case bounded =>
    intro later
    have hbound := length_log_after hc later
    have hmost := s.phase.toDo_le c.queue.length
    rw [show s.queue = c.queue by unfold queue; rw [hc]; rfl]
    omega
  case last =>
    intro hclose
    have hphase := hrecorded.finished (Or.inl hclose)
    refine ⟨?_, fun later => ?_⟩
    · rcases hrecorded.done hphase with ⟨-, hframes⟩ | ⟨frame, -, hnone⟩
      · exact hframes
      · exact absurd hclose hnone
    · exact congrArg (List.filterMap _) (after_of_not_atWork (fun hat => hat.2 hphase) later)
  case done =>
    intro hphase
    rcases hrecorded.done hphase with ⟨hlost, frames, hframes, -⟩ | ⟨frame, hlost, hnone⟩
    · refine Or.inl ⟨hlost, ?_⟩
      rw [hframes]
      exact List.mem_append_right _ (List.mem_singleton_self _)
    · obtain ⟨content, since, time, rfl, hi⟩ :=
        gives_up hhealthy hsound (hlost ▸ List.mem_singleton_self frame)
      exact Or.inr ⟨content, since, time, hi, hlost, hnone⟩
  case code => exact fun socket hnobody => says_farewell hnobody

/-- A text is written, another connection takes the place of this one, and the closing frame is
written. -/
theorem parts_well_hello :
    let moves : List Move :=
      [.call (.register 0), .push "hello", .write (.took (.text "hello")), .write .written,
        .disturb (.arrive 1), .call (.register 1), .write .sawClosed, .write .written]
    ((start .empty 1 0).Smooth moves ∧ ((start .empty 1 0).after moves).PartsWell) ∧
      ((start .empty 1 0).after moves).written = [.text "hello", .close] :=
  ⟨⟨by decide, parts_well .empty 1 0 _ (by decide)⟩, by decide⟩

/-- **A text in hand costs the closing frame.** The socket takes every frame at once, and another
connection takes the place of this one, but the writer sees the flag with a text in hand and
ends. -/
theorem gives_up_hello :
    let moves : List Move :=
      [.call (.register 0), .push "hello", .write (.took (.text "hello")), .disturb (.arrive 1)]
    let later : List Move := [.call (.register 1), .write .sawClosed]
    ((start .empty 1 0).after moves).board.Closes 0 (.register 1) ∧
      (start .empty 1 0).Smooth (moves ++ later) ∧
      ((start .empty 1 0).after (moves ++ later)).phase = .finished ∧
      ((start .empty 1 0).after (moves ++ later)).written = [] := by
  decide

end Shift

end Rendezvous
