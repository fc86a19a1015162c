import Rendezvous.Proofs.Channel.Shift

/-!
# Frames behind a closing frame

When a connection is closed, its flag goes up, and a closing frame is put into its queue if there is
room. Whether the queue takes a frame after that depends on the queue as before, and not on the flag:
a text is refused if the writer is gone or the queue is full (`Connection.TakesWhileClosing.accepts`),
and otherwise it waits behind the closing frame, and its sender is told that it was taken
(`Connection.TakesWhileClosing.told`).

What is in the queue is always an end of what the queue has taken, in its order, since the writer
takes the frames one after the other (`Connection.exists_drop`). There is one closing frame in it at
most.

The writer ends with the closing frame. So of the texts that were taken behind it none is ever
written, whatever was said to their senders (`Shift.begun_of_sealed`).
-/

namespace Rendezvous

namespace Connection

/-! ### Calls to a connection -/

/-- What the service does to a connection, or its writer. -/
inductive Call where
  /-- A text for the client. -/
  | push (content : String)
  /-- A ping is asked for. -/
  | probe (ticket : Nat)
  /-- The connection is to end. -/
  | close
  /-- The writer takes a frame. -/
  | take
  /-- The writer is gone. -/
  | abandon
  deriving DecidableEq

/-- A connection after a call. -/
def perform (c : Connection) : Call → Connection
  | .push content => (c.push content).2
  | .probe ticket => (c.offer (.probe ticket)).2
  | .close => c.close
  | .take => (c.take?.map (·.2)).getD c
  | .abandon => c.abandon

/-- A connection after some calls. -/
def after (c : Connection) (calls : List Call) : Connection :=
  calls.foldl perform c

/-- What comes into the queue with a call. -/
def incoming (c : Connection) : Call → List Outgoing
  | .push content => if c.hasRoom then [.text content] else []
  | .probe ticket => if c.hasRoom then [.probe ticket] else []
  | .close => if c.closed = false ∧ c.hasRoom = true then [.close] else []
  | _ => []

/-- What the writer takes with a call. -/
def outgoing (c : Connection) : Call → List Outgoing
  | .take => c.queue.head?.toList
  | _ => []

/-- The frames that the queue takes, in their order. -/
def accepted (c : Connection) : List Call → List Outgoing
  | [] => []
  | call :: rest => c.incoming call ++ (c.perform call).accepted rest

/-- The frames that the writer takes, in their order. -/
def taken (c : Connection) : List Call → List Outgoing
  | [] => []
  | call :: rest => c.outgoing call ++ (c.perform call).taken rest

variable {c : Connection} {call : Call} {calls : List Call}

theorem after_cons (c : Connection) (call : Call) (calls : List Call) :
    c.after (call :: calls) = (c.perform call).after calls := rfl

theorem after_append (c : Connection) (calls later : List Call) :
    c.after (calls ++ later) = (c.after calls).after later :=
  List.foldl_append

theorem hasRoom_iff :
    c.hasRoom = true ↔ c.writerGone = false ∧ c.queue.length < Limit.outboundFrames := by
  simp [hasRoom]

theorem offer_eq (c : Connection) (frame : Outgoing) : c.offer frame =
    (c.hasRoom, { c with queue := c.queue ++ if c.hasRoom then [frame] else [] }) := by
  unfold offer
  cases c.hasRoom <;> simp

theorem close_eq (c : Connection) : c.close =
    { c with
      closed := true
      queue := c.queue ++ if c.closed = false ∧ c.hasRoom = true then [.close] else [] } := by
  unfold close
  cases hflag : c.closed with
  | true =>
    obtain ⟨user, openedAt, lastSeen, queue, writerGone, closed⟩ := c
    obtain rfl : closed = true := hflag
    simp
  | false =>
    rw [if_neg Bool.false_ne_true, offer_eq]
    simp [hasRoom]

/-! ### What is in the queue -/

/-- **First come, first served**: what was in the queue and what comes into it is what the writer
takes and what is in it then. -/
theorem queue_perform (hstays : call ≠ .abandon) :
    c.queue ++ c.incoming call = c.outgoing call ++ (c.perform call).queue := by
  cases call with
  | push content => exact congrArg (·.2.queue) (c.offer_eq (.text content)).symm
  | probe ticket => exact congrArg (·.2.queue) (c.offer_eq (.probe ticket)).symm
  | close => exact congrArg (·.queue) c.close_eq.symm
  | take =>
    unfold incoming outgoing perform take?
    cases hqueue : c.queue with
    | nil => simp [hqueue]
    | cons frame rest => simp
  | abandon => exact absurd rfl hstays

/-- And so it is after any number of calls, as long as the writer is there. -/
theorem queue_after (hstays : .abandon ∉ calls) :
    c.queue ++ c.accepted calls = c.taken calls ++ (c.after calls).queue := by
  induction calls generalizing c with
  | nil => simp [accepted, taken, after]
  | cons call rest ih =>
    obtain ⟨hcall, hrest⟩ := not_or.1 (mt List.mem_cons.2 hstays)
    calc c.queue ++ (c.incoming call ++ (c.perform call).accepted rest)
      _ = (c.queue ++ c.incoming call) ++ (c.perform call).accepted rest := by
        rw [List.append_assoc]
      _ = c.outgoing call ++ ((c.perform call).queue ++ (c.perform call).accepted rest) := by
        rw [queue_perform (Ne.symm hcall), List.append_assoc]
      _ = c.outgoing call ++ (c.perform call).taken rest ++ (c.after (call :: rest)).queue := by
        rw [ih hrest, List.append_assoc, after_cons]

theorem writerGone_perform (c : Connection) (call : Call) :
    (c.perform call).writerGone = true ↔ c.writerGone = true ∨ call = .abandon := by
  cases call with
  | push content => simp [perform, push, offer_eq]
  | probe ticket => simp [perform, offer_eq]
  | close => simp [perform, close_eq]
  | take =>
    unfold perform take?
    cases c.queue <;> simp
  | abandon => simp [perform, Connection.abandon]

/-- **A flag that goes up with one call**, and stays up, is up if it was or if that call was made. -/
theorem flag_after {flag : Connection → Bool} {raises : Call}
    (hflag : ∀ c call, flag (c.perform call) = true ↔ flag c = true ∨ call = raises)
    (c : Connection) (calls : List Call) :
    flag (c.after calls) = true ↔ flag c = true ∨ raises ∈ calls := by
  induction calls generalizing c with
  | nil => simp [after]
  | cons call rest ih => rw [after_cons, ih, hflag, List.mem_cons, or_assoc, eq_comm (a := call)]

theorem writerGone_after (c : Connection) (calls : List Call) :
    (c.after calls).writerGone = true ↔ c.writerGone = true ∨ .abandon ∈ calls :=
  flag_after writerGone_perform c calls

theorem closed_perform (c : Connection) (call : Call) :
    (c.perform call).closed = true ↔ c.closed = true ∨ call = .close := by
  cases call with
  | push content => simp [perform, push, offer_eq]
  | probe ticket => simp [perform, offer_eq]
  | close => simp [perform, close_eq]
  | take =>
    unfold perform take?
    cases c.queue <;> simp
  | abandon => simp [perform, Connection.abandon]

theorem closed_after (c : Connection) (calls : List Call) :
    (c.after calls).closed = true ↔ c.closed = true ∨ .close ∈ calls :=
  flag_after closed_perform c calls

/-- A queue whose writer is gone is empty. -/
def Cleared (c : Connection) : Prop :=
  c.writerGone = true → c.queue = []

theorem cleared_opened (user : UserId) (now : Nanos) : (opened user now).Cleared :=
  fun hgone => absurd hgone nofun

/-- Nothing comes into a queue whose writer is gone. -/
theorem incoming_of_gone (hgone : c.writerGone = true) (call : Call) : c.incoming call = [] := by
  have hfull : c.hasRoom = false := by simp [hasRoom, hgone]
  cases call <;> simp [incoming, hfull]

theorem Cleared.perform (hc : c.Cleared) (call : Call) : (c.perform call).Cleared := by
  intro hgone
  by_cases hcall : call = .abandon
  · subst hcall
    rfl
  · have hgone' := ((c.writerGone_perform call).1 hgone).resolve_right hcall
    have hqueue := c.queue_perform hcall
    rw [hc hgone', incoming_of_gone hgone'] at hqueue
    exact (List.append_eq_nil_iff.1 hqueue.symm).2

theorem Cleared.after (hc : c.Cleared) (calls : List Call) : (c.after calls).Cleared := by
  induction calls generalizing c with
  | nil => exact hc
  | cons call rest ih => exact ih (hc.perform call)

/-- **What is in the queue is an end of what it has taken.** -/
theorem exists_drop (hc : c.Cleared) (calls : List Call) :
    ∃ k, (c.after calls).queue = (c.queue ++ c.accepted calls).drop k := by
  by_cases hgone : .abandon ∈ calls
  · refine ⟨(c.queue ++ c.accepted calls).length, ?_⟩
    rw [List.drop_length]
    exact hc.after calls ((c.writerGone_after calls).2 (Or.inr hgone))
  · refine ⟨(c.taken calls).length, ?_⟩
    rw [queue_after hgone, List.drop_left]

/-! ### The closing frame -/

theorem accepted_append (c : Connection) (calls later : List Call) :
    c.accepted (calls ++ later) = c.accepted calls ++ (c.after calls).accepted later := by
  induction calls generalizing c with
  | nil => rfl
  | cons call rest ih =>
    rw [List.cons_append, accepted, ih, accepted, List.append_assoc, after_cons]

/-- Only the first call that closes a connection brings a closing frame. -/
theorem eq_close_of_mem_incoming (hmem : .close ∈ c.incoming call) :
    call = .close ∧ c.closed = false := by
  unfold incoming at hmem
  split at hmem
  · split at hmem <;> simp at hmem
  · split at hmem <;> simp at hmem
  · split at hmem
    · next hopen => exact ⟨rfl, hopen.1⟩
    · exact absurd hmem List.not_mem_nil
  · exact absurd hmem List.not_mem_nil

/-- There is no closing frame before the connection is closed, and none after that. -/
theorem close_not_mem_accepted (hnone : c.closed = true ∨ .close ∉ calls) :
    .close ∉ c.accepted calls := by
  induction calls generalizing c with
  | nil => exact List.not_mem_nil
  | cons call rest ih =>
    rw [accepted, List.mem_append, not_or]
    constructor
    · intro hmem
      obtain ⟨rfl, hopen⟩ := eq_close_of_mem_incoming hmem
      rcases hnone with hclosed | hnot
      · exact absurd (hopen.symm.trans hclosed) nofun
      · exact hnot List.mem_cons_self
    · refine ih (hnone.imp (fun hclosed => (c.closed_perform call).2 (Or.inl hclosed)) ?_)
      exact mt (List.mem_cons_of_mem call)

/-- A connection to which some calls are made, then it is closed, and then others are made. -/
def closing (user : UserId) (now : Nanos) (before later : List Call) : Connection :=
  ((opened user now).after before).close.after later

/-- What the queue took before the connection was closed, and the closing frame, if there was room
for it. -/
def takenFirst (user : UserId) (now : Nanos) (before : List Call) : List Outgoing :=
  (opened user now).accepted before ++ ((opened user now).after before).incoming .close

/-- **What becomes of the queue of a connection that was closed.** -/
structure TakesWhileClosing (user : UserId) (now : Nanos) (before later : List Call) : Prop where
  /-- The flag is up. -/
  flag : (closing user now before later).closed = true
  /-- A text is taken if the writer is there and the queue is not full. -/
  accepts : ∀ content, ((closing user now before later).push content).1 = true ↔
    .abandon ∉ before ++ later ∧
      (closing user now before later).queue.length < Limit.outboundFrames
  /-- Then it is the last in the queue, and otherwise nothing happens. -/
  pushed : ∀ content, ((closing user now before later).push content).2.queue =
    (closing user now before later).queue ++
      if ((closing user now before later).push content).1 then [.text content] else []
  /-- What is in the queue is an end of what was taken before, the closing frame, and what was taken
  later. -/
  queue : ∃ k, (closing user now before later).queue = (takenFirst user now before ++
    ((opened user now).after before).close.accepted later).drop k
  /-- There is no second closing frame. -/
  once : .close ∉ (opened user now).accepted before ∧
    .close ∉ ((opened user now).after before).close.accepted later
  /-- A sender is told that a notice was taken, if it was. -/
  told : ∀ (h : Switchboard) (id : ConnectionId) (receiver : UserId) (notice : Notice),
    h.current? receiver = some id → h.connection? id = some (closing user now before later) →
    ((h.send receiver notice).1 = true ↔ .abandon ∉ before ++ later ∧
      (closing user now before later).queue.length < Limit.outboundFrames)

/-- **The queue of a connection that was closed takes texts as before**, behind the closing frame. -/
theorem takesWhileClosing (user : UserId) (now : Nanos) {before : List Call}
    (hfirst : .close ∉ before) (later : List Call) : TakesWhileClosing user now before later := by
  have hwhole : closing user now before later =
      (opened user now).after (before ++ .close :: later) :=
    ((opened user now).after_append before (.close :: later)).symm
  have hclosed : ((opened user now).after before).close.closed = true := closed_close _
  have hgone : (closing user now before later).writerGone = false ↔ .abandon ∉ before ++ later := by
    rw [← Bool.not_eq_true, hwhole, writerGone_after]
    simp [opened]
  have haccepts : ∀ content, ((closing user now before later).push content).1 = true ↔
      .abandon ∉ before ++ later ∧
        (closing user now before later).queue.length < Limit.outboundFrames := by
    intro content
    rw [push, offer_eq, hasRoom_iff, hgone]
  constructor
  case flag => exact (closed_after _ later).2 (Or.inl hclosed)
  case accepts => exact haccepts
  case pushed =>
    intro content
    rw [push, offer_eq]
  case queue =>
    rw [hwhole]
    unfold takenFirst
    rw [List.append_assoc]
    have haccepted := (opened user now).accepted_append before (.close :: later)
    exact haccepted ▸ exists_drop (cleared_opened user now) (before ++ .close :: later)
  case once =>
    exact ⟨close_not_mem_accepted (Or.inr hfirst), close_not_mem_accepted (Or.inl hclosed)⟩
  case told =>
    intro h id receiver notice hcurrent hc
    rw [← haccepts notice.encode]
    unfold Switchboard.send Switchboard.pushText Switchboard.push
    simp only [hcurrent, hc]

/-- A text is taken behind the closing frame, with a ping before it. -/
theorem takesWhileClosing_pinged :
    .close ∉ [Call.push "early", .take] ∧
    (closing 1 0 [.push "early", .take] [.probe 0]).queue = [.close, .probe 0] ∧
    TakesWhileClosing 1 0 [.push "early", .take] [.probe 0] :=
  ⟨by decide, by decide +kernel, takesWhileClosing 1 0 (by decide) [.probe 0]⟩

/-- **A connection that was closed keeps everything back**: it takes no text, there is nothing in its
queue that was not there before but a closing frame, and no sender is told that a notice was taken. -/
structure KeepsBack (user : UserId) (now : Nanos) (before later : List Call) : Prop where
  /-- A text is refused, and nothing happens. -/
  refuses : ∀ content, (closing user now before later).push content =
    (false, closing user now before later)
  /-- What is in the queue is an end of what was taken before, and the closing frame. -/
  queue : ∃ k, (closing user now before later).queue = (takenFirst user now before).drop k
  /-- No sender is told that a notice was taken. -/
  untold : ∀ (h : Switchboard) (id : ConnectionId) (receiver : UserId) (notice : Notice),
    h.current? receiver = some id → h.connection? id = some (closing user now before later) →
    (h.send receiver notice).1 = false

/-- **It does not**: a text that comes after the closing frame is taken, and it stands in the queue
behind it. -/
theorem not_keepsBack : ¬∀ user now before later, .close ∉ before →
    KeepsBack user now before later := by
  intro hall
  have htaken : ((closing 1 0 [.push "before"] []).push "after").1 = true := by decide +kernel
  have hrefused := (hall 1 0 [.push "before"] [] (by decide)).refuses "after"
  rw [hrefused] at htaken
  exact absurd htaken nofun

end Connection

/-! ### The switchboard -/

namespace Switchboard

variable {h : Switchboard} {id : ConnectionId} {c : Connection}

/-- The switchboard after a call to one of its connections. A ping gets the number of the next
ticket. -/
def call (h : Switchboard) (id : ConnectionId) (now wait : Nanos) : Connection.Call → Switchboard
  | .push content => (h.push id content).2
  | .probe _ => (h.probe id now wait).2
  | .close => h.close id
  | .take => ((h.take? id).map (·.2)).getD h
  | .abandon => h.abandon id

/-- **The connection of a switchboard after a call** is what the call makes of it. -/
theorem connection?_call (hc : h.connection? id = some c) (now wait : Nanos)
    {call : Connection.Call} (hticket : ∀ ticket, call = .probe ticket → ticket = h.probes.size) :
    (h.call id now wait call).connection? id = some (c.perform call) := by
  cases call with
  | push content => exact (connection?_push hc content).2
  | probe ticket =>
    obtain rfl := hticket ticket rfl
    exact connection?_probe hc now wait
  | close => exact (h.connection?_close id id).trans (by rw [if_pos rfl, hc]; rfl)
  | take =>
    change (((h.take? id).map (·.2)).getD h).connection? id = some ((c.take?.map (·.2)).getD c)
    cases hqueue : c.queue with
    | nil => simp [take?, Connection.take?, hc, hqueue]
    | cons frame rest =>
      obtain ⟨h', htake, hc'⟩ := connection?_take? hc hqueue
      simp [htake, hc', Connection.take?, hqueue]
  | abandon => exact connection?_abandon hc

end Switchboard

/-! ### What the writer does not write -/

/-- A writer that goes on does not write a closing frame. -/
theorem Writer.Proceeds.ne_close {phase next : Phase} {event : Event}
    (h : Proceeds phase event next) (hnext : next ≠ .finished) : phase ≠ .writing .close := by
  rintro rfl
  cases h with
  | writes hne => exact hne rfl
  | _ => exact hnext rfl

namespace Shift

variable {s s' : Shift} {c c' : Connection} {promised : List String} {extra : List Outgoing}

/-- **A closing frame comes before whatever is not promised**: it is in the queue behind these texts,
or in hand, and the writer has begun with none that is not among them. -/
structure Sealed (promised : List String) (s : Shift) (c : Connection) : Prop where
  /-- The texts that the writer has begun. -/
  begun : Outgoing.texts s.begun <+: promised
  /-- The closing frame is in hand, or in the queue. -/
  ahead : s.AtWork → s.phase = .writing .close ∨ ∃ front back,
    c.queue = front ++ .close :: back ∧
      Outgoing.texts s.begun ++ Outgoing.texts front = promised

/-- **A closing frame that is ahead stays ahead**, whatever happens. -/
theorem Sealed.effect (h : s.Sealed promised c) (heffect : s.Effect c extra s' c') :
    s'.Sealed promised c' := by
  cases heffect with
  | asked hone hroom hqueue hgone hclosed =>
    refine ⟨h.begun, fun hat => (h.ahead hat).imp_right ?_⟩
    rintro ⟨front, back, hahead, htexts⟩
    exact ⟨front, back ++ extra, by rw [hqueue, hahead]; simp, htexts⟩
  | @took board frame rest hat hphase hqueue =>
    rcases h.ahead ⟨hat, by simp [hphase]⟩ with hclose | ⟨front, back, hahead, htexts⟩
    · exact absurd (hphase.symm.trans hclose) nofun
    have hbegun : Shift.begun { s with
        board, phase := .writing frame, since := s.now,
        log := s.log ++ [⟨.waiting, .took frame, s.since, s.now⟩] } = s.begun ++ [frame] := by
      rw [(lists_of_log rfl).1]
      rfl
    rw [hqueue] at hahead
    cases front with
    | nil =>
      obtain ⟨rfl, rfl⟩ := List.cons.inj hahead
      refine ⟨?_, fun _ => Or.inl rfl⟩
      rw [hbegun, Outgoing.texts_append]
      exact (List.append_nil _).symm ▸ h.begun
    | cons first front =>
      obtain ⟨rfl, rfl⟩ := List.cons.inj hahead
      have hsplit : Outgoing.texts (s.begun ++ [frame]) ++ Outgoing.texts front = promised := by
        rw [← htexts, ← Outgoing.texts_append, ← Outgoing.texts_append, List.append_assoc]
        rfl
      rw [← hbegun] at hsplit
      exact ⟨⟨_, hsplit⟩, fun _ => Or.inr ⟨front, back, rfl, hsplit⟩⟩
  | @went board event next hat hadmits hproceeds hnext htook =>
    have hbegun : Outgoing.texts (Shift.begun { s with
        board, phase := next, since := s.now,
        log := s.log ++ [⟨s.phase, event, s.since, s.now⟩] }) = Outgoing.texts s.begun := by
      rw [(lists_of_log rfl).1, Outgoing.texts_append, hproceeds.texts_begun htook, List.append_nil]
    refine ⟨hbegun ▸ h.begun, fun _ => ?_⟩
    rw [hbegun]
    exact Or.inr ((h.ahead ⟨hat, hproceeds.ne_finished⟩).resolve_left (hproceeds.ne_close hnext))
  | @ended board event hat hadmits hproceeds =>
    refine ⟨?_, fun hat' => absurd rfl hat'.2⟩
    rw [(lists_of_log rfl).1, Outgoing.texts_append, hproceeds.texts_begun hproceeds.not_took,
      List.append_nil]
    exact h.begun
  | stopped hat hphase => exact ⟨h.begun, fun hat' => absurd hat'.1 (by simp)⟩

theorem Sealed.after (h : s.Sealed promised c) (hc : s.connection? = some c) (moves : List Move) :
    ∃ c', (s.after moves).connection? = some c' ∧ (s.after moves).Sealed promised c' := by
  induction moves generalizing s c with
  | nil => exact ⟨c, hc, h⟩
  | cons m moves ih =>
    obtain ⟨c', extra, hc', heffect, -⟩ := s.effect hc m
    exact ih (h.effect heffect) hc'

/-- **A text that is taken behind the closing frame is never written.** When the closing frame is the
last in the queue, the writer begins with no other texts than those that were taken by then, whatever
happens. -/
theorem begun_of_sealed (horderly : s.Orderly) {front : List Outgoing}
    (hlast : s.queue = front ++ [.close]) (moves : List Move) :
    Outgoing.texts (s.after moves).begun <+: s.accepted := by
  obtain ⟨c, hc, -, hstocked⟩ := horderly
  have hqueue : c.queue = front ++ [.close] := by
    rw [← hlast, queue, hc]
    rfl
  have hat : s.AtWork := by
    by_contra hnot
    rw [(hstocked.gone hnot).2.1] at hqueue
    exact absurd hqueue.symm (by simp)
  have htexts : Outgoing.texts s.begun ++ Outgoing.texts front = s.accepted := by
    rw [← hstocked.accepted hat, hqueue, Outgoing.texts_append front]
    exact congrArg _ (List.append_nil _).symm
  have hsealed : s.Sealed s.accepted c :=
    ⟨⟨_, htexts⟩, fun _ => Or.inr ⟨front, [], hqueue, htexts⟩⟩
  obtain ⟨c', -, hafter⟩ := hsealed.after hc moves
  exact hafter.begun

end Shift

end Rendezvous
