import Mathlib.Data.List.Basic
import Rendezvous.Channel.Serving
import Rendezvous.Channel.Writer
import Rendezvous.Proofs.Service.Course
import Rendezvous.Proofs.Switchboard.Comings

/-!
# Connections side by side

Any number of connections are served at once. Each goes through its life at its own pace, with its
writer beside it: it is opened, enters the switchboard, has the one before it closed and its token
revoked, is read until its reader ends for one reason or another, is taken out, is closed, and is
over when its writer is. Meanwhile the heartbeat pings connections and evicts some, and notices are
sent to users by whoever has something to tell them.

A *concourse* is all of this at one moment, and a *line* in it is a connection with its writer. A
*turn* is the smallest thing that can happen to a line, a *move* the smallest that can happen at
all; moves come in any order. Two things that look like one from outside are two moves:

* entering the switchboard and closing the connection before, which is so in the life of a
  connection itself (`Serving.step?`);
* sending a notice, where the connection that was found may get it when the user has another one
  already, so that a text can be put into any queue at any time (`Concourse.Move.push`).

An eviction is one move, too, which takes the connection out and closes it. It may also be cut in
two (`Concourse.Move.withdraw`, `Concourse.Move.finish`); a concourse knows which connections were
taken out in this way and are still to be closed.

What a reader passes on is sent in moves of its own. The reader does not wait for them here, which
allows all that the service does, and more.

All that a turn does to the switchboard and to its line is said once, by
`Concourse.Line.Effect`, and what a move does by `Concourse.Effect`.
-/

namespace Rendezvous

namespace Concourse

/-! ### Lines -/

/-- A connection that is served, and its writer. -/
structure Line where
  /-- The connection. -/
  serving : Serving
  /-- What its writer is doing. -/
  writer : Writer.Phase
  deriving DecidableEq, Repr

/-- What happens to a line. -/
inductive Turn where
  /-- The connection takes the next step of its life in the switchboard. -/
  | live
  /-- Its session token is revoked, or could not be. -/
  | revoke
  /-- Something has come from its client. -/
  | hear (m : Inbound)
  /-- Its reader sees that the connection is to end. -/
  | leave
  /-- Something happens to its writer. -/
  | write (event : Writer.Event)
  /-- The service has waited for the writer, and waits no longer. -/
  | conclude
  deriving DecidableEq, Repr

namespace Line

/-- The flag of the connection is up. -/
def isEnding (l : Line) (h : Switchboard) : Bool :=
  (h.connection? l.serving.id).all (·.closed)

/-- The next step in the switchboard, if there is one. -/
def live (l : Line) (h : Switchboard) : Line × Switchboard :=
  match l.serving.step? h with
  | some (serving, h') => ({ l with serving }, h')
  | none => (l, h)

/-- The switchboard with a sign of life noted, if it was one. -/
def heed (l : Line) (now : Nanos) (m : Inbound) (h : Switchboard) : Switchboard :=
  if Reader.isActivity m then h.touch l.serving.id now else h

/-- The reader deals with what has come, if it is at work. -/
def hear (l : Line) (now : Nanos) (m : Inbound) (h : Switchboard) : Line × Switchboard :=
  if l.serving.isReading then
    match Reader.react l.serving.user m with
    | .exit reason => ({ l with serving := l.serving.leave reason }, l.heed now m h)
    | _ => (l, l.heed now m h)
  else (l, h)

/-- The reader ends, if it sees the flag. -/
def leave (l : Line) (h : Switchboard) : Line × Switchboard :=
  if l.isEnding h then ({ l with serving := l.serving.leave .byService }, h) else (l, h)

/-- The writer goes on. -/
def advance (l : Line) (event : Writer.Event) (h : Switchboard) : Line × Switchboard :=
  let (writer, h') := Writer.advance l.serving.id l.writer event h
  ({ l with writer }, h')

/-- Something happens to the writer. It sees the flag only when this is up, and a frame that it
takes is the first of the queue. -/
def write (l : Line) (event : Writer.Event) (h : Switchboard) : Line × Switchboard :=
  match event with
  | .sawClosed => if l.isEnding h then l.advance .sawClosed h else (l, h)
  | .took _ =>
    match l.writer, h.take? l.serving.id with
    | .waiting, some (frame, h') => l.advance (.took frame) h'
    | _, _ => (l, h)
  | event => l.advance event h

/-- The connection is over, if it is closed. A writer that is still at work is stopped. -/
def conclude (l : Line) (h : Switchboard) : Line × Switchboard :=
  match l.serving.stage with
  | .closed _ =>
    (⟨l.serving.writerEnded, .finished⟩,
      if l.writer = .finished then h else h.abandon l.serving.id)
  | _ => (l, h)

/-- A line after a turn, and the switchboard after it. -/
def take (l : Line) (now : Nanos) (h : Switchboard) : Turn → Line × Switchboard
  | .live => l.live h
  | .revoke => ({ l with serving := l.serving.tokenRevoked }, h)
  | .hear m => l.hear now m h
  | .leave => l.leave h
  | .write event => l.write event h
  | .conclude => l.conclude h

end Line

/-- What happens. -/
inductive Move where
  /-- A connection is opened for a user with a session token, and gets a writer. -/
  | arrive (user : UserId) (token : String)
  /-- Something happens to a line. -/
  | line (i : Nat) (turn : Turn)
  /-- The heartbeat evicts a connection. -/
  | evict (id : ConnectionId)
  /-- It has taken a connection out and has yet to close it. -/
  | withdraw (id : ConnectionId)
  /-- It closes a connection that it has taken out. -/
  | finish (id : ConnectionId)
  /-- It pings a connection. -/
  | probe (id : ConnectionId) (wait : Nanos)
  /-- It is known what has come of a ping. -/
  | settle (ticket : Nat) (written : Bool)
  /-- Pings whose time is over are settled. -/
  | expire
  /-- A notice is sent to a user. -/
  | send (user : UserId) (notice : Notice)
  /-- A text is put into the queue of a connection that was found before. -/
  | push (id : ConnectionId) (content : String)
  /-- Time goes by. -/
  | wait (span : Nanos)
  deriving Repr

end Concourse

/-- **The connections that are served, and all that they share.** -/
structure Concourse where
  /-- What time it is. -/
  now : Nanos
  /-- The switchboard. -/
  board : Switchboard
  /-- The connections that were opened, in their order. -/
  lines : List Concourse.Line
  /-- The connections that the heartbeat has taken out and not yet closed. -/
  evicting : List ConnectionId

namespace Concourse

/-- Nobody has come yet. -/
def empty : Concourse :=
  ⟨0, .empty, [], []⟩

/-- Something happens to a line. -/
def turn (c : Concourse) (i : Nat) (turn : Turn) : Concourse :=
  match c.lines[i]? with
  | none => c
  | some l =>
    let (l', board) := l.take c.now c.board turn
    { c with board, lines := c.lines.set i l' }

/-- A connection is taken out, to be closed soon. -/
def withdraw (c : Concourse) (id : ConnectionId) : Concourse :=
  match c.board.owner? id with
  | none => c
  | some user =>
    { c with board := (c.board.unregister user id).2, evicting := c.evicting ++ [id] }

/-- A connection that was taken out is closed. -/
def finish (c : Concourse) (id : ConnectionId) : Concourse :=
  if id ∈ c.evicting then
    { c with board := c.board.close id, evicting := c.evicting.erase id }
  else c

/-- What is there after a move. -/
def step (c : Concourse) : Move → Concourse
  | .arrive user token =>
    let (serving, board) := Serving.start c.board user token c.now
    { c with board, lines := c.lines ++ [⟨serving, .waiting⟩] }
  | .line i t => c.turn i t
  | .evict id => { c with board := (c.board.evict id).2 }
  | .withdraw id => c.withdraw id
  | .finish id => c.finish id
  | .probe id wait => { c with board := (c.board.probe id c.now wait).2 }
  | .settle ticket written => { c with board := c.board.settle ticket written }
  | .expire => { c with board := c.board.expire c.now }
  | .send user notice => { c with board := (c.board.send user notice).2 }
  | .push id content => { c with board := (c.board.push id content).2 }
  | .wait span => { c with now := c.now + span }

/-- What is there after some moves. -/
def after (c : Concourse) (moves : List Move) : Concourse :=
  moves.foldl step c

theorem after_append (c : Concourse) (moves later : List Move) :
    c.after (moves ++ later) = (c.after moves).after later :=
  List.foldl_append ..

theorem after_concat (c : Concourse) (moves : List Move) (m : Move) :
    c.after (moves ++ [m]) = (c.after moves).step m :=
  c.after_append moves [m]

/-! ### What a turn does -/

namespace Line

variable {l l' : Line} {h h' : Switchboard} {gone : ConnectionId → Prop}

/-- **How a connection goes on** in its life while nobody comes or goes. -/
inductive Onward (h h' : Switchboard) (id : ConnectionId) : Stage → Stage → Prop where
  /-- It stays where it is. -/
  | stays {stage : Stage} : Onward h h' id stage stage
  /-- The one before it is closed, if there was one. -/
  | registered {superseded : Option ConnectionId}
      (hold : ∀ old, superseded = some old → h' = h.close old) :
      Onward h h' id (.entered superseded) .registered
  /-- It is read. -/
  | reading : Onward h h' id .registered .reading
  /-- It is read no more. -/
  | left {reason : Departure} : Onward h h' id .reading (.left reason)
  /-- It is closed. -/
  | closed {reason : Departure} (hclose : h' = h.close id) :
      Onward h h' id (.unregistered reason) (.closed reason)
  /-- It is over. -/
  | ended {reason : Departure} : Onward h h' id (.closed reason) (.over reason)

/-- **What a turn does.** -/
inductive Effect (l : Line) (h : Switchboard) : Line → Switchboard → Prop where
  /-- The connection enters the switchboard. -/
  | entered (hstage : l.serving.stage = .opened) :
      Effect l h { l with serving := { l.serving with stage := .entered (h.enter l.serving.id).1 } }
        (h.enter l.serving.id).2
  /-- It is taken out. -/
  | unregistered {reason : Departure} (hstage : l.serving.stage = .left reason) :
      Effect l h { l with serving := { l.serving with stage := .unregistered reason } }
        (h.unregister l.serving.user l.serving.id).2
  /-- Nobody comes or goes. -/
  | moved {l' : Line} {h' : Switchboard} (hsame : l'.serving.Continues l.serving)
      (hboard : h.Keeps (fun _ => False) h')
      (honward : Onward h h' l.serving.id l.serving.stage l'.serving.stage) : Effect l h l' h'

theorem effect_idle (l : Line) (h : Switchboard) : l.Effect h l h :=
  .moved (.refl _) (.refl h) .stays

theorem effect_live (l : Line) (h : Switchboard) : l.Effect h (l.live h).1 (l.live h).2 := by
  unfold live Serving.step?
  cases hstage : l.serving.stage with
  | opened => exact .entered hstage
  | entered superseded =>
    cases superseded with
    | none =>
      refine .moved ⟨rfl, rfl, rfl⟩ (.refl h) ?_
      rw [hstage]
      exact .registered fun old hold => absurd hold (by simp)
    | some old =>
      refine .moved ⟨rfl, rfl, rfl⟩ (Switchboard.keeps_close old) ?_
      rw [hstage]
      refine .registered fun old' hold => ?_
      rw [Option.some.inj hold]
  | left reason => exact .unregistered hstage
  | unregistered reason =>
    refine .moved ⟨rfl, rfl, rfl⟩ (Switchboard.keeps_close _) ?_
    rw [hstage]
    exact .closed rfl
  | _ => exact l.effect_idle h

/-- A reader that ends. -/
theorem onward_leave (reason : Departure) :
    Onward h h' l.serving.id l.serving.stage (l.serving.leave reason).stage := by
  unfold Serving.leave
  split
  · next hstage =>
    rw [hstage]
    exact .left
  · exact .stays

theorem effect_hear (l : Line) (now : Nanos) (m : Inbound) (h : Switchboard) :
    l.Effect h (l.hear now m h).1 (l.hear now m h).2 := by
  have hheed : h.Keeps (fun _ => False) (l.heed now m h) := by
    unfold heed
    split
    · exact Switchboard.keeps_touch ..
    · exact .refl h
  unfold hear
  split
  · split
    · exact .moved (Serving.continues_leave ..) hheed (onward_leave _)
    · exact .moved (.refl _) hheed .stays
  · exact l.effect_idle h

theorem effect_leave (l : Line) (h : Switchboard) : l.Effect h (l.leave h).1 (l.leave h).2 := by
  unfold leave
  split
  · exact .moved (Serving.continues_leave ..) (.refl h) (onward_leave _)
  · exact l.effect_idle h

/-- A connection of which the token is revoked. -/
theorem onward_tokenRevoked :
    Onward h h' l.serving.id l.serving.stage l.serving.tokenRevoked.stage := by
  unfold Serving.tokenRevoked
  split
  · next hstage =>
    rw [hstage]
    exact .reading
  · exact .stays

/-- A writer takes nobody in or out. -/
theorem keeps_advance (id : ConnectionId) (phase : Writer.Phase) (event : Writer.Event)
    (h : Switchboard) : h.Keeps gone (Writer.advance id phase event h).2 := by
  have hfinish : ∀ {h' : Switchboard}, h.Keeps gone h' → h.Keeps gone
      (if Writer.step phase event = .finished then (h'.close id).abandon id else h') := by
    intro h' hreport
    split
    · exact (hreport.trans (Switchboard.keeps_close id)).trans (Switchboard.keeps_abandon id)
    · exact hreport
  unfold Writer.advance
  cases Writer.report? phase event with
  | none => exact hfinish (.refl h)
  | some reported => exact hfinish (Switchboard.keeps_settle ..)

theorem effect_advance (l : Line) (event : Writer.Event) (hboard : h.Keeps (fun _ => False) h') :
    l.Effect h (l.advance event h').1 (l.advance event h').2 :=
  .moved (.refl _) (hboard.trans (keeps_advance ..)) .stays

theorem effect_write (l : Line) (event : Writer.Event) (h : Switchboard) :
    l.Effect h (l.write event h).1 (l.write event h).2 := by
  unfold write
  split
  · split
    · exact l.effect_advance _ (.refl h)
    · exact l.effect_idle h
  · split
    · next htake => exact l.effect_advance _ (Switchboard.keeps_take? htake)
    · exact l.effect_idle h
  · exact l.effect_advance _ (.refl h)

theorem effect_conclude (l : Line) (h : Switchboard) :
    l.Effect h (l.conclude h).1 (l.conclude h).2 := by
  unfold conclude
  split
  · next reason hstage =>
    refine .moved (Serving.continues_writerEnded _) ?_ ?_
    · split
      · exact .refl h
      · exact Switchboard.keeps_abandon _
    · simp only [Serving.writerEnded, hstage]
      exact .ended
  · exact l.effect_idle h

/-- **Every turn has one of these effects.** -/
theorem effect_take (l : Line) (now : Nanos) (h : Switchboard) (turn : Turn) :
    l.Effect h (l.take now h turn).1 (l.take now h turn).2 := by
  cases turn with
  | live => exact l.effect_live h
  | revoke => exact .moved (Serving.continues_tokenRevoked _) (.refl h) onward_tokenRevoked
  | hear m => exact l.effect_hear now m h
  | leave => exact l.effect_leave h
  | write event => exact l.effect_write event h
  | conclude => exact l.effect_conclude h

end Line

/-! ### What a move does -/

/-- **What a move does.** -/
inductive Effect (c : Concourse) : Move → Concourse → Prop where
  /-- A connection is opened. -/
  | arrived {user : UserId} {token : String} :
      Effect c (.arrive user token)
        { c with
          board := (c.board.open user c.now).2
          lines := c.lines ++
            [⟨⟨c.board.connections.size, user, token, .opened⟩, .waiting⟩] }
  /-- Something has happened to a line. -/
  | turned {i : Nat} {turn : Turn} {l l' : Line} {board : Switchboard} (hl : c.lines[i]? = some l)
      (hline : l.Effect c.board l' board) :
      Effect c (.line i turn) { c with board, lines := c.lines.set i l' }
  /-- There is no such line. -/
  | idle {i : Nat} {turn : Turn} : Effect c (.line i turn) c
  /-- Nobody comes, and who goes is closed or is going to be closed. -/
  | kept {m : Move} {now : Nanos} {board : Switchboard} {evicting : List ConnectionId}
      {gone : ConnectionId → Prop} (hm : ∀ i t, m ≠ .line i t)
      (hboard : c.board.Keeps gone board)
      (hgone : ∀ id user, gone id → c.board.owner? id = some user →
        board.IsClosed id ∨ id ∈ evicting)
      (hevicting : ∀ id user, id ∈ c.evicting → c.board.owner? id = some user →
        board.IsClosed id ∨ id ∈ evicting)
      (hwhole : c.evicting = [] → (∀ id, m ≠ .withdraw id) → evicting = []) :
      Effect c m { c with now, board, evicting }

/-- Nobody comes or goes. -/
theorem effect_of_keeps {c : Concourse} {m : Move} {now : Nanos} {board : Switchboard}
    (hm : ∀ i t, m ≠ .line i t) (hboard : c.board.Keeps (fun _ => False) board) :
    c.Effect m { c with now, board } :=
  .kept hm hboard (fun _ _ hid => hid.elim) (fun _ _ hid _ => Or.inr hid) fun hnone _ => hnone

theorem effect_turn (c : Concourse) (i : Nat) (t : Turn) : c.Effect (.line i t) (c.turn i t) := by
  unfold turn
  cases hl : c.lines[i]? with
  | none => exact .idle
  | some l => exact .turned hl (l.effect_take c.now c.board t)

theorem effect_withdraw (c : Concourse) (id : ConnectionId) :
    c.Effect (.withdraw id) (c.withdraw id) := by
  unfold withdraw
  split
  · exact effect_of_keeps nofun (.refl c.board)
  · refine .kept nofun (Switchboard.keeps_unregister _ id) ?_ ?_ fun _ hnot => absurd rfl (hnot id)
    · rintro id' _ rfl -
      exact Or.inr (by simp)
    · intro id' _ hid' _
      exact Or.inr (List.mem_append_left _ hid')

theorem effect_finish (c : Concourse) (id : ConnectionId) :
    c.Effect (.finish id) (c.finish id) := by
  unfold finish
  split
  · have hboard : c.board.Keeps (fun _ => False) (c.board.close id) := Switchboard.keeps_close id
    refine .kept nofun hboard (fun _ _ hid => hid.elim) ?_ ?_
    · intro id' user hid' howner
      by_cases he : id' = id
      · subst he
        exact Or.inl (Switchboard.isClosed_close howner)
      · exact Or.inr ((List.mem_erase_of_ne he).2 hid')
    · rintro hnone -
      rw [hnone]
      rfl
  · exact effect_of_keeps nofun (.refl c.board)

/-- **Every move has one of these effects.** -/
theorem effect (c : Concourse) (m : Move) : c.Effect m (c.step m) := by
  cases m with
  | arrive user token => exact .arrived
  | line i t => exact c.effect_turn i t
  | evict id =>
    refine .kept nofun (Switchboard.keeps_evict id) ?_ (fun _ _ hid _ => Or.inr hid)
      fun hnone _ => hnone
    rintro id' user rfl howner
    exact Or.inl (Switchboard.isClosed_evict howner)
  | withdraw id => exact c.effect_withdraw id
  | finish id => exact c.effect_finish id
  | probe id wait => exact effect_of_keeps nofun (Switchboard.keeps_probe ..)
  | settle ticket written => exact effect_of_keeps nofun (Switchboard.keeps_settle ..)
  | expire => exact effect_of_keeps nofun (Switchboard.keeps_expire _)
  | send user notice => exact effect_of_keeps nofun (Switchboard.keeps_send ..)
  | push id content => exact effect_of_keeps nofun (Switchboard.keeps_push ..)
  | wait span => exact effect_of_keeps nofun (.refl c.board)

end Concourse

end Rendezvous
