import Rendezvous.Channel.Reader
import Rendezvous.Proofs.Heartbeat.Watch
import Rendezvous.Rehearsal.Socket

/-!
# A reader at work

Here is one connection with its reader, from the moment when the connection is read. What comes from
the client comes in some order, and the reader takes it message by message. It notes each as a sign
of life, decides what to do about it, and passes a signal on in two steps: it finds the connection of
the receiver, and puts a text into its queue. Between any two of these steps anything may happen to
the switchboard, and the reader may see that its connection is to end while it waits for a message.

A *hearing* is all of this at one moment, with a record of what the reader has read and of what it
has passed on. All that a move does is said once, by `Hearing.Effect`.

## What is passed on

The reader goes on after signals, pings and pongs (`Inbound.goesOn`). So what comes is divided by the
first message after which it does not (`Hearing.Account`): from the messages before, it passes on
what they say to whom they name; that message says why the reader ends; and nothing that comes later
makes a difference. All this is so whatever else happens, as long as the service does not close the
connection.

To pass something on is to put one text into the queue of the receiver's connection
(`Hearing.putTo_step_hand`), and the reader does nothing else to any queue (`Hearing.queue_step`).

A text and a binary message with the same bytes are the same to the reader (`Hearing.after_plain`).
-/

namespace Rendezvous

/-! ### What a message says -/

namespace Inbound

/-- The signal of a message. -/
def signal? (m : Inbound) : Option Signal :=
  m.content?.bind fun content => (Signal.decode content).toOption

/-- What a message of `sender` tells to whom. -/
def relay? (sender : UserId) (m : Inbound) : Option (UserId × Notice) :=
  m.signal?.bind (·.relay sender)

/-- A reader goes on after a message: it is a signal, or only a sign of life. -/
def goesOn (m : Inbound) : Bool :=
  m.signal?.isSome || m = .ping || m = .pong

/-- Why a reader ends with a message, if it does. -/
def departure : Inbound → Departure
  | .close => .byClient
  | .broken => .broken
  | .ended => .ended
  | _ => .nonsense

/-- A text as a binary message. -/
def plain : Inbound → Inbound
  | .text content => .binary content
  | m => m

/-- A message after which a reader does not go on tells nothing. -/
theorem relay?_of_stops {m : Inbound} (hstops : m.goesOn = false) (sender : UserId) :
    m.relay? sender = none := by
  have hnone : m.signal? = none := by
    unfold goesOn at hstops
    simp only [Bool.or_eq_false_iff, Option.isSome_eq_false_iff, Option.isNone_iff_eq_none]
      at hstops
    exact hstops.1.1
  rw [relay?, hnone]
  rfl

theorem departure_ne_byService (m : Inbound) : m.departure ≠ .byService := by
  cases m <;> nofun

end Inbound

namespace Reader

/-- **What a reader does about a message.** -/
inductive Heeds (sender : UserId) (m : Inbound) : Reaction → Prop where
  /-- It goes on, and there is nothing to pass on. -/
  | ignores (hgoes : m.goesOn = true) (hnone : m.relay? sender = none) : Heeds sender m .ignore
  /-- It passes on what the message tells, and goes on. -/
  | relays {receiver : UserId} {notice : Notice} (hgoes : m.goesOn = true)
      (hrelay : m.relay? sender = some (receiver, notice)) :
      Heeds sender m (.relay receiver notice)
  /-- It ends. -/
  | ends (hstops : m.goesOn = false) : Heeds sender m (.exit m.departure)

theorem heeds (sender : UserId) (m : Inbound) : Heeds sender m (react sender m) := by
  have hcontent : ∀ content, m.content? = some content → m.departure = .nonsense →
      m ≠ .ping → m ≠ .pong → Heeds sender m (reactToContent sender content) := by
    intro content hm hdeparture hping hpong
    have hsignal : m.signal? = (Signal.decode content).toOption := by
      rw [Inbound.signal?, hm]
      rfl
    unfold reactToContent
    cases hdecode : Signal.decode content with
    | error fault =>
      have hnone : m.signal? = none := by rw [hsignal, hdecode]; rfl
      rw [← hdeparture]
      refine .ends ?_
      simp [Inbound.goesOn, hnone, hping, hpong]
    | ok signal =>
      have hsome : m.signal? = some signal := by rw [hsignal, hdecode]; rfl
      have hgoes : m.goesOn = true := by simp [Inbound.goesOn, hsome]
      have hrelay : m.relay? sender = signal.relay sender := by rw [Inbound.relay?, hsome]; rfl
      dsimp only
      cases htold : signal.relay sender with
      | none => exact .ignores hgoes (hrelay.trans htold)
      | some told => exact .relays hgoes (hrelay.trans htold)
  cases m with
  | text content => exact hcontent content rfl rfl nofun nofun
  | binary content => exact hcontent content rfl rfl nofun nofun
  | ping => exact .ignores rfl rfl
  | pong => exact .ignores rfl rfl
  | close => exact .ends rfl
  | broken => exact .ends rfl
  | ended => exact .ends rfl

/-- A text and a binary message with the same bytes are the same to a reader. -/
theorem react_plain (sender : UserId) (m : Inbound) : react sender m.plain = react sender m := by
  cases m <;> rfl

theorem isActivity_plain (m : Inbound) : isActivity m.plain = isActivity m := by
  cases m <;> rfl

end Reader

/-! ### Hearings -/

namespace Hearing

/-- What a reader is doing. -/
inductive Phase where
  /-- It waits for a message. -/
  | listening
  /-- It has a notice for a user, and looks for the connection of the user. -/
  | seeking (receiver : UserId) (notice : Notice)
  /-- It has found the connection, or there is none. -/
  | handing (target : Option ConnectionId) (receiver : UserId) (notice : Notice)
  /-- It has ended. -/
  | left (reason : Departure)
  deriving DecidableEq

/-- What a reader does next. -/
def Phase.ofReaction : Reader.Reaction → Phase
  | .ignore => .listening
  | .relay receiver notice => .seeking receiver notice
  | .exit reason => .left reason

/-- What is being passed on. -/
def Phase.pending : Phase → List (UserId × Notice)
  | .seeking receiver notice => [(receiver, notice)]
  | .handing _ receiver notice => [(receiver, notice)]
  | _ => []

/-- What happens next. -/
inductive Move where
  /-- The reader takes the next message. -/
  | receive
  /-- It looks for the connection of the receiver. -/
  | seek
  /-- It puts a text into the queue of that connection. -/
  | hand
  /-- It sees that its connection is to end. -/
  | leave
  /-- Something happens to the switchboard. -/
  | event (e : Watch.Event)
  /-- Time goes by. -/
  | wait (span : Nanos)
  deriving DecidableEq

/-- What the reader does by itself. -/
def Move.IsOwn : Move → Prop
  | .event _ => False
  | .wait _ => False
  | _ => True

end Hearing

/-- **A reader at work**, at one moment. -/
structure Hearing where
  /-- The connection. -/
  id : ConnectionId
  /-- Whose it is. -/
  sender : UserId
  /-- What time it is. -/
  now : Nanos
  /-- The switchboard. -/
  board : Switchboard
  /-- What the reader is doing. -/
  phase : Hearing.Phase
  /-- What is still to come from the client, in its order. -/
  coming : List Inbound
  /-- What the reader has read, in its order. -/
  read : List Inbound
  /-- What it has passed on, in its order. -/
  told : List (UserId × Notice)

namespace Hearing

/-- A connection is read from now on. -/
def start (h : Switchboard) (id : ConnectionId) (sender : UserId) (now : Nanos)
    (ms : List Inbound) : Hearing :=
  ⟨id, sender, now, h, .listening, ms, [], []⟩

/-- The flag of the connection is up. -/
def isEnding (s : Hearing) : Bool :=
  (s.board.connection? s.id).all (·.closed)

/-- The switchboard with a message noted, if it is a sign of life. -/
def heed (s : Hearing) (m : Inbound) : Switchboard :=
  if Reader.isActivity m then s.board.touch s.id s.now else s.board

/-- The next message is read, if the reader waits for one. -/
def receive (s : Hearing) : Hearing :=
  match s.phase, s.coming with
  | .listening, m :: rest =>
    { s with
      board := s.heed m
      phase := .ofReaction (Reader.react s.sender m)
      coming := rest
      read := s.read ++ [m] }
  | _, _ => s

/-- The connection of the receiver is looked for. -/
def seek (s : Hearing) : Hearing :=
  match s.phase with
  | .seeking receiver notice =>
    { s with phase := .handing (s.board.current? receiver) receiver notice }
  | _ => s

/-- A text is put into its queue, if there is one. -/
def hand (s : Hearing) : Hearing :=
  match s.phase with
  | .handing target receiver notice =>
    { s with
      board := target.elim s.board fun id => (s.board.push id notice.encode).2
      phase := .listening
      told := s.told ++ [(receiver, notice)] }
  | _ => s

/-- The reader ends, if it waits for a message and sees the flag. -/
def leave (s : Hearing) : Hearing :=
  if s.phase = .listening ∧ s.isEnding = true then { s with phase := .left .byService } else s

/-- What there is after a move. -/
def step (s : Hearing) : Move → Hearing
  | .receive => s.receive
  | .seek => s.seek
  | .hand => s.hand
  | .leave => s.leave
  | .event e => { s with board := e.perform s.now s.board }
  | .wait span => { s with now := s.now + span }

/-- What there is after some moves. -/
def after (s : Hearing) (moves : List Move) : Hearing :=
  moves.foldl step s

variable {s s' : Hearing} {m : Move} {ms rest : List Inbound}

theorem after_cons (s : Hearing) (m : Move) (moves : List Move) :
    s.after (m :: moves) = (s.step m).after moves := rfl

theorem after_append (s : Hearing) (moves later : List Move) :
    s.after (moves ++ later) = (s.after moves).after later :=
  List.foldl_append

/-! ### What a move does -/

/-- **What a move does.** -/
inductive Effect (s : Hearing) : Move → Hearing → Prop where
  /-- The reader has nothing to do. -/
  | idle {m : Move} (hown : m.IsOwn) : Effect s m s
  /-- It has read a message. -/
  | received {m : Inbound} {rest : List Inbound} (hphase : s.phase = .listening)
      (hcoming : s.coming = m :: rest) : Effect s .receive { s with
        board := s.heed m
        phase := .ofReaction (Reader.react s.sender m)
        coming := rest
        read := s.read ++ [m] }
  /-- It has looked for a connection. -/
  | sought {receiver : UserId} {notice : Notice} (hphase : s.phase = .seeking receiver notice) :
      Effect s .seek { s with phase := .handing (s.board.current? receiver) receiver notice }
  /-- It has passed a notice on. -/
  | handed {target : Option ConnectionId} {receiver : UserId} {notice : Notice}
      (hphase : s.phase = .handing target receiver notice) : Effect s .hand { s with
        board := target.elim s.board fun id => (s.board.push id notice.encode).2
        phase := .listening
        told := s.told ++ [(receiver, notice)] }
  /-- It has seen that its connection is to end. -/
  | left (hphase : s.phase = .listening) : Effect s .leave { s with phase := .left .byService }
  /-- Something has happened to the switchboard. -/
  | happened {e : Watch.Event} : Effect s (.event e) { s with board := e.perform s.now s.board }
  /-- Time has gone by. -/
  | waited {span : Nanos} : Effect s (.wait span) { s with now := s.now + span }

/-- **Every move has one of these effects.** -/
theorem effect (s : Hearing) (m : Move) : s.Effect m (s.step m) := by
  cases m with
  | receive =>
    change s.Effect .receive s.receive
    unfold receive
    split
    · next hphase hcoming => exact .received hphase hcoming
    · exact .idle trivial
  | seek =>
    change s.Effect .seek s.seek
    unfold seek
    split
    · next hphase => exact .sought hphase
    · exact .idle trivial
  | hand =>
    change s.Effect .hand s.hand
    unfold hand
    split
    · next hphase => exact .handed hphase
    · exact .idle trivial
  | leave =>
    change s.Effect .leave s.leave
    unfold leave
    split
    · next hleaves => exact .left hleaves.1
    · exact .idle trivial
  | event e => exact .happened
  | wait span => exact .waited

/-! ### What is passed on -/

/-- **What a reader has read and passed on fits together.** -/
structure Account (ms : List Inbound) (s : Hearing) : Prop where
  /-- What comes is read in its order. -/
  order : s.read ++ s.coming = ms
  /-- What the messages tell is passed on in its order. -/
  told : s.told ++ s.phase.pending = s.read.filterMap (Inbound.relay? s.sender)
  /-- A reader that has not ended by itself has read only messages after which it goes on. -/
  going : (∀ reason, s.phase = .left reason → reason = .byService) →
    ∀ m ∈ s.read, m.goesOn = true
  /-- A reader that has ended by itself has done so with the last message that it has read. -/
  ended : ∀ reason, s.phase = .left reason → reason ≠ .byService →
    ∃ before m, s.read = before ++ [m] ∧ (∀ m ∈ before, m.goesOn = true) ∧ m.goesOn = false ∧
      reason = m.departure

theorem account_start (h : Switchboard) (id : ConnectionId) (sender : UserId) (now : Nanos)
    (ms : List Inbound) : (start h id sender now ms).Account ms where
  order := rfl
  told := rfl
  going _ _ hm := absurd hm List.not_mem_nil
  ended _ hleft := absurd hleft nofun

/-- Only what the reader does matters to what it has read and passed on. -/
theorem Account.congr (ha : s.Account ms) (hread : s'.read = s.read) (hcoming : s'.coming = s.coming)
    (hsender : s'.sender = s.sender) (hphase : s'.phase = s.phase) (htold : s'.told = s.told) :
    s'.Account ms where
  order := by rw [hread, hcoming, ha.order]
  told := by rw [htold, hphase, hread, hsender, ha.told]
  going hnot := hread ▸ ha.going fun reason hleft => hnot reason (hphase.trans hleft)
  ended reason hleft := hread ▸ ha.ended reason (hphase.symm.trans hleft)

/-- A reader that has not ended has read only messages after which it goes on. -/
theorem Account.goes (ha : s.Account ms) (hnot : ∀ reason, s.phase ≠ .left reason) :
    ∀ m ∈ s.read, m.goesOn = true :=
  ha.going fun reason hleft => absurd hleft (hnot reason)

/-- **Another message is read.** -/
theorem Account.receive (ha : s.Account ms) {m : Inbound} (hphase : s.phase = .listening)
    (hcoming : s.coming = m :: rest) (board : Switchboard) :
    Account ms { s with
      board
      phase := .ofReaction (Reader.react s.sender m)
      coming := rest
      read := s.read ++ [m] } := by
  have hgoing : ∀ m ∈ s.read, m.goesOn = true := ha.goes (by simp [hphase])
  have htold : s.told = s.read.filterMap (Inbound.relay? s.sender) := by
    rw [← ha.told, hphase]
    exact (List.append_nil _).symm
  have hmore : m.goesOn = true → ∀ m' ∈ s.read ++ [m], m'.goesOn = true := by
    intro hgoes m' hm'
    rcases List.mem_append.1 hm' with hold | hnew
    · exact hgoing m' hold
    · exact List.mem_singleton.1 hnew ▸ hgoes
  have horder : s.read ++ [m] ++ rest = ms := by
    rw [← ha.order, hcoming, List.append_assoc, List.singleton_append]
  have hheeds := Reader.heeds s.sender m
  generalize Reader.react s.sender m = reaction at hheeds ⊢
  cases hheeds with
  | ignores hgoes hnone =>
    refine ⟨horder, ?_, fun _ => hmore hgoes, fun _ hleft => absurd hleft nofun⟩
    simp [Phase.ofReaction, Phase.pending, htold, hnone]
  | relays hgoes hrelay =>
    refine ⟨horder, ?_, fun _ => hmore hgoes, fun _ hleft => absurd hleft nofun⟩
    simp [Phase.ofReaction, Phase.pending, htold, hrelay]
  | ends hstops =>
    refine ⟨horder, ?_, fun hnot => ?_, fun reason hleft _ => ?_⟩
    · simp [Phase.ofReaction, Phase.pending, htold, Inbound.relay?_of_stops hstops]
    · exact absurd (hnot m.departure rfl) m.departure_ne_byService
    · exact ⟨s.read, m, rfl, hgoing, hstops, (Phase.left.inj hleft).symm⟩

/-- **Whatever happens**, what a reader has read and passed on fits together. -/
theorem Account.effect (ha : s.Account ms) (he : s.Effect m s') : s'.Account ms := by
  cases he with
  | idle => exact ha
  | received hphase hcoming => exact ha.receive hphase hcoming _
  | sought hphase =>
    refine ⟨ha.order, ?_, fun _ => ha.goes (by simp [hphase]), fun _ hleft => absurd hleft nofun⟩
    rw [← ha.told, hphase]
    rfl
  | handed hphase =>
    refine ⟨ha.order, ?_, fun _ => ha.goes (by simp [hphase]), fun _ hleft => absurd hleft nofun⟩
    rw [← ha.told, hphase]
    exact List.append_nil _
  | left hphase =>
    refine ⟨ha.order, ?_, fun _ => ha.goes (by simp [hphase]), fun reason hleft hnot => ?_⟩
    · rw [← ha.told, hphase]
      rfl
    · exact absurd (Phase.left.inj hleft).symm hnot
  | happened => exact ha.congr rfl rfl rfl rfl rfl
  | waited => exact ha.congr rfl rfl rfl rfl rfl

theorem Account.after (ha : s.Account ms) (moves : List Move) : (s.after moves).Account ms := by
  induction moves generalizing s with
  | nil => exact ha
  | cons m moves ih => exact ih (ha.effect (s.effect m))

/-! ### What makes no difference -/

/-- A message that comes is read, if the reader waits for one. -/
theorem step_receive {m : Inbound} (hphase : s.phase = .listening)
    (hcoming : s.coming = m :: rest) : s.step .receive = { s with
      board := s.heed m
      phase := .ofReaction (Reader.react s.sender m)
      coming := rest
      read := s.read ++ [m] } := by
  change s.receive = _
  unfold receive
  simp only [hphase, hcoming]

/-- Other messages have come, and others are still to come. -/
def reread (s : Hearing) (coming read : List Inbound) : Hearing :=
  { s with coming, read }

/-- **What has come and what is still to come is looked at only when a message is read.** -/
theorem step_reread (coming read : List Inbound)
    (hnot : m = .receive → s.phase ≠ .listening ∨ s.coming = [] ∧ coming = []) :
    (s.reread coming read).step m = (s.step m).reread coming read ∧
      (s.step m).coming = s.coming ∧ (s.step m).read = s.read := by
  cases m with
  | receive =>
    have hidle : ∀ s : Hearing, s.phase ≠ .listening ∨ s.coming = [] → s.receive = s := by
      intro s hnot
      unfold receive
      split
      · next hphase hcoming =>
        rcases hnot with hbusy | hnil
        · exact absurd hphase hbusy
        · exact absurd (hcoming.symm.trans hnil) nofun
      · rfl
    change (s.reread coming read).receive = s.receive.reread coming read ∧ _
    change _ ∧ s.receive.coming = s.coming ∧ s.receive.read = s.read
    rw [hidle s ((hnot rfl).imp_right And.left),
      hidle (s.reread coming read) ((hnot rfl).imp_right And.right)]
    exact ⟨rfl, rfl, rfl⟩
  | seek => cases hphase : s.phase <;> simp [step, seek, reread, hphase]
  | hand => cases hphase : s.phase <;> simp [step, hand, reread, hphase]
  | leave =>
    by_cases hleaves : s.phase = .listening ∧ s.isEnding = true
    · have hnow : ∀ s : Hearing, s.phase = .listening ∧ s.isEnding = true →
          s.step .leave = { s with phase := .left .byService } := fun s hleaves => if_pos hleaves
      rw [hnow s hleaves, hnow (s.reread coming read) hleaves]
      exact ⟨rfl, rfl, rfl⟩
    · have hnow : ∀ s : Hearing, ¬(s.phase = .listening ∧ s.isEnding = true) →
          s.step .leave = s := fun s hleaves => if_neg hleaves
      rw [hnow s hleaves, hnow (s.reread coming read) hleaves]
      exact ⟨rfl, rfl, rfl⟩
  | event e => exact ⟨rfl, rfl, rfl⟩
  | wait span => exact ⟨rfl, rfl, rfl⟩

/-- The reader with texts as binary messages. -/
def plain (s : Hearing) : Hearing :=
  s.reread (s.coming.map Inbound.plain) (s.read.map Inbound.plain)

/-- **A text and a binary message with the same bytes** have the same effect. -/
theorem step_plain (s : Hearing) (m : Move) : s.plain.step m = (s.step m).plain := by
  by_cases hreads : m = .receive ∧ s.phase = .listening ∧ s.coming ≠ []
  · obtain ⟨rfl, hphase, hsome⟩ := hreads
    obtain ⟨m, rest, hcoming⟩ := List.exists_cons_of_ne_nil hsome
    have hplain : s.plain.coming = m.plain :: rest.map Inbound.plain := by
      simp [plain, reread, hcoming]
    rw [step_receive hphase hcoming, step_receive (s := s.plain) hphase hplain]
    simp [plain, reread, heed, Reader.react_plain, Reader.isActivity_plain]
  · have hnot : m = .receive →
        s.phase ≠ .listening ∨ s.coming = [] ∧ s.coming.map Inbound.plain = [] := by
      intro hm
      by_cases hphase : s.phase = .listening
      · have hnil : s.coming = [] := by
          by_contra hsome
          exact hreads ⟨hm, hphase, hsome⟩
        exact Or.inr ⟨hnil, by rw [hnil]; rfl⟩
      · exact Or.inl hphase
    obtain ⟨hstep, hcoming, hread⟩ := step_reread _ (s.read.map Inbound.plain) hnot
    refine hstep.trans ?_
    unfold plain
    rw [hcoming, hread]

theorem after_plain (s : Hearing) (moves : List Move) :
    s.plain.after moves = (s.after moves).plain := by
  induction moves generalizing s with
  | nil => rfl
  | cons m moves ih => rw [after_cons, step_plain, ih, after_cons]

/-- **A reader that has ended does nothing more.** -/
theorem step_of_left {reason : Departure} (hleft : s.phase = .left reason) (hown : m.IsOwn) :
    s.step m = s := by
  cases m with
  | receive => simp [step, receive, hleft]
  | seek => simp [step, seek, hleft]
  | hand => simp [step, hand, hleft]
  | leave => simp [step, leave, hleft]
  | event e => exact hown.elim
  | wait span => exact hown.elim

/-- And it has ended for ever, whatever happens. -/
theorem phase_step {reason : Departure} (hleft : s.phase = .left reason) (m : Move) :
    (s.step m).phase = .left reason := by
  by_cases hown : m.IsOwn
  · rw [step_of_left hleft hown, hleft]
  · cases m with
    | event e => exact hleft
    | wait span => exact hleft
    | _ => exact absurd trivial hown

/-- **What comes behind the message with which a reader ends makes no difference**: when it has read
these messages, and it does not go on after the last of them, it has done what it would have done
if other messages had come behind them. -/
theorem after_reread {first later : List Inbound} (hcoming : s.coming = first ++ later)
    (hstops : ∀ before m, first = before ++ [m] → m.goesOn = false)
    (hleft : first = [] → ∃ reason, s.phase = .left reason) {moves : List Move}
    (hall : (s.after moves).coming = later) (other : List Inbound) :
    (s.reread (first ++ other) s.read).after moves =
      (s.after moves).reread other (s.after moves).read := by
  induction moves generalizing s first with
  | nil =>
    obtain rfl : first = [] := List.append_left_eq_self.1 (hcoming.symm.trans hall)
    rfl
  | cons m moves ih =>
    rw [after_cons] at hall ⊢
    rw [after_cons]
    by_cases hreads : m = .receive ∧ s.phase = .listening
    · obtain ⟨rfl, hphase⟩ := hreads
      cases first with
      | nil =>
        obtain ⟨reason, hended⟩ := hleft rfl
        exact absurd (hphase.symm.trans hended) nofun
      | cons m first =>
        have hother : (s.reread (m :: first ++ other) s.read).step .receive =
            (s.step .receive).reread (first ++ other) (s.step .receive).read := by
          rw [step_receive hphase hcoming]
          exact step_receive (s := s.reread (m :: first ++ other) s.read) hphase rfl
        have hcoming' : (s.step .receive).coming = first ++ later := by
          rw [step_receive hphase hcoming]
          rfl
        rw [hother]
        refine ih hcoming' (fun before m' he => hstops (m :: before) m' (he ▸ rfl)) ?_ hall
        rintro rfl
        have hheeds := Reader.heeds s.sender m
        have hstop : m.goesOn = false := hstops [] m rfl
        rw [step_receive hphase hcoming]
        generalize Reader.react s.sender m = reaction at hheeds ⊢
        cases hheeds with
        | ignores hgoes => exact absurd (hgoes.symm.trans hstop) nofun
        | relays hgoes => exact absurd (hgoes.symm.trans hstop) nofun
        | ends => exact ⟨_, rfl⟩
    · obtain ⟨hstep, hsame, hread⟩ := step_reread (first ++ other) s.read
        fun hm => Or.inl fun hphase => hreads ⟨hm, hphase⟩
      rw [hstep, ← hread]
      refine ih (hsame.trans hcoming) hstops (fun hnil => ?_) hall
      obtain ⟨reason, hended⟩ := hleft hnil
      exact ⟨reason, phase_step hended m⟩

/-! ### A reader comes to its end -/

/-- The reader has ended, or has read all that comes. -/
def IsDone (s : Hearing) : Prop :=
  (s.phase = .listening ∧ s.coming = []) ∨ ∃ reason, s.phase = .left reason

/-- How much a reader has to do: three things about each message, and what is left of the last. -/
def toDo (s : Hearing) : Nat :=
  3 * s.coming.length + match s.phase with
    | .seeking .. => 2
    | .handing .. => 1
    | _ => 0

/-- **A reader is never stuck**: there is something to do, and less after it, as long as it is not
done. -/
theorem exists_step (hnot : ¬s.IsDone) :
    ∃ m : Move, m.IsOwn ∧ m ≠ .leave ∧ (s.step m).toDo < s.toDo := by
  cases hphase : s.phase with
  | listening =>
    have hsome : s.coming ≠ [] := fun hnil => hnot (Or.inl ⟨hphase, hnil⟩)
    obtain ⟨m, rest, hcoming⟩ := List.exists_cons_of_ne_nil hsome
    refine ⟨.receive, trivial, nofun, ?_⟩
    rw [step_receive hphase hcoming]
    unfold toDo
    rw [hphase, hcoming, List.length_cons]
    dsimp only
    split <;> omega
  | seeking receiver notice =>
    refine ⟨.seek, trivial, nofun, ?_⟩
    simp [toDo, step, seek, hphase]
  | handing target receiver notice =>
    refine ⟨.hand, trivial, nofun, ?_⟩
    simp [toDo, step, hand, hphase]
  | left reason => exact absurd (Or.inr ⟨reason, hphase⟩) hnot

/-- Only by seeing the flag does a reader end for the sake of the service. -/
theorem phase_ne_byService (hm : m ≠ .leave) (hnot : s.phase ≠ .left .byService) :
    (s.step m).phase ≠ .left .byService := by
  have heffect := s.effect m
  generalize s.step m = s' at heffect ⊢
  cases heffect with
  | @received m rest hphase hcoming =>
    have hheeds := Reader.heeds s.sender m
    dsimp only
    generalize Reader.react s.sender m = reaction at hheeds ⊢
    cases hheeds with
    | ends => exact fun he => m.departure_ne_byService (Phase.left.inj he)
    | _ => exact nofun
  | sought => exact nofun
  | handed => exact nofun
  | left => exact absurd rfl hm
  | _ => exact hnot

/-- **A reader comes to its end by itself**, if the service does not close the connection. -/
theorem exists_isDone (hnot : s.phase ≠ .left .byService) :
    ∃ moves : List Move, (∀ m ∈ moves, m.IsOwn) ∧ (s.after moves).IsDone ∧
      (s.after moves).phase ≠ .left .byService := by
  induction hn : s.toDo using Nat.strong_induction_on generalizing s with
  | _ n ih =>
    by_cases hdone : s.IsDone
    · exact ⟨[], nofun, hdone, hnot⟩
    · obtain ⟨m, hown, hleave, hless⟩ := exists_step hdone
      obtain ⟨moves, howns, hafter⟩ := ih _ (hn ▸ hless) (phase_ne_byService hleave hnot) rfl
      exact ⟨m :: moves, List.forall_mem_cons.2 ⟨hown, howns⟩, hafter⟩

/-! ### The queue of the receiver -/

/-- The reader looks for the connection that the receiver has now. -/
theorem phase_step_seek {receiver : UserId} {notice : Notice}
    (hphase : s.phase = .seeking receiver notice) :
    (s.step .seek).phase = .handing (s.board.current? receiver) receiver notice := by
  simp only [step, seek, hphase]

/-- **A notice is passed on** by being put into the queue of the connection that was found. -/
theorem putTo_step_hand {target : Option ConnectionId} {receiver : UserId} {notice : Notice}
    (hphase : s.phase = .handing target receiver notice) :
    (s.step .hand).told = s.told ++ [(receiver, notice)] ∧
      s.board.PutTo target notice (s.step .hand).board := by
  simp only [step, hand, hphase, true_and]
  cases target with
  | none => exact s.board.putTo_none notice
  | some id => exact s.board.putTo_push id notice

/-- **Only by passing a notice on** does the reader do anything to a queue. -/
theorem queue_step {m : Move} (hown : m.IsOwn) (hnot : m ≠ .hand) :
    (s.step m).told = s.told ∧ ∀ id, ((s.step m).board.connection? id).map Connection.queue =
      (s.board.connection? id).map Connection.queue := by
  have heffect := s.effect m
  generalize s.step m = s' at heffect ⊢
  cases heffect with
  | @received m rest =>
    refine ⟨rfl, fun id => ?_⟩
    change ((s.heed m).connection? id).map Connection.queue = _
    unfold heed
    split
    · exact s.board.queue_touch s.id s.now id
    · rfl
  | handed => exact absurd rfl hnot
  | happened => exact absurd hown not_false
  | waited => exact absurd hown not_false
  | _ => exact ⟨rfl, fun _ => rfl⟩

/-! ### From the beginning -/

theorem id_after (s : Hearing) (moves : List Move) :
    (s.after moves).id = s.id ∧ (s.after moves).sender = s.sender := by
  induction moves generalizing s with
  | nil => exact ⟨rfl, rfl⟩
  | cons m moves ih =>
    have heffect := s.effect m
    have hsame : (s.step m).id = s.id ∧ (s.step m).sender = s.sender := by
      generalize s.step m = s' at heffect ⊢
      cases heffect <;> exact ⟨rfl, rfl⟩
    exact ⟨(ih _).1.trans hsame.1, (ih _).2.trans hsame.2⟩

/-- A message that is a sign of life is noted at the connection. -/
theorem connection?_heed {m : Inbound} (hactive : Reader.isActivity m = true) {c : Connection}
    (hc : s.board.connection? s.id = some c) :
    (s.heed m).connection? s.id = some (c.touch s.now) := by
  unfold heed
  rw [if_pos hactive]
  exact Switchboard.connection?_touch hc s.now

/-- A list of messages is divided by the first after which the reader does not go on. -/
theorem takeWhile_goesOn {before : List Inbound} (hbefore : ∀ m ∈ before, m.goesOn = true)
    {m : Inbound} (hstops : m.goesOn = false) (rest : List Inbound) :
    (before ++ m :: rest).takeWhile Inbound.goesOn = before := by
  rw [List.takeWhile_append_of_pos hbefore, List.takeWhile_cons_of_neg (by simp [hstops]),
    List.append_nil]

/-- **A reader that has not ended** is among the messages before the first after which it does not
go on. -/
theorem Account.read_takeWhile (ha : s.Account ms) (hnot : ∀ reason, s.phase ≠ .left reason) :
    s.read <+: ms.takeWhile Inbound.goesOn := by
  have hgoes := ha.goes hnot
  have hfirst : (s.read ++ s.coming).takeWhile Inbound.goesOn =
      s.read ++ s.coming.takeWhile Inbound.goesOn := List.takeWhile_append_of_pos hgoes
  rw [← ha.order, hfirst]
  exact List.prefix_append ..

/-- **A reader that has ended by itself** has done so with the first message after which it does not
go on. -/
theorem Account.exists_last (ha : s.Account ms) {reason : Departure}
    (hleft : s.phase = .left reason) (hnot : reason ≠ .byService) :
    ∃ m, ms = ms.takeWhile Inbound.goesOn ++ m :: s.coming ∧ m.goesOn = false ∧
      reason = m.departure ∧ s.read = ms.takeWhile Inbound.goesOn ++ [m] ∧
      s.told = (ms.takeWhile Inbound.goesOn).filterMap (Inbound.relay? s.sender) := by
  obtain ⟨before, m, hread, hgoes, hstops, hreason⟩ := ha.ended reason hleft hnot
  have horder : ms = before ++ m :: s.coming := by
    rw [← ha.order, hread, List.append_assoc, List.singleton_append]
  have hfirst : ms.takeWhile Inbound.goesOn = before := by
    rw [horder]
    exact takeWhile_goesOn hgoes hstops _
  have hpending : s.phase.pending = [] := by
    rw [hleft]
    rfl
  have htold := ha.told
  rw [hpending, List.append_nil, hread] at htold
  rw [hfirst]
  refine ⟨m, horder, hstops, hreason, hread, htold.trans ?_⟩
  simp [Inbound.relay?_of_stops hstops]

/-- A connection that is read from now on, after some moves. -/
def heard (h : Switchboard) (id : ConnectionId) (sender : UserId) (now : Nanos)
    (ms : List Inbound) (moves : List Move) : Hearing :=
  (start h id sender now ms).after moves

/-- **The reader passes on what comes before the first message after which it does not go on**, and
nothing else, whatever happens meanwhile. -/
structure Faithful (h : Switchboard) (id : ConnectionId) (sender : UserId) (now : Nanos)
    (ms : List Inbound) (moves : List Move) : Prop where
  /-- Pings, pongs, and signals of unknown type tell nothing, and the reader goes on after them. -/
  silent : ∀ m : Inbound, m = .ping ∨ m = .pong ∨ m.signal? = some .unknown →
    m.goesOn = true ∧ m.relay? sender = none
  /-- What comes is read in its order. -/
  order : (heard h id sender now ms moves).read ++ (heard h id sender now ms moves).coming = ms
  /-- A reader that has not ended goes on, and has passed on what the messages tell that it has
  read, but for what it is passing on. -/
  going : (∀ reason, (heard h id sender now ms moves).phase ≠ .left reason) →
    (heard h id sender now ms moves).read <+: ms.takeWhile Inbound.goesOn ∧
    (heard h id sender now ms moves).told ++ (heard h id sender now ms moves).phase.pending =
      (heard h id sender now ms moves).read.filterMap (Inbound.relay? sender)
  /-- A reader that has ended, and not for the sake of the service, has read up to the first message
  after which it does not go on, has ended because of that one, and has passed on what the messages
  before it tell. -/
  ended : ∀ reason, (heard h id sender now ms moves).phase = .left reason → reason ≠ .byService →
    ∃ m rest, ms = ms.takeWhile Inbound.goesOn ++ m :: rest ∧ m.goesOn = false ∧
      reason = m.departure ∧
      (heard h id sender now ms moves).read = ms.takeWhile Inbound.goesOn ++ [m] ∧
      (heard h id sender now ms moves).told =
        (ms.takeWhile Inbound.goesOn).filterMap (Inbound.relay? sender)
  /-- It does nothing more then. -/
  deaf : ∀ reason, (heard h id sender now ms moves).phase = .left reason →
    ∀ m : Move, m.IsOwn → (heard h id sender now ms moves).step m = heard h id sender now ms moves
  /-- And it would have done the same if something else had come behind that message. -/
  blind : ∀ reason, (heard h id sender now ms moves).phase = .left reason → reason ≠ .byService →
    ∀ other, heard h id sender now ((heard h id sender now ms moves).read ++ other) moves =
      (heard h id sender now ms moves).reread other (heard h id sender now ms moves).read
  /-- Every message that is read is noted as a sign of life, the one with which the reader ends
  too. -/
  noted : ∀ m rest c, (heard h id sender now ms moves).phase = .listening →
    (heard h id sender now ms moves).coming = m :: rest → m ≠ .broken → m ≠ .ended →
    (heard h id sender now ms moves).board.connection? id = some c →
    ((heard h id sender now ms moves).step .receive).read =
        (heard h id sender now ms moves).read ++ [m] ∧
      ((heard h id sender now ms moves).step .receive).board.connection? id =
        some (c.touch (heard h id sender now ms moves).now)
  /-- The connection that a notice is put into is the one that its receiver has when the reader looks
  for it. -/
  seeks : ∀ receiver notice, (heard h id sender now ms moves).phase = .seeking receiver notice →
    ((heard h id sender now ms moves).step .seek).phase =
      .handing ((heard h id sender now ms moves).board.current? receiver) receiver notice
  /-- To pass a notice on is to put its text into the queue of that connection, if there is one, and
  to do nothing else to the switchboard. -/
  hands : ∀ target receiver notice,
    (heard h id sender now ms moves).phase = .handing target receiver notice →
      ((heard h id sender now ms moves).step .hand).told =
        (heard h id sender now ms moves).told ++ [(receiver, notice)] ∧
      (heard h id sender now ms moves).board.PutTo target notice
        ((heard h id sender now ms moves).step .hand).board
  /-- By nothing else does the reader pass anything on, put anything into a queue, or take anything
  out. -/
  quiet : ∀ m : Move, m.IsOwn → m ≠ .hand →
    ((heard h id sender now ms moves).step m).told = (heard h id sender now ms moves).told ∧
      ∀ id', (((heard h id sender now ms moves).step m).board.connection? id').map Connection.queue =
        ((heard h id sender now ms moves).board.connection? id').map Connection.queue
  /-- As long as the service does not close the connection, the reader can go on until it has ended,
  or has read all that comes. -/
  finishes : (heard h id sender now ms moves).phase ≠ .left .byService →
    ∃ later : List Move, (∀ m ∈ later, m.IsOwn) ∧
      (heard h id sender now ms (moves ++ later)).IsDone ∧
      (heard h id sender now ms (moves ++ later)).phase ≠ .left .byService
  /-- With texts as binary messages all is the same. -/
  alike : heard h id sender now (ms.map Inbound.plain) moves =
    (heard h id sender now ms moves).plain

/-- **A reader relays exactly what is well-formed**, up to the first message that is not, for every
sequence of messages and whatever else happens. -/
theorem faithful (h : Switchboard) (id : ConnectionId) (sender : UserId) (now : Nanos)
    (ms : List Inbound) (moves : List Move) : Faithful h id sender now ms moves := by
  have haccount : (heard h id sender now ms moves).Account ms :=
    (account_start h id sender now ms).after moves
  have hid : (heard h id sender now ms moves).id = id :=
    ((start h id sender now ms).id_after moves).1
  have hsender : (heard h id sender now ms moves).sender = sender :=
    ((start h id sender now ms).id_after moves).2
  constructor
  case silent =>
    rintro m (rfl | rfl | hsignal)
    · exact ⟨rfl, rfl⟩
    · exact ⟨rfl, rfl⟩
    · simp [Inbound.goesOn, Inbound.relay?, hsignal, Signal.relay]
  case order => exact haccount.order
  case going =>
    intro hnot
    have htold := haccount.told
    rw [hsender] at htold
    exact ⟨haccount.read_takeWhile hnot, htold⟩
  case ended =>
    intro reason hleft hnot
    obtain ⟨m, horder, hstops, hreason, hread, htold⟩ := haccount.exists_last hleft hnot
    rw [hsender] at htold
    exact ⟨m, _, horder, hstops, hreason, hread, htold⟩
  case deaf => exact fun reason hleft m => step_of_left hleft
  case blind =>
    intro reason hleft hnot other
    obtain ⟨m, horder, hstops, -, hread, -⟩ := haccount.exists_last hleft hnot
    refine after_reread (s := start h id sender now ms) haccount.order.symm ?_ ?_ rfl other
    · intro before m' hlast
      obtain ⟨-, he⟩ := List.append_inj' (hread.symm.trans hlast) rfl
      exact (List.singleton_inj.1 he) ▸ hstops
    · intro hnil
      exact absurd (hread.symm.trans hnil) (by simp)
  case noted =>
    intro m rest c hphase hcoming hbroken hended hc
    have hactive : Reader.isActivity m = true := by
      cases m <;> first | rfl | contradiction
    rw [step_receive hphase hcoming]
    refine ⟨rfl, ?_⟩
    generalize heard h id sender now ms moves = s at hid hc ⊢
    subst hid
    exact connection?_heed hactive hc
  case seeks => exact fun receiver notice hphase => phase_step_seek hphase
  case hands => exact fun target receiver notice hphase => putTo_step_hand hphase
  case quiet => exact fun m hown hnot => queue_step hown hnot
  case finishes =>
    intro hnot
    obtain ⟨later, hown, hdone, hleft⟩ := exists_isDone hnot
    refine ⟨later, hown, ?_⟩
    rw [heard, after_append]
    exact ⟨hdone, hleft⟩
  case alike => exact after_plain (start h id sender now ms) moves

/-! ### The reader of a rehearsal -/

/-- **The reader of a rehearsal does at once what a reader does in three moves.** -/
theorem after_received {socket : Rehearsal.Socket} (hid : socket.serving.id = s.id)
    (huser : socket.serving.user = s.sender) {m : Inbound} (hphase : s.phase = .listening)
    (hcoming : s.coming = m :: rest) :
    socket.received s.now m s.board =
      (match (s.after [.receive, .seek, .hand]).phase with
        | .left reason => socket.leave reason
        | _ => socket,
        (s.after [.receive, .seek, .hand]).board) := by
  have hheed : (if Reader.isActivity m then s.board.touch socket.serving.id s.now else s.board) =
      s.heed m := by
    rw [hid]
    rfl
  rw [after_cons, step_receive hphase hcoming]
  unfold Rehearsal.Socket.received
  rw [hheed, huser]
  cases Reader.react s.sender m with
  | ignore => rfl
  | exit reason => rfl
  | relay receiver notice =>
    simp only [Phase.ofReaction, after, List.foldl_cons, List.foldl_nil, step, seek, hand]
    unfold Switchboard.send Switchboard.pushText
    cases (s.heed m).current? receiver <;> rfl

end Hearing

end Rendezvous
