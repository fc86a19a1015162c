import Rendezvous.Proofs.Service.Keeping

/-!
# What users are told

Whatever is put into the queue of a connection is a notice to the user of this connection, and it is
justified. A notice about a message, a match or about what was read says what the tables say, when it
is put into the queue and ever after; a notice that somebody is typing, or has got a message, was
read on a connection of the very user whom it names, in a signal that names the receiver.

## Why

A request pushes only what the store has told it (`Http.Backed`), and what the store has told stays
true (`Service.Course.Answers.vouches`). That the one who is told about reading is also the one who
wrote the messages follows from the tables fitting together: a message to the one user of a chat was
sent by the other one. A reader passes on a signal under the name of the user for whom it serves the
connection, who is the one to whom the connection belongs (`Service.Course.user_of_channel`).
-/

namespace Rendezvous

/-! ### The two users of a chat -/

/-- The user who is faced by another one in a chat is the other one of its pair. -/
theorem Chat.isOf_of_other? {chat : Chat} {a b : UserId} (hlt : chat.user1 < chat.user2)
    (h : chat.other? a = some b) : chat.isOf b a = true := by
  have hpair : orderedPair chat.user1 chat.user2 = (chat.user1, chat.user2) :=
    if_pos (Int64.le_of_lt hlt)
  unfold Chat.other? at h
  split at h
  · next he =>
    obtain rfl := Option.some.inj h
    rw [isOf_comm, ← he]
    simp [isOf, hpair]
  · split at h
    · next he =>
      obtain rfl := Option.some.inj h
      rw [← he]
      simp [isOf, hpair]
    · exact absurd h (by simp)

namespace Records

variable {t : Records}

/-- A message to the one user of a chat was sent by the other one. -/
theorem Sound.sender_eq (h : t.Sound) {id : ChatId} {chat : Chat} {reader other : UserId}
    {m : Message} (hc : t.chats.get? id = some chat) (hother : chat.other? reader = some other)
    (hm : m ∈ t.log id) (hreceiver : m.receiver = reader) : m.sender = other := by
  obtain ⟨-, -, chat', hc', hends⟩ := h.message_home id m hm
  obtain rfl : chat = chat' := Option.some.inj (hc.symm.trans hc')
  have hne : chat.user1 ≠ chat.user2 := Int64.ne_of_lt (h.user_lt hc)
  subst hreceiver
  rcases hends with ⟨hs, hr⟩ | ⟨hs, hr⟩ <;>
    simpa [Chat.other?, hs, hr, hne] using hother

/-- **A chat joins two users.** -/
def Joins (t : Records) (id : ChatId) (a b : UserId) : Prop :=
  ∃ chat, t.chats.get? id = some chat ∧ chat.isOf a b = true

theorem Sound.joins (h : t.Sound) {id : ChatId} {chat : Chat} {reader other : UserId}
    (hc : t.chats.get? id = some chat) (hother : chat.other? reader = some other) :
    t.Joins id other reader :=
  ⟨chat, hc, Chat.isOf_of_other? (h.user_lt hc) hother⟩

/-- **The tables confirm a notice to a user.** -/
def Confirms (t : Records) (receiver : UserId) : Notice → Prop
  | .message id chat user content =>
    ∃ m ∈ t.log chat, m.id = id ∧ m.chat = chat ∧ m.sender = user ∧ m.receiver = receiver ∧
      m.content = content ∧ m.kind = .text
  | .paired chat user content =>
    t.Joins chat receiver user ∧
      ∃ seed, (t.log chat).head? = some seed ∧ seed.kind = .system ∧ seed.content = matchGreeting ∧
        content = matchGreeting
  | .readChat chat user => t.Joins chat receiver user
  | .readMessages chat user numbers =>
    t.Joins chat receiver user ∧
      ∀ n ∈ numbers, ∃ m ∈ t.log chat, m.id = n ∧ m.sender = receiver ∧ m.receiver = user ∧
        m.isRead = true
  | .typing .. => True
  | .delivered .. => True

end Records

/-- **What is backed is confirmed**, if the store has told the truth. -/
theorem Http.Backed.confirms {past : List Exchange} {receiver : UserId} {notice : Notice}
    {t : Records} (h : Http.Backed past receiver notice) (hsound : t.Sound)
    (htold : ∀ (q : StoreRequest) (answer : q.Answer), .told q answer ∈ past → q.Vouches t answer) :
    t.Confirms receiver notice := by
  cases h with
  | @message m stored htext hmem =>
    obtain ⟨hsender, hreceiver, hkind, p, hp⟩ := htold _ _ hmem
    exact ⟨_, hp, rfl, (hsound.message_home _ _ hp).1, hsender, rfl, rfl, hkind.trans htext⟩
  | actor hmem =>
    obtain ⟨hjoins, seed, hseed, hkind, hcontent⟩ := htold _ _ hmem rfl
    exact ⟨hjoins, seed, hseed, hkind, hcontent, rfl⟩
  | target hmem =>
    obtain ⟨⟨chat, hchat, hof⟩, seed, hseed, hkind, hcontent⟩ := htold _ _ hmem rfl
    exact ⟨⟨chat, hchat, (chat.isOf_comm _ _).trans hof⟩, seed, hseed, hkind, hcontent, rfl⟩
  | readChat hmem hother => exact hsound.joins (htold _ _ hmem _ rfl) hother
  | readMessages hmem hother hmarked =>
    have hchat := htold _ _ hmem _ rfl
    refine ⟨hsound.joins hchat hother, fun n hn => ?_⟩
    obtain ⟨m, hm, hid, hreceiver, hread⟩ := htold _ _ hmarked n hn
    exact ⟨m, hm, hid, hsound.sender_eq hchat hother hm hreceiver, hreceiver, hread⟩

/-- A request pushes only what is backed. -/
theorem Http.Permitted.backed {terms : Terms} {r : Http.Request} {past : List Exchange}
    {receiver : UserId} {notice : Notice}
    (h : Http.Permitted terms r past (.push receiver notice)) :
    Http.Backed past receiver notice := by
  cases h with
  | push hplain hbacked => exact hbacked

/-- **What a reader passes on** is a signal in what came, under the name of the user for whom it
reads. -/
theorem Reader.react_eq_relay {user receiver : UserId} {m : Inbound} {notice : Notice}
    (h : Reader.react user m = .relay receiver notice) :
    ∃ content signal, (m = .text content ∨ m = .binary content) ∧
      Signal.decode content = .ok signal ∧ signal.relay user = some (receiver, notice) := by
  have hcontent : ∀ content, Reader.reactToContent user content = .relay receiver notice →
      ∃ signal, Signal.decode content = .ok signal ∧
        signal.relay user = some (receiver, notice) := by
    intro content h
    unfold Reader.reactToContent at h
    split at h
    · exact absurd h (by simp)
    · next signal hdecode =>
      split at h
      · next r n hrelay =>
        obtain ⟨rfl, rfl⟩ := Reader.Reaction.relay.inj h
        exact ⟨signal, hdecode, hrelay⟩
      · exact absurd h (by simp)
  cases m with
  | text content =>
    obtain ⟨signal, hdecode, hrelay⟩ := hcontent content h
    exact ⟨content, signal, Or.inl rfl, hdecode, hrelay⟩
  | binary content =>
    obtain ⟨signal, hdecode, hrelay⟩ := hcontent content h
    exact ⟨content, signal, Or.inr rfl, hdecode, hrelay⟩
  | _ => exact absurd h (by simp [Reader.react])

namespace Service.Course

variable {c : Course} {k : Nat} {id : ConnectionId} {receiver user : UserId} {notice : Notice}

/-! ### What is pushed -/

/-- **A signal was read** before a moment, on a connection that belongs to a user. -/
def Heard (c : Course) (k : Nat) (user : UserId) (signal : Signal) : Prop :=
  ∃ j < k, ∃ i m content ch conn, c.move j = .hear i m ∧
    (m = .text content ∨ m = .binary content) ∧ Signal.decode content = .ok signal ∧
    (c.scene j).channels[i]? = some ch ∧ ch.serving.isReading = true ∧
    (c.scene j).house.board.connection? ch.serving.id = some conn ∧ conn.user = user

/-- Where a notice comes from that is put into a queue: the store has told what backs it, or a reader
has passed it on. -/
theorem Queues.cases (h : c.Queues k id receiver notice) :
    (∃ past, Http.Backed past receiver notice ∧ ∀ e ∈ past, ∃ j < k, ∃ n luck past,
      c.Answers j n luck past e) ∨
    ∃ j < k, c.Passes j receiver notice := by
  obtain ⟨n, luck, v, next, -, hv, hflow, -, -⟩ := h
  have hobeys := c.obeys hv
  rw [hflow] at hobeys
  have hpermitted := hobeys.1
  cases hcause : v.cause with
  | request r =>
    rw [hcause] at hpermitted
    refine Or.inl ⟨v.past, Http.Permitted.backed hpermitted, fun e he => ?_⟩
    obtain ⟨later, earlier, hpast⟩ := List.append_of_mem he
    obtain ⟨j, hj, luck', hans⟩ := c.exists_answers hv ⟨later, hpast.symm⟩
    exact ⟨j, hj, n, luck', earlier, hans⟩
  | relay receiver' notice' =>
    rw [hcause] at hpermitted
    obtain ⟨rfl, rfl⟩ := Call.push.inj hpermitted.2
    obtain ⟨j, hj, hbegins⟩ := c.exists_begins hv
    rw [hcause] at hbegins
    exact Or.inr ⟨j, hj, hbegins⟩

/-- What a reader has passed on was heard on a connection of the user whom it names. -/
theorem Passes.heard {j : Nat} (h : c.Passes j receiver notice) (hjk : j < k) :
    (∃ chat user, notice = .typing chat user ∧ c.Heard k user (.typing chat receiver)) ∨
    ∃ chat user message, notice = .delivered chat user message ∧
      c.Heard k user (.delivered chat receiver message) := by
  obtain ⟨i, m, ch, hm, hch, hreading, hreact⟩ := h
  obtain ⟨content, signal, hcontent, hdecode, hrelay⟩ := Reader.react_eq_relay hreact
  obtain ⟨conn, hconn, huser⟩ := user_of_channel hch
  have hheard : c.Heard k ch.serving.user signal :=
    ⟨j, hjk, i, m, content, ch, conn, hm, hcontent, hdecode, hch, hreading, hconn, huser⟩
  cases signal with
  | typing chat r =>
    obtain ⟨rfl, rfl⟩ := Prod.mk.inj (Option.some.inj hrelay)
    exact Or.inl ⟨chat, _, rfl, hheard⟩
  | delivered chat r message =>
    obtain ⟨rfl, rfl⟩ := Prod.mk.inj (Option.some.inj hrelay)
    exact Or.inr ⟨chat, _, message, rfl, hheard⟩
  | unknown => exact absurd hrelay (by simp [Signal.relay])

/-- **A notice is confirmed by the tables** when it is put into a queue, and ever after. -/
theorem Queues.confirms {l : Nat} (h : c.Queues k id receiver notice) (hkl : k ≤ l)
    (hroom : (c.scene l).house.annals.HasRoom) :
    (c.scene l).house.annals.records.Confirms receiver notice := by
  rcases h.cases with ⟨past, hbacked, hpast⟩ | ⟨j, hj, hpasses⟩
  · refine hbacked.confirms (kept hroom).sound fun q answer hmem => ?_
    obtain ⟨j, hj, n, luck, past', hans⟩ := hpast _ hmem
    exact hans.vouches (Nat.lt_of_lt_of_le hj hkl) hroom
  · rcases hpasses.heard hj with ⟨chat, user, rfl, -⟩ | ⟨chat, user, message, rfl, -⟩ <;>
      exact trivial

/-- **The connection belongs to the receiver.** -/
theorem Queues.connection {l : Nat} (h : c.Queues k id receiver notice) (hkl : k ≤ l) :
    ∃ conn, (c.scene l).house.board.connection? id = some conn ∧ conn.user = receiver := by
  obtain ⟨n, luck, v, next, -, hv, hflow, hfound, -⟩ := h
  obtain ⟨user, notice', next', hflow', hconn⟩ := user_of_found hv _ hfound
  obtain ⟨hcall, -⟩ := Flow.ask.inj (hflow.symm.trans hflow')
  obtain ⟨rfl, -⟩ := Call.push.inj hcall
  obtain ⟨conn, hconn, huser⟩ := hconn id rfl
  obtain ⟨conn', hconn', huser'⟩ := c.connection_later hkl hconn
  exact ⟨conn', hconn', huser'.trans huser⟩

/-- **Every push is justified.** -/
structure PushesJustified (c : Course) : Prop where
  /-- A text that waits in a queue is that of a notice that was put there. -/
  queued : ∀ k id conn s, (c.scene k).house.board.connection? id = some conn →
    .text s ∈ conn.queue →
    ∃ j < k, ∃ receiver notice, c.Queues j id receiver notice ∧ s = notice.encode
  /-- A notice is put into the queue of a connection of the receiver, and comes into it. -/
  receiver : ∀ k id receiver notice, c.Queues k id receiver notice →
    ∃ conn, (c.scene (k + 1)).house.board.connection? id = some conn ∧ conn.user = receiver ∧
      .text notice.encode ∈ conn.queue
  /-- The tables confirm the notice, at the time and as long as their numbers last. -/
  confirmed : ∀ k id receiver notice, c.Queues k id receiver notice → ∀ l, k ≤ l →
    (c.scene l).house.annals.HasRoom → (c.scene l).house.annals.records.Confirms receiver notice
  /-- That a user is typing was read on a connection of this user, in a signal for the receiver. -/
  typing : ∀ k id receiver chat user, c.Queues k id receiver (.typing chat user) →
    c.Heard k user (.typing chat receiver)
  /-- That a message has arrived at a user was read on a connection of this user, in a signal for the
  receiver. -/
  delivered : ∀ k id receiver chat user message,
    c.Queues k id receiver (.delivered chat user message) →
    c.Heard k user (.delivered chat receiver message)

/-- **Every push is justified**, in every course of events. -/
theorem pushesJustified (c : Course) : c.PushesJustified where
  queued k id conn s hconn hs := c.exists_queues hconn hs
  receiver k id receiver notice h := by
    obtain ⟨conn, hconn, hmem⟩ := h.mem
    obtain ⟨conn', hconn', huser⟩ := h.connection (Nat.le_succ k)
    obtain rfl : conn = conn' := Option.some.inj (hconn.symm.trans hconn')
    exact ⟨conn, hconn, huser, hmem⟩
  confirmed k id receiver notice h l hkl hroom := h.confirms hkl hroom
  typing k id receiver chat user h := by
    rcases h.cases with ⟨past, hbacked, -⟩ | ⟨j, hj, hpasses⟩
    · cases hbacked
    · rcases hpasses.heard hj with ⟨chat', user', he, hheard⟩ | ⟨_, _, _, he, -⟩
      · obtain ⟨rfl, rfl⟩ := Notice.typing.inj he
        exact hheard
      · exact absurd he (by simp)
  delivered k id receiver chat user message h := by
    rcases h.cases with ⟨past, hbacked, -⟩ | ⟨j, hj, hpasses⟩
    · cases hbacked
    · rcases hpasses.heard hj with ⟨_, _, he, -⟩ | ⟨chat', user', message', he, hheard⟩
      · exact absurd he (by simp)
      · obtain ⟨rfl, rfl, rfl⟩ := Notice.delivered.inj he
        exact hheard

/-- The user 7 gets a connection, and the user 3 writes to 7. -/
def letter : Course :=
  let luck (user : UserId) : Luck := ⟨⟨0, 0⟩, 0, none, none, false, .ok (some user)⟩
  let bearer := [("authorization", Utf8.encode "Bearer x")]
  let moves : List Move :=
    [.arrive ⟨"POST", Utf8.encode "/ws/start", bearer, [], false⟩, .turn 0 (luck 7),
      .turn 0 (luck 7),
      .arrive ⟨"GET", Utf8.encode "/ws/chat?session=a",
        [("connection", Utf8.encode "Upgrade"), ("upgrade", Utf8.encode "websocket"),
          ("sec-websocket-key", Utf8.encode "k"), ("sec-websocket-version", Utf8.encode "13")],
        [], true⟩, .turn 1 (luck 7), .promote 1, .live 0 (luck 7),
      .arrive ⟨"POST", Utf8.encode "/messages/send",
        ("content-type", Utf8.encode "application/json") :: bearer,
        Utf8.encode "\x7b\"receiver_id\":7,\"content\":\"hi\"\x7d", false⟩,
      .turn 2 (luck 3), .turn 2 (luck 3), .turn 2 (luck 3), .turn 2 (luck 3), .turn 2 (luck 3)]
  ⟨⟨10, none, .everyone⟩, fun _ => "a", fun k => moves[k]?.getD (.wait 0)⟩

example : ((letter.scene 13).house.board.connection? 0).map (·.queue) =
    some [.text (Notice.message 1 1 3 "hi").encode] := by
  decide +kernel

end Service.Course

end Rendezvous
