import Rendezvous.Dealings.Correspondence
import Rendezvous.Proofs.Store.Views
import Rendezvous.Switchboard.Registry

/-!
# Chats of others

A user who writes, reads and looks at chats learns nothing of the chats in which the user takes no
part, and changes nothing there. This is said of two runs: of the same errands of a user, on two
states of the tables that are the same to this user (`Records.Agree`). Both runs come to the same
results and push the same notices, and the tables are the same to the user afterwards; and each run
leaves the chats of others exactly as they were (`Desk.isolated`).

## Why

Of all the calls that the errands make, only one could tell the user about a chat of others: the one
that asks for a chat by its number. `Correspondence.ownChat` makes up for it, since it refuses a chat
of others with the words for a chat that is not there (`Desk.alike_ownChat`). Every other call is
made only after this one has gone well, or speaks of the user's own chats by itself, so that it is
one that the user may make (`Records.Own`).

A task is *alike* in two runs (`Desk.Alike`) if both get the same result wherever the tables are the
same to the user. Tasks that are alike can be put together one after another (`Desk.Alike.bind`); to
know that a chat is the user's own, something may be said about the tables in between.
-/

namespace Rendezvous

namespace Annals

/-- The tables without a chat. The counts stay as they are. -/
def without (a : Annals) (chat : Chat) : Annals :=
  { a with records := a.records.without chat }

theorem Kept.without {a : Annals} (h : a.Kept) {chat : Chat}
    (hc : a.records.chats.get? chat.id = some chat) : (a.without chat).Kept :=
  ⟨h.sound.without hc, h.chats, h.messages⟩

end Annals

/-! ### Desks -/

/-- Where the requests of a user are dealt with, one after another. -/
structure Desk where
  /-- The tables with their past. -/
  annals : Annals
  /-- The connections. -/
  board : Switchboard
  /-- What was pushed, in its order. -/
  pushed : List (UserId × Notice)
  /-- How often the store was asked. -/
  ticks : Nat

namespace Desk

/-- A desk at which nothing was done yet. -/
def start (annals : Annals) (board : Switchboard) : Desk :=
  ⟨annals, board, [], 0⟩

/-- The store is asked. Its clock shows a time for each time that it is asked. -/
def answer (clock : Nat → Timestamp) (d : Desk) (q : StoreRequest) :
    Except StoreError q.Answer × Desk :=
  let (reply, annals) := d.annals.answer (clock d.ticks) q
  (reply, { d with annals, ticks := d.ticks + 1 })

/-- A notice is pushed. -/
def push (d : Desk) (user : UserId) (notice : Notice) : Bool × Desk :=
  let (taken, board) := d.board.send user notice
  (taken, { d with board, pushed := d.pushed ++ [(user, notice)] })

/-- The reply to a call. There are no bearers and no session tokens at a desk. -/
def serve (clock : Nat → Timestamp) : Flow.Server Desk
  | .store q, d => d.answer clock q
  | .push user notice, d => d.push user notice
  | .connected, d => (d.board.count, d)
  | .authenticate _, d => (.ok none, d)
  | .issue .., d => (.error (.backend ""), d)
  | .redeem _, d => (.ok none, d)
  | .revoke _, d => (.ok (), d)

/-- What a task comes to, and the desk after it. -/
def perform {α : Type} (clock : Nat → Timestamp) (task : Task α) (d : Desk) :
    Except Refusal α × Desk :=
  task.run.run (serve clock) d

variable {α β : Type} {clock : Nat → Timestamp} {user : UserId} {d d' : Desk}

/-- What lasts after a flow has lasted before it. -/
theorem hasRoom_of_run {flow : Flow α} (h : (flow.run (serve clock) d).2.annals.HasRoom) :
    d.annals.HasRoom := by
  induction flow generalizing d with
  | done a => exact h
  | ask call next ih =>
    have hnext := ih _ h
    cases call with
    | store q => exact Annals.HasRoom.of_answer hnext
    | _ => exact hnext

/-- **The tables fit together after a flow**, as long as the numbers last. -/
theorem kept_of_run {flow : Flow α} (h : d.annals.Kept)
    (hroom : (flow.run (serve clock) d).2.annals.HasRoom) :
    (flow.run (serve clock) d).2.annals.Kept := by
  induction flow generalizing d with
  | done a => exact h
  | ask call next ih =>
    have hnext : (serve clock call d).2.annals.HasRoom := hasRoom_of_run hroom
    refine ih _ ?_ hroom
    cases call with
    | store q => exact h.answer q hnext
    | _ => exact h

theorem kept_of_perform {task : Task α} {result : Except Refusal α} (h : d.annals.Kept)
    (hout : perform clock task d = (result, d')) (hroom : d'.annals.HasRoom) : d'.annals.Kept := by
  have hrun : (task.run.run (serve clock) d).2 = d' := congrArg Prod.snd hout
  rw [← hrun] at hroom ⊢
  exact kept_of_run h hroom

theorem perform_bind_ok {x : Task α} {f : α → Task β} {a : α}
    (h : perform clock x d = (.ok a, d')) : perform clock (x >>= f) d = perform clock (f a) d' :=
  Flow.run_bind_ok h

theorem perform_bind_error {x : Task α} {f : α → Task β} {e : Refusal}
    (h : perform clock x d = (.error e, d')) : perform clock (x >>= f) d = (.error e, d') :=
  Flow.run_bind_error h

theorem perform_bind (x : Task α) (f : α → Task β) (d : Desk) :
    perform clock (x >>= f) d =
      match perform clock x d with
      | (.ok a, d) => perform clock (f a) d
      | (.error e, d) => (.error e, d) := by
  cases h : perform clock x d with
  | mk result d' =>
    cases result with
    | ok a => exact perform_bind_ok h
    | error e => exact perform_bind_error h

theorem perform_store (q : StoreRequest) (d : Desk) :
    perform clock (Task.store q) d =
      ((d.answer clock q).1.mapError Refusal.ofStore, (d.answer clock q).2) :=
  Task.run_store q

/-- What the store does for a task is done. -/
theorem perform_store_ok {q : StoreRequest} {answer : q.Answer} {t : Records}
    (h : d.annals.records.answer (clock d.ticks) q = (.ok answer, t)) :
    perform clock (Task.store q) d = (.ok answer, (d.answer clock q).2) := by
  rw [perform_store]
  exact Prod.ext (congrArg (fun out => out.1.mapError Refusal.ofStore) h) rfl

theorem perform_push (user : UserId) (notice : Notice) (d : Desk) :
    perform clock (Task.push user notice) d =
      (.ok (d.push user notice).1, (d.push user notice).2) := rfl

/-! ### Two desks -/

/-- **Two desks are the same to a user.** -/
structure Twins (user : UserId) (d d' : Desk) : Prop where
  /-- The tables of the first one fit together. -/
  kept : d.annals.Kept
  /-- The tables of the second one fit together. -/
  kept' : d'.annals.Kept
  /-- The tables are the same to the user. -/
  agree : d.annals.records.Agree user d'.annals.records
  /-- The connections are the same. -/
  board : d'.board = d.board
  /-- The same was pushed. -/
  pushed : d'.pushed = d.pushed
  /-- The clocks are read at the same time. -/
  ticks : d'.ticks = d.ticks

/-- As many chats were opened. -/
theorem Twins.opened (h : Twins user d d') : d'.annals.opened = d.annals.opened := by
  have hchats := h.kept'.chats
  rw [← h.agree.lastChat, h.kept.chats] at hchats
  omega

/-- As many messages were stored. -/
theorem Twins.stored (h : Twins user d d') : d'.annals.stored = d.annals.stored := by
  have hmessages := h.kept'.messages
  rw [← h.agree.lastMessage, h.kept.messages] at hmessages
  omega

/-- **What a user may ask is answered alike at both desks.** -/
theorem Twins.answer (h : Twins user d d') {q : StoreRequest}
    (hown : d.annals.records.Own user q) (hroom : (d.answer clock q).2.annals.HasRoom) :
    (d'.answer clock q).1 = (d.answer clock q).1 ∧
      Twins user (d.answer clock q).2 (d'.answer clock q).2 ∧
      d.annals.records.Leaves user (d.answer clock q).2.annals.records := by
  change (d.annals.answer (clock d.ticks) q).2.HasRoom at hroom
  -- a chat that is opened gets a number that is still free
  have hnext : ∀ opened, q.opened? (d.annals.records.answer (clock d.ticks) q).1 = some opened →
      d.annals.opened + 1 < 2 ^ 63 := by
    intro opened hopened
    have hcount := hroom.1
    change d.annals.opened + q.chatsOpened (d.annals.records.answer (clock d.ticks) q).1 < _ at hcount
    rwa [StoreRequest.chatsOpened, hopened] at hcount
  obtain ⟨hreply, hagree⟩ := h.agree.answer h.kept.sound h.kept'.sound hown
    fun opened hopened => ⟨h.kept.sound.log_next h.kept.chats (hnext opened hopened),
      h.kept'.sound.log_next h.kept'.chats (h.opened ▸ hnext opened hopened)⟩
  have hleaves := Records.leaves_answer hown fun opened hopened =>
    h.kept.sound.get?_next h.kept.chats (hnext opened hopened)
  -- the same answer takes as many numbers from both tables
  have hroom' : (d'.annals.answer (clock d.ticks) q).2.HasRoom := by
    unfold Annals.answer Annals.HasRoom at hroom ⊢
    simpa only [hreply, h.opened, h.stored] using hroom
  refine ⟨?_, ⟨h.kept.answer q hroom, ?_, ?_, h.board, h.pushed, congrArg (· + 1) h.ticks⟩, hleaves⟩
  · unfold Desk.answer
    rw [h.ticks]
    exact hreply
  · unfold Desk.answer
    rw [h.ticks]
    exact h.kept'.answer q hroom'
  · unfold Desk.answer
    rw [h.ticks]
    exact hagree

/-! ### Tasks that are alike -/

/-- **What a task has come to at two desks**: the same, with something that is true of it. -/
structure Alike.Outcome (user : UserId) (d : Desk) (Q : α → Records → Prop)
    (out out' : Except Refusal α × Desk) : Prop where
  /-- The results are the same. -/
  result : out'.1 = out.1
  /-- The desks are the same to the user again. -/
  twins : Twins user out.2 out'.2
  /-- The chats of others are left alone. -/
  leaves : d.annals.records.Leaves user out.2.annals.records
  /-- What is true of the result. -/
  post : ∀ a, out.1 = .ok a → Q a out.2.annals.records

/-- **A task is alike** at any two desks that are the same to the user, if something is true of the
tables, and something is true of its result. -/
def Alike (clock : Nat → Timestamp) (user : UserId) (P : Records → Prop) (task : Task α)
    (Q : α → Records → Prop) : Prop :=
  ∀ d d', Twins user d d' → P d.annals.records → (perform clock task d).2.annals.HasRoom →
    Alike.Outcome user d Q (perform clock task d) (perform clock task d')

variable {P : Records → Prop} {Q : α → Records → Prop} {R : β → Records → Prop}

theorem alike_pure {a : α} (hQ : ∀ t, P t → Q a t) : Alike clock user P (pure a) Q := by
  refine fun d d' h hP _ => ⟨rfl, h, .refl .., fun a' ha' => ?_⟩
  obtain rfl := Except.ok.inj ha'
  exact hQ _ hP

theorem alike_throw (refusal : Refusal) : Alike clock user P (throw refusal) Q :=
  fun _ _ h _ _ => ⟨rfl, h, .refl .., fun _ ha => absurd ha (by simp [perform])⟩

theorem Alike.bind {x : Task α} {f : α → Task β} (hx : Alike clock user P x Q)
    (hf : ∀ a, Alike clock user (Q a) (f a) R) : Alike clock user P (x >>= f) R := by
  intro d d' h hP hroom
  rw [perform_bind] at hroom
  rw [perform_bind, perform_bind]
  -- numbers that last until the end have lasted until the second task
  have hbefore : (perform clock x d).2.annals.HasRoom := by
    generalize perform clock x d = out at hroom ⊢
    obtain ⟨result, d⟩ := out
    cases result with
    | ok a => exact hasRoom_of_run hroom
    | error e => exact hroom
  obtain ⟨hresult, htwins, hleaves, hpost⟩ := hx d d' h hP hbefore
  generalize perform clock x d = out at *
  generalize perform clock x d' = out' at *
  obtain ⟨result, e⟩ := out
  obtain ⟨result', e'⟩ := out'
  obtain rfl : result' = result := hresult
  cases result' with
  | ok a =>
    obtain ⟨hresult, htwins, hleaves', hpost⟩ := hf a e e' htwins (hpost a rfl) hroom
    exact ⟨hresult, htwins, hleaves.trans hleaves', hpost⟩
  | error refusal => exact ⟨rfl, htwins, hleaves, fun _ ha => absurd ha (by simp)⟩

/-- What a user may ask the store. -/
theorem alike_store {q : StoreRequest} {Q : q.Answer → Records → Prop}
    (hown : ∀ t, P t → t.Own user q)
    (hQ : ∀ (t : Records) now answer, t.Sound → P t → (t.answer now q).1 = .ok answer →
      Q answer (t.answer now q).2) : Alike clock user P (Task.store q) Q := by
  intro d d' h hP hroom
  rw [perform_store] at hroom
  rw [perform_store, perform_store]
  obtain ⟨hreply, htwins, hleaves⟩ := h.answer (hown _ hP) hroom
  refine ⟨congrArg (Except.mapError Refusal.ofStore) hreply, htwins, hleaves, fun answer hanswer => ?_⟩
  refine hQ _ (clock d.ticks) answer h.kept.sound hP ?_
  change ((d.annals.records.answer (clock d.ticks) q).1.mapError Refusal.ofStore) = _ at hanswer
  cases hr : (d.annals.records.answer (clock d.ticks) q).1 with
  | ok a =>
    rw [hr] at hanswer
    exact congrArg Except.ok (Except.ok.inj hanswer)
  | error e =>
    rw [hr] at hanswer
    exact absurd hanswer (by simp [Except.mapError])

/-- What is pushed is the same. -/
theorem alike_push {receiver : UserId} {notice : Notice} :
    Alike clock user P (Task.push receiver notice) fun _ _ => True := by
  intro d d' h _ _
  rw [perform_push, perform_push]
  unfold Desk.push
  rw [h.board, h.pushed]
  exact ⟨rfl, ⟨h.kept, h.kept', h.agree, rfl, rfl, h.ticks⟩, .refl .., fun _ _ => trivial⟩

/-! ### What users do -/

/-- The user takes part in this chat. -/
def IsOwn (user : UserId) (id : ChatId) (chat : Chat) (t : Records) : Prop :=
  t.chats.get? id = some chat ∧ chat.hasMember user = true

theorem IsOwn.hasChat {id : ChatId} {chat : Chat} {t : Records} (h : IsOwn user id chat t) :
    t.HasChat user id :=
  ⟨chat, h⟩

/-- What comes of a look at a chat: the chat, if it is the user's own, and one refusal for all
others. -/
theorem perform_ownChat (user : UserId) (id : ChatId) (d : Desk) :
    perform clock (Correspondence.ownChat user id) d =
      (match (d.annals.records.chats.get? id).filter (·.hasMember user) with
        | some chat => .ok chat
        | none => .error (.noChat id),
      { d with ticks := d.ticks + 1 }) := by
  have hanswer : d.answer clock (.chat id) =
      (.ok (d.annals.records.chats.get? id), { d with ticks := d.ticks + 1 }) := rfl
  unfold Correspondence.ownChat
  rw [perform_bind, perform_store, hanswer]
  cases d.annals.records.chats.get? id with
  | none => rfl
  | some chat =>
    cases huser : chat.hasMember user <;>
      simp only [Except.mapError, Option.filter_some, huser, if_true, Bool.false_eq_true, if_false] <;>
      rfl

/-- The user's own chat is found. -/
theorem perform_ownChat_of_member {id : ChatId} {chat : Chat}
    (hchat : d.annals.records.chats.get? id = some chat) (huser : chat.hasMember user = true) :
    perform clock (Correspondence.ownChat user id) d =
      (.ok chat, { d with ticks := d.ticks + 1 }) := by
  rw [perform_ownChat, hchat, Option.filter_some, if_pos huser]

/-- A chat that is not there for the user is refused. -/
theorem perform_ownChat_of_hidden {id : ChatId}
    (hhidden : ∀ chat, d.annals.records.chats.get? id = some chat → chat.hasMember user = false) :
    perform clock (Correspondence.ownChat user id) d =
      (.error (.noChat id), { d with ticks := d.ticks + 1 }) := by
  rw [perform_ownChat]
  cases hchat : d.annals.records.chats.get? id with
  | none => rfl
  | some chat => rw [Option.filter_some, if_neg (by simp [hhidden chat hchat])]

/-- **A chat of others is refused like one that is not there.** -/
theorem alike_ownChat (user : UserId) (id : ChatId) :
    Alike clock user P (Correspondence.ownChat user id) (IsOwn user id) := by
  intro d d' h _ _
  have hfound : (d'.annals.records.chats.get? id).filter (·.hasMember user) =
      (d.annals.records.chats.get? id).filter (·.hasMember user) := by
    refine Option.ext fun chat => ?_
    simp only [Option.filter_eq_some_iff]
    exact and_congr_left fun huser => (h.agree.chat id chat huser).symm
  rw [perform_ownChat, perform_ownChat, hfound]
  refine ⟨rfl, ⟨h.kept, h.kept', h.agree, h.board, h.pushed, congrArg (· + 1) h.ticks⟩, .refl ..,
    fun chat hchat => ?_⟩
  split at hchat
  · next found hfilter =>
    obtain rfl := Except.ok.inj hchat
    exact Option.filter_eq_some_iff.1 hfilter
  · exact absurd hchat (by simp)

/-- The chat that is opened to write to is the user's own. -/
theorem hasChat_openChat {t : Records} {now : Timestamp} {other : UserId} {id : ChatId}
    {created : Bool} (hsound : t.Sound) (hok : (t.openChat now user other).1 = .ok (id, created)) :
    (t.openChat now user other).2.HasChat user id := by
  rcases t.openChat_cases now user other with ⟨-, ho⟩ | ⟨-, id', hid, ho⟩ | ⟨-, -, ho⟩ <;>
    rw [ho] at hok ⊢
  · exact absurd hok (by simp)
  · obtain ⟨rfl, -⟩ := Prod.mk.inj (Except.ok.inj hok)
    obtain ⟨-, since, hc⟩ := hsound.chat_of_pair _ _ _ hid
    exact ⟨_, hc, Records.hasMember_orderedPair ..⟩
  · obtain ⟨rfl, -⟩ := Prod.mk.inj (Except.ok.inj hok)
    exact ⟨_, t.get?_filed_self now _, Records.hasMember_orderedPair ..⟩

theorem alike_chatFor (sender : UserId) (m : Letter) :
    Alike clock sender P (Correspondence.chatFor sender m) fun id t => t.HasChat sender id := by
  unfold Correspondence.chatFor
  split
  · next id _ =>
    refine (alike_ownChat sender id).bind fun chat => ?_
    split
    · exact alike_pure fun _ h => h.hasChat
    · exact alike_throw _
  · refine Alike.bind (Q := fun opened t => t.HasChat sender opened.1)
      (alike_store (fun _ _ => rfl) fun t now opened hsound _ hok => ?_) fun opened => ?_
    · exact hasChat_openChat hsound hok
    · exact alike_pure fun _ h => h

theorem alike_send (sender : UserId) (m : Letter) :
    Alike clock sender P (Correspondence.send sender m) fun _ _ => True := by
  unfold Correspondence.send
  split
  · exact alike_throw _
  · refine (alike_chatFor sender m).bind fun id => ?_
    refine Alike.bind (Q := fun _ _ => True)
      (alike_store (fun _ h => h) fun _ _ _ _ _ _ => trivial) fun stored => ?_
    exact alike_push.bind fun _ => alike_pure fun _ _ => trivial

theorem alike_page (user : UserId) (id : ChatId) (request : PageSpec) :
    Alike clock user P (Correspondence.page user id request) fun _ _ => True := by
  refine (alike_ownChat user id).bind fun chat => ?_
  exact alike_store (fun _ h => h.hasChat) fun _ _ _ _ _ _ => trivial

theorem alike_chats (user : UserId) :
    Alike clock user P (Correspondence.chats user) fun _ _ => True :=
  alike_store (fun _ _ => rfl) fun _ _ _ _ _ _ => trivial

theorem alike_tellOther (chat : Chat) (reader : UserId) (notice : Notice) :
    Alike clock reader P (Correspondence.tellOther chat reader notice) fun _ _ => True := by
  unfold Correspondence.tellOther
  split
  · exact alike_push.bind fun _ => alike_pure fun _ _ => trivial
  · exact alike_pure fun _ _ => trivial

theorem alike_readChat (reader : UserId) (id : ChatId) :
    Alike clock reader P (Correspondence.readChat reader id) fun _ _ => True := by
  refine (alike_ownChat reader id).bind fun chat => ?_
  refine Alike.bind (Q := fun _ _ => True)
    (alike_store (fun _ h => h.hasChat) fun _ _ _ _ _ _ => trivial) fun n => ?_
  split
  · exact (alike_tellOther chat reader _).bind fun _ => alike_pure fun _ _ => trivial
  · exact alike_pure fun _ _ => trivial

theorem alike_readMessages (reader : UserId) (id : ChatId) (numbers : List MessageId) :
    Alike clock reader P (Correspondence.readMessages reader id numbers) fun _ _ => True := by
  unfold Correspondence.readMessages
  split
  · exact alike_throw _
  refine (alike_ownChat reader id).bind fun chat => ?_
  refine Alike.bind (Q := fun _ _ => True)
    (alike_store (fun _ h => h.hasChat) fun _ _ _ _ _ _ => trivial) fun marked => ?_
  split
  · exact (alike_tellOther chat reader _).bind fun _ => alike_pure fun _ _ => trivial
  · exact alike_pure fun _ _ => trivial

end Desk

/-! ### Errands -/

/-- Something that a user may do about chats. -/
inductive Errand where
  /-- To write to somebody. -/
  | send (m : Letter)
  /-- To read a page of a chat. -/
  | page (id : ChatId) (request : PageSpec)
  /-- To look at the list of chats. -/
  | chats
  /-- To mark a chat read. -/
  | readChat (id : ChatId)
  /-- To mark messages read. -/
  | readMessages (id : ChatId) (numbers : List MessageId)

namespace Errand

/-- What comes of an errand. -/
abbrev Result : Errand → Type
  | .send _ => Message
  | .page .. => List Message
  | .chats => List ChatView
  | .readChat _ => Nat
  | .readMessages .. => Nat

/-- How an errand is done for a user. -/
def task (user : UserId) : (e : Errand) → Task e.Result
  | .send m => Correspondence.send user m
  | .page id request => Correspondence.page user id request
  | .chats => Correspondence.chats user
  | .readChat id => Correspondence.readChat user id
  | .readMessages id numbers => Correspondence.readMessages user id numbers

end Errand

namespace Desk

variable {clock : Nat → Timestamp} {user : UserId} {d d' : Desk}

/-- **Every errand is alike** at two desks that are the same to the user. -/
theorem alike_task (user : UserId) (e : Errand) :
    Alike clock user (fun _ => True) (e.task user) fun _ _ => True := by
  cases e with
  | send m => exact alike_send user m
  | page id request => exact alike_page user id request
  | chats => exact alike_chats user
  | readChat id => exact alike_readChat user id
  | readMessages id numbers => exact alike_readMessages user id numbers

/-- The errands of a user, done one after another: what comes of each, and the desk at the end. -/
def work (clock : Nat → Timestamp) (user : UserId) :
    List Errand → Desk → List (Σ e : Errand, Except Refusal e.Result) × Desk
  | [], d => ([], d)
  | e :: rest, d =>
    let (result, d) := perform clock (e.task user) d
    let (results, d) := work clock user rest d
    (⟨e, result⟩ :: results, d)

theorem hasRoom_of_work {errands : List Errand}
    (h : (work clock user errands d).2.annals.HasRoom) : d.annals.HasRoom := by
  induction errands generalizing d with
  | nil => exact h
  | cons e rest ih => exact hasRoom_of_run (ih h)

/-- **All errands of a user are alike** at two desks that are the same to the user. -/
theorem Twins.work (h : Twins user d d') (errands : List Errand)
    (hroom : (work clock user errands d).2.annals.HasRoom) :
    (work clock user errands d').1 = (work clock user errands d).1 ∧
      Twins user (work clock user errands d).2 (work clock user errands d').2 ∧
      d.annals.records.Leaves user (work clock user errands d).2.annals.records := by
  induction errands generalizing d d' with
  | nil => exact ⟨rfl, h, .refl ..⟩
  | cons e rest ih =>
    obtain ⟨hresult, htwins, hleaves, -⟩ := alike_task user e d d' h trivial (hasRoom_of_work hroom)
    obtain ⟨hresults, htwins, hleaves'⟩ := ih htwins hroom
    refine ⟨?_, htwins, hleaves.trans hleaves'⟩
    unfold Desk.work
    simp only [hresult, hresults]

/-! ### Isolation -/

/-- **What a user does is isolated from the chats of others**, with some errands and on two states of
the tables. -/
structure Isolated (clock : Nat → Timestamp) (user : UserId) (board : Switchboard)
    (errands : List Errand) (a a' : Annals) : Prop where
  /-- The results are the same. -/
  results : (work clock user errands (start a' board)).1 = (work clock user errands (start a board)).1
  /-- The same is pushed. -/
  pushed : (work clock user errands (start a' board)).2.pushed =
    (work clock user errands (start a board)).2.pushed
  /-- The tables are the same to the user again. -/
  agree : (work clock user errands (start a board)).2.annals.records.Agree user
    (work clock user errands (start a' board)).2.annals.records
  /-- The first run leaves the chats of others as they were. -/
  leaves : a.records.Leaves user (work clock user errands (start a board)).2.annals.records
  /-- So does the second one. -/
  leaves' : a'.records.Leaves user (work clock user errands (start a' board)).2.annals.records
  /-- A chat of others might as well not be there. -/
  hidden : ∀ id chat, a.records.chats.get? id = some chat → chat.hasMember user = false →
    (a.without chat).records.chats.get? id = none ∧
    (work clock user errands (start (a.without chat) board)).1 =
      (work clock user errands (start a board)).1 ∧
    (work clock user errands (start (a.without chat) board)).2.pushed =
      (work clock user errands (start a board)).2.pushed

theorem twins_start {a a' : Annals} (h : a.Kept) (h' : a'.Kept)
    (hagree : a.records.Agree user a'.records) (board : Switchboard) :
    Twins user (start a board) (start a' board) :=
  ⟨h, h', hagree, rfl, rfl, rfl⟩

/-- **Whatever a user does is isolated from the chats of others**: on any two states of the tables
that are the same to the user, as long as the numbers of chats and messages last. -/
theorem isolated (clock : Nat → Timestamp) (user : UserId) (board : Switchboard)
    (errands : List Errand) {a a' : Annals} (h : a.Kept) (h' : a'.Kept)
    (hagree : a.records.Agree user a'.records)
    (hroom : (work clock user errands (start a board)).2.annals.HasRoom) :
    Isolated clock user board errands a a' := by
  obtain ⟨hresults, htwins, hleaves⟩ := (twins_start h h' hagree board).work errands hroom
  have hroom' : (work clock user errands (start a' board)).2.annals.HasRoom := by
    unfold Annals.HasRoom at hroom ⊢
    rwa [htwins.opened, htwins.stored]
  obtain ⟨-, -, hleaves'⟩ := (twins_start h' h' (.refl ..) board).work errands hroom'
  refine ⟨hresults, htwins.pushed, htwins.agree, hleaves, hleaves', fun id chat hc huser => ?_⟩
  obtain rfl := h.sound.id_eq hc
  obtain ⟨hresults, htwins, -⟩ := (twins_start h (h.without hc) (Records.agree_without hc huser)
    board).work errands hroom
  exact ⟨Table.get?_erase_self .., hresults, htwins.pushed⟩

/-- The user 7 has a chat with 3, and 4 has one with 9. -/
def gossip : Annals :=
  Annals.empty.after [⟨⟨0, 0⟩, .openChat 3 7⟩, ⟨⟨1, 0⟩, .openChat 9 4⟩,
    ⟨⟨2, 0⟩, .append ⟨1, 3, 7, "hi", .text⟩⟩, ⟨⟨3, 0⟩, .append ⟨2, 4, 9, "well", .text⟩⟩]

/-- What 7 tries, also with the chat of the others, and with one that is not there. -/
def curiosity : List Errand :=
  [.page 2 ⟨.latest, 10⟩, .page 8 ⟨.latest, 10⟩, .send ⟨9, "who", some 2⟩, .send ⟨3, "oh", none⟩,
    .readMessages 2 [2], .readChat 1, .chats]

theorem isolated_curiosity : gossip.Kept ∧
    gossip.records.Agree 7 (gossip.without ⟨2, 4, 9, ⟨1, 0⟩⟩).records ∧
    Isolated (fun n => ⟨n, 0⟩) 7 .empty curiosity gossip (gossip.without ⟨2, 4, 9, ⟨1, 0⟩⟩) := by
  have hkept : gossip.Kept := Annals.kept_after _ (by decide)
  have hc : gossip.records.chats.get? 2 = some ⟨2, 4, 9, ⟨1, 0⟩⟩ := by decide
  have hagree : gossip.records.Agree 7 (gossip.without ⟨2, 4, 9, ⟨1, 0⟩⟩).records :=
    Records.agree_without hc (by decide)
  exact ⟨hkept, hagree, isolated _ 7 .empty curiosity hkept (hkept.without hc) hagree
    (by decide +kernel)⟩

end Desk

end Rendezvous
