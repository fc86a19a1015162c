import Rendezvous.Proofs.Database.Insertions

/-!
# Chats in transactions

The two requests that may open a chat talk to the database inside a transaction. What was sent, each
thing with its reply, is a transcript (`Dialogue.transcript`), and an exchange *goes* so if this is
its transcript and this is what it comes to (`Exchange.Goes`). A transcript is made of those of the
parts of an exchange, one after the other.

A transaction is not begun, or it is begun and *concluded* when what is inside has come to something
(`Concluded`). What is inside a request that may open a chat is *settled* in one of a few ways, by
the replies (`Settled`). Whatever the database replies it is one of these, and in each of them the
request is carried out as a whole or not at all (`Atomic`). The rows that it puts in are those of
the two users: their chat, and in a match the first message from the one who asks to the other.
-/

namespace Rendezvous.Database

/-! ### Transcripts -/

/-- **Something that was sent**, with its reply. -/
inductive Said where
  /-- A statement: what it gave, or that it failed. -/
  | statement (s : Statement) (reply : Option Yield)
  /-- A command: whether it was carried out. -/
  | command (text : String) (reply : Bool)
  /-- What is known about the schema. -/
  | history (reply : History)
  /-- A version of the schema: whether it was written down. -/
  | record (version : Applied) (reply : Bool)
  deriving DecidableEq

namespace Said

/-- Something sent and its reply. -/
def of : (s : Saying) → s.Reply → Said
  | .statement s, reply => .statement s reply
  | .command text, reply => .command text reply
  | .history, reply => .history reply
  | .record version, reply => .record version reply

/-- What was sent. -/
def saying : Said → Saying
  | .statement s _ => .statement s
  | .command text _ => .command text
  | .history _ => .history
  | .record version _ => .record version

@[simp] theorem saying_statement (s : Statement) (reply : Option Yield) :
    (statement s reply).saying = .statement s := rfl

@[simp] theorem saying_command (text : String) (reply : Bool) :
    (command text reply).saying = .command text := rfl

end Said

namespace Dialogue

variable {α β σ : Type} {partner : Partner σ}

/-- **All that is sent, with the replies**, when these come from a state. -/
def transcript (partner : Partner σ) : Dialogue α → σ → List Said
  | .done _, _ => []
  | .say saying next, s =>
    let (reply, s') := partner saying s
    .of saying reply :: (next reply).transcript partner s'

theorem transcript_bind (x : Dialogue α) (f : α → Dialogue β) (s : σ) :
    (x >>= f).transcript partner s =
      x.transcript partner s ++ (f (x.run partner s).1).transcript partner (x.run partner s).2 := by
  induction x generalizing s with
  | done a => rfl
  | say saying next ih => exact congrArg (Said.of saying _ :: ·) (ih _ _)

end Dialogue

/-! ### How an exchange goes -/

namespace Exchange

open Dialogue (Partner)

variable {α β σ : Type} {partner : Partner σ} {s s' s'' : σ} {t t' : List Said} {e : StoreError}
  {a : α}

/-- **An exchange goes so**: it has this transcript, comes to this, and leaves its partner in this
state. -/
structure Goes (partner : Partner σ) (x : Exchange α) (s : σ) (t : List Said)
    (r : Except StoreError α) (s' : σ) : Prop where
  /-- What is sent, with the replies. -/
  transcript : x.run.transcript partner s = t
  /-- What it comes to. -/
  run : x.run.run partner s = (r, s')

theorem goes_pure (a : α) (s : σ) : Goes partner (pure a : Exchange α) s [] (.ok a) s :=
  ⟨rfl, rfl⟩

/-- One exchange after another. -/
theorem Goes.bind {x : Exchange α} {f : α → Exchange β} {r : Except StoreError β}
    (hx : Goes partner x s t (.ok a) s') (hf : Goes partner (f a) s' t' r s'') :
    Goes partner (x >>= f) s (t ++ t') r s'' := by
  have hrun : (x >>= f).run = x.run >>= ExceptT.bindCont f := rfl
  constructor
  · rw [hrun, Dialogue.transcript_bind, hx.run, hx.transcript]
    exact congrArg (t ++ ·) hf.transcript
  · rw [hrun, Dialogue.run_bind, hx.run]
    exact hf.run

/-- After what is sent nothing more is. -/
theorem Goes.bind_silent {x : Exchange α} {f : α → Exchange β} {r : Except StoreError β}
    (hx : Goes partner x s t (.ok a) s') (hf : Goes partner (f a) s' [] r s'') :
    Goes partner (x >>= f) s t r s'' :=
  List.append_nil t ▸ hx.bind hf

/-- After a failure nothing is sent. -/
theorem Goes.bind_error {x : Exchange α} (hx : Goes partner x s t (.error e) s')
    (f : α → Exchange β) : Goes partner (x >>= f) s t (.error e) s' := by
  have hrun : (x >>= f).run = x.run >>= ExceptT.bindCont f := rfl
  constructor
  · rw [hrun, Dialogue.transcript_bind, hx.run, hx.transcript]
    exact List.append_nil t
  · rw [hrun, Dialogue.run_bind, hx.run]
    rfl

/-- One thing is sent, and the exchange goes on with its reply. -/
theorem Goes.say {saying : Saying} {reply : saying.Reply} {next : saying.Reply → Exchange α}
    {r : Except StoreError α} (hnext : Goes partner (next reply) s' t r s'')
    (hreply : partner saying s = (reply, s')) :
    Goes partner (ExceptT.mk (Dialogue.send saying >>= fun reply => (next reply).run)) s
      (.of saying reply :: t) r s'' := by
  constructor
  · change Said.of saying (partner saying s).1 ::
      (next (partner saying s).1).run.transcript partner (partner saying s).2 = _
    rw [hreply, hnext.transcript]
  · change (next (partner saying s).1).run.run partner (partner saying s).2 = _
    rw [hreply, hnext.run]

/-- One thing is sent, and its reply is what the exchange comes to. -/
theorem goes_send (saying : Saying) {reply : saying.Reply} (read : saying.Reply → Except StoreError α)
    (hreply : partner saying s = (reply, s')) :
    Goes partner (ExceptT.mk (Dialogue.send saying >>= fun reply => pure (read reply))) s
      [.of saying reply] (read reply) s' :=
  have hnext : Goes partner (ExceptT.mk (pure (read reply))) s' [] (read reply) s' := ⟨rfl, rfl⟩
  hnext.say hreply

/-- What comes of the reply to a statement. -/
def performed : Option Yield → Except StoreError Yield
  | some y => .ok y
  | none => .error (.sql .refused)

theorem goes_perform (partner : Partner σ) (st : Statement) (s : σ) :
    ∃ reply s', Goes partner (perform st) s [.statement st reply] (performed reply) s' := by
  have hperform : perform st = ExceptT.mk (Dialogue.send (.statement st) >>= fun reply =>
      pure (performed reply)) :=
    congrArg (Dialogue.send (.statement st) >>= ·) (funext fun reply => by cases reply <;> rfl)
  rw [hperform]
  exact ⟨_, _, goes_send (.statement st) performed rfl⟩

/-- What comes of the reply to a command. -/
def carriedOut (reply : Bool) : Except StoreError Unit :=
  if reply then .ok () else .error (.sql .refused)

theorem goes_command {text : String} {reply : Bool}
    (hreply : partner (.command text) s = (reply, s')) :
    Goes partner (command text) s [.command text reply] (carriedOut reply) s' := by
  have hcommand : command text = ExceptT.mk (Dialogue.send (.command text) >>= fun reply =>
      pure (carriedOut reply)) :=
    congrArg (Dialogue.send (.command text) >>= ·) (funext fun reply => by cases reply <;> rfl)
  rw [hcommand]
  exact goes_send (.command text) carriedOut hreply

/-! ### Transactions -/

/-- The end of a transaction, when what is inside it has come to something. -/
def conclude : Except StoreError α → Exchange α
  | .error e => retract e
  | .ok a => ExceptT.mk (Dialogue.send (.command commitment) >>= fun reply =>
      (if reply then pure a else retract (.sql .refused) : Exchange α).run)

/-- **How a transaction ends**, when what is inside it has come to something. -/
inductive Concluded : Except StoreError α → List Said → Except StoreError α → Prop where
  /-- What is inside has failed, and is taken back. -/
  | failed (e : StoreError) (reply : Bool) :
      Concluded (.error e) [.command "ROLLBACK" reply] (.error e)
  /-- It is committed. -/
  | committed (a : α) : Concluded (.ok a) [.command "COMMIT" true] (.ok a)
  /-- The commitment is refused, and what is inside is taken back. -/
  | uncommitted (a : α) (reply : Bool) : Concluded (.ok a)
      [.command "COMMIT" false, .command "ROLLBACK" reply] (.error (.sql .refused))

namespace Concluded

variable {r₀ r : Except StoreError α} {ending : List Said}

theorem order (h : Concluded r₀ ending r) :
    (ending.map Said.saying).Sublist [.command "COMMIT", .command "ROLLBACK"] := by
  cases h <;> simp

theorem not_statement (h : Concluded r₀ ending r) (st : Statement) (reply : Option Yield) :
    .statement st reply ∉ ending := by
  cases h <;> simp

theorem not_sent_statement (h : Concluded r₀ ending r) (st : Statement) :
    .statement st ∉ ending.map Said.saying := by
  cases h <;> simp

/-- A commitment is asked for when what is inside has come to something. -/
theorem commits (h : Concluded r₀ ending r) :
    .command "COMMIT" ∈ ending.map Said.saying ↔ ∃ a, r₀ = .ok a := by
  cases h <;> simp

/-- A transaction gives what is inside it when it is committed. -/
theorem eq_ok_iff (h : Concluded r₀ ending r) (a : α) :
    r = .ok a ↔ r₀ = .ok a ∧ .command "COMMIT" true ∈ ending := by
  cases h <;> simp

theorem eq_ok_of_committed (h : Concluded r₀ ending r) (hcommit : .command "COMMIT" true ∈ ending) :
    ∃ a, r₀ = .ok a :=
  h.commits.1 (List.mem_map_of_mem hcommit)

theorem takesBack (h : Concluded r₀ ending r) (hnot : .command "COMMIT" true ∉ ending) :
    ∃ reply, ending.getLast? = some (.command "ROLLBACK" reply) := by
  cases h with
  | failed e reply => exact ⟨reply, rfl⟩
  | committed a => exact absurd (List.mem_singleton_self _) hnot
  | uncommitted a reply => exact ⟨reply, rfl⟩

end Concluded

theorem goes_retract (partner : Partner σ) (e : StoreError) (s : σ) :
    ∃ reply s', Goes partner (retract e : Exchange α) s [.command "ROLLBACK" reply] (.error e) s' :=
  ⟨_, _, goes_send (.command "ROLLBACK") (fun _ => .error e) rfl⟩

theorem goes_conclude (partner : Partner σ) (r₀ : Except StoreError α) (s : σ) :
    ∃ t r s', Goes partner (conclude r₀) s t r s' ∧ Concluded r₀ t r := by
  cases r₀ with
  | error e =>
    obtain ⟨reply, s', hback⟩ := goes_retract (α := α) partner e s
    exact ⟨_, _, s', hback, .failed e reply⟩
  | ok a =>
    cases hreply : partner (.command "COMMIT") s with
    | mk reply s₁ =>
      cases reply with
      | true => exact ⟨_, _, s₁, (goes_pure a s₁).say hreply, .committed a⟩
      | false =>
        obtain ⟨reply, s', hback⟩ := goes_retract (α := α) partner (.sql .refused) s₁
        exact ⟨_, _, s', hback.say hreply, .uncommitted a reply⟩

theorem transaction_eq (body : Exchange α) :
    transaction body = command beginning >>= fun _ =>
      ExceptT.mk (body.run >>= fun r₀ => (conclude r₀).run) := by
  refine congrArg (command beginning >>= ·) (funext fun _ => ?_)
  refine congrArg (body.run >>= ·) (funext fun r₀ => ?_)
  cases r₀ <;> rfl

/-- **A transaction that is not begun** is nothing but that. -/
theorem goes_transaction_refused (body : Exchange α)
    (hbegin : partner (.command "BEGIN") s = (false, s')) :
    Goes partner (transaction body) s [.command "BEGIN" false] (.error (.sql .refused)) s' := by
  rw [transaction_eq]
  exact (goes_command hbegin).bind_error _

/-- **A transaction that is begun**: what is inside it goes in some way, and it ends accordingly. -/
theorem goes_transaction_begun {body : Exchange α} {inner : List Said} {r₀ : Except StoreError α}
    (hbegin : partner (.command "BEGIN") s = (true, s'))
    (hinner : Goes partner body s' inner r₀ s'') :
    ∃ ending r s₁, Concluded r₀ ending r ∧
      Goes partner (transaction body) s (.command "BEGIN" true :: (inner ++ ending)) r s₁ := by
  obtain ⟨ending, r, s₁, hending, hconcluded⟩ := goes_conclude partner r₀ s''
  refine ⟨ending, r, s₁, hconcluded, ?_⟩
  rw [transaction_eq]
  refine (goes_command hbegin).bind ⟨?_, ?_⟩
  · show (body.run >>= fun r₀ => (conclude r₀).run).transcript partner s' = inner ++ ending
    rw [Dialogue.transcript_bind, hinner.run, hinner.transcript, hending.transcript]
  · show (body.run >>= fun r₀ => (conclude r₀).run).run partner s' = (r, s₁)
    rw [Dialogue.run_bind, hinner.run, hending.run]

/-! ### Rows and counts -/

/-- What comes of the reply to a statement of which the first row is wanted. -/
def firstOf (read : Row → Reading α) : Option Yield → Except StoreError (Option α)
  | none => .error (.sql .refused)
  | some y =>
    match y.rows with
    | [] => .ok none
    | row :: _ =>
      match read row with
      | .ok a => .ok (some a)
      | .error f => .error (.sql f)

/-- A first row that has to be there. -/
def required : Except StoreError (Option α) → Except StoreError α
  | .ok (some a) => .ok a
  | .ok none => .error (.sql .noRow)
  | .error e => .error e

theorem ne_of_required_error {r : Except StoreError (Option α)} (h : required r = .error e) (a : α) :
    r ≠ .ok (some a) := by
  rintro rfl
  exact absurd h nofun

theorem goes_first? (partner : Partner σ) (read : Row → Reading α) (st : Statement) (s : σ) :
    ∃ reply s', Goes partner (first? read st) s [.statement st reply] (firstOf read reply) s' := by
  obtain ⟨reply, s', hperform⟩ := goes_perform partner st s
  refine ⟨reply, s', ?_⟩
  unfold first?
  cases reply with
  | none => exact hperform.bind_error _
  | some y =>
    refine hperform.bind_silent ?_
    obtain ⟨rows, touched⟩ := y
    cases rows with
    | nil => exact goes_pure none s'
    | cons row rows =>
      show Goes partner (some <$> ofReading (read row)) s' [] (match read row with
        | .ok a => .ok (some a)
        | .error f => .error (.sql f)) s'
      cases read row <;> exact ⟨rfl, rfl⟩

theorem goes_first (partner : Partner σ) (read : Row → Reading α) (st : Statement) (s : σ) :
    ∃ reply s', Goes partner (first read st) s [.statement st reply]
      (required (firstOf read reply)) s' := by
  obtain ⟨reply, s', hfirst⟩ := goes_first? partner read st s
  refine ⟨reply, s', ?_⟩
  unfold first
  cases hread : firstOf read reply with
  | error e => exact (hread ▸ hfirst).bind_error _
  | ok found =>
    refine (hread ▸ hfirst).bind_silent ?_
    cases found <;> exact ⟨rfl, rfl⟩

theorem goes_count (partner : Partner σ) (st : Statement) (s : σ) :
    ∃ reply s', Goes partner (count st) s [.statement st reply]
      ((performed reply).map Yield.touched) s' := by
  obtain ⟨reply, s', hperform⟩ := goes_perform partner st s
  refine ⟨reply, s', ?_⟩
  unfold count
  cases reply with
  | none => exact hperform.bind_error _
  | some y => exact hperform.bind_silent (goes_pure y.touched s')

end Exchange

/-! ### Opening chats -/

/-- **A request that may open a chat**: for two users, and in a match with a first message from the
one to the other. -/
structure Opening where
  /-- Who asks. -/
  actor : UserId
  /-- With whom. -/
  target : UserId
  /-- What the first message says, in a match. -/
  greeting : Option String
  deriving DecidableEq, Repr

namespace Opening

open Exchange

/-- The request as an exchange: what the store is asked. -/
def exchange (o : Opening) : Exchange (ChatId × Bool) :=
  match o.greeting with
  | none => ask (.openChat o.actor o.target)
  | some content => ask (.openMatch o.actor o.target content)

/-- The first message of a chat with this number, in a match. -/
def greet (o : Opening) (id : ChatId) : Option Statement :=
  o.greeting.map (addGreeting id o.actor o.target)

/-- The request from the other one of the two users. -/
def swap (o : Opening) : Opening :=
  { o with actor := o.target, target := o.actor }

/-- **A reply names a number**: there is a row, and the first one has the number in front. -/
def Names (reply : Option Yield) (id : ChatId) : Prop :=
  ∃ cells rows touched, reply = some ⟨(.integer id :: cells) :: rows, touched⟩

/-- **A reply without a row.** -/
def HasNoRow (reply : Option Yield) : Prop :=
  ∃ touched, reply = some ⟨[], touched⟩

/-- What was said of the number of a chat: there is one in the first row, there is no row, or the
statement failed. A row with anything else than a number in front is a failure too. -/
def number (reply : Option Yield) : Except StoreError (Option ChatId) :=
  firstOf firstInteger reply

/-- The number is the one that the reply names. -/
@[simp] theorem names_iff {reply : Option Yield} {id : ChatId} :
    Names reply id ↔ number reply = .ok (some id) := by
  unfold Names
  match reply with
  | none => simp [number, firstOf]
  | some ⟨[], touched⟩ => simp [number, firstOf]
  | some ⟨[] :: rows, touched⟩ => simp [number, firstOf, firstInteger, readFirst]
  | some ⟨(cell :: cells) :: rows, touched⟩ =>
    cases cell <;> simp [number, firstOf, firstInteger, readFirst, Cell.readInteger]

/-- There is no number when the reply has no row. -/
@[simp] theorem hasNoRow_iff {reply : Option Yield} :
    HasNoRow reply ↔ number reply = .ok none := by
  unfold HasNoRow
  match reply with
  | none => simp [number, firstOf]
  | some ⟨[], touched⟩ => simp [number, firstOf]
  | some ⟨row :: rows, touched⟩ =>
    simp only [number, firstOf]
    cases firstInteger row <;> simp

/-- **What goes on inside the transaction**, and what it comes to. -/
inductive Settled (o : Opening) : List Said → Except StoreError (ChatId × Bool) → Prop where
  /-- The chat cannot be put in. -/
  | refused {reply : Option Yield} {e : StoreError} (hadd : number reply = .error e) :
      Settled o [.statement (addChat o.actor o.target) reply] (.error e)
  /-- It is put in, and no message is wanted. -/
  | added {reply : Option Yield} {id : ChatId} (hadd : number reply = .ok (some id))
      (hplain : o.greet id = none) :
      Settled o [.statement (addChat o.actor o.target) reply] (.ok (id, true))
  /-- It is put in, and its first message as well. -/
  | greeted {reply : Option Yield} {id : ChatId} {g : Statement} (hadd : number reply = .ok (some id))
      (hgreet : o.greet id = some g) (y : Yield) :
      Settled o [.statement (addChat o.actor o.target) reply, .statement g (some y)] (.ok (id, true))
  /-- It is put in, and its first message cannot be. -/
  | ungreeted {reply : Option Yield} {id : ChatId} {g : Statement}
      (hadd : number reply = .ok (some id)) (hgreet : o.greet id = some g) :
      Settled o [.statement (addChat o.actor o.target) reply, .statement g none]
        (.error (.sql .refused))
  /-- It was there, and is found. -/
  | found {reply reply' : Option Yield} {id : ChatId} (hadd : number reply = .ok none)
      (hfind : number reply' = .ok (some id)) :
      Settled o [.statement (addChat o.actor o.target) reply,
        .statement (findChat o.actor o.target) reply'] (.ok (id, false))
  /-- It was there, and is not found. -/
  | lost {reply reply' : Option Yield} {e : StoreError} (hadd : number reply = .ok none)
      (hfind : required (number reply') = .error e) :
      Settled o [.statement (addChat o.actor o.target) reply,
        .statement (findChat o.actor o.target) reply'] (.error e)

variable {σ : Type} (partner : Dialogue.Partner σ)

/-- **Without a first message** the chat is put in or found. -/
theorem goes_findOrAddChat (actor target : UserId) (s : σ) :
    ∃ t r s', Goes partner (findOrAddChat actor target) s t r s' ∧
      Settled ⟨actor, target, none⟩ t r := by
  obtain ⟨reply, s₁, hadd⟩ := goes_first? partner firstInteger (addChat actor target) s
  unfold findOrAddChat
  cases hnumber : firstOf firstInteger reply with
  | error e => exact ⟨_, _, _, (hnumber ▸ hadd).bind_error _, .refused hnumber⟩
  | ok found =>
    rw [hnumber] at hadd
    cases found with
    | some id => exact ⟨_, _, _, hadd.bind (goes_pure (id, true) s₁), .added hnumber rfl⟩
    | none =>
      obtain ⟨reply', s₂, hfind⟩ := goes_first partner firstInteger (findChat actor target) s₁
      cases hrequired : required (firstOf firstInteger reply') with
      | error e =>
        exact ⟨_, _, _, hadd.bind ((hrequired ▸ hfind).bind_error _), .lost hnumber hrequired⟩
      | ok id =>
        have hnumber' : number reply' = .ok (some id) := by
          unfold required at hrequired
          split at hrequired
          · next he => rw [number, he, Except.ok.inj hrequired]
          · exact absurd hrequired nofun
          · exact absurd hrequired nofun
        exact ⟨_, _, _, hadd.bind ((hrequired ▸ hfind).bind (goes_pure (id, false) s₂)),
          .found hnumber hnumber'⟩

/-- What is inside the transaction. -/
def body (o : Opening) : Exchange (ChatId × Bool) :=
  match o.greeting with
  | none => findOrAddChat o.actor o.target
  | some content => do
    let (id, created) ← findOrAddChat o.actor o.target
    if created then
      let _ ← count (addGreeting id o.actor o.target content)
    pure (id, created)

theorem exchange_eq (o : Opening) : o.exchange = transaction o.body := by
  unfold exchange body
  cases o.greeting <;> rfl

/-- **What is inside the transaction settles the request.** It begins with what puts the chat in or
finds it, and only a first message comes after that. -/
theorem goes_body (o : Opening) (s : σ) :
    ∃ inner r s' rest, Goes partner o.body s inner r s' ∧ Settled o inner r ∧
      inner = (findOrAddChat o.actor o.target).run.transcript partner s ++ rest ∧
      ∀ said ∈ rest, ∃ id g reply, o.greet id = some g ∧ said = .statement g reply := by
  obtain ⟨t, r, s', hfind, hsettled⟩ := goes_findOrAddChat partner o.actor o.target s
  rw [hfind.transcript]
  obtain ⟨actor, target, greeting⟩ := o
  cases greeting with
  | none => exact ⟨t, r, s', [], hfind, hsettled, (List.append_nil t).symm, nofun⟩
  | some content =>
    cases hsettled with
    | refused hadd =>
      exact ⟨_, _, s', [], hfind.bind_error _, .refused hadd, (List.append_nil _).symm, nofun⟩
    | @added reply id hadd _ =>
      obtain ⟨reply', s'', hcount⟩ := goes_count partner (addGreeting id actor target content) s'
      have honly : ∀ said ∈ [Said.statement (addGreeting id actor target content) reply'],
          ∃ id g reply, greet ⟨actor, target, some content⟩ id = some g ∧
            said = .statement g reply :=
        fun said hsaid => ⟨id, _, reply', rfl, List.mem_singleton.1 hsaid⟩
      cases reply' with
      | none =>
        exact ⟨_, _, s'', _, hfind.bind (hcount.bind_error _), .ungreeted hadd rfl, rfl, honly⟩
      | some y =>
        exact ⟨_, _, s'', _, hfind.bind (hcount.bind_silent (goes_pure (id, true) s'')),
          .greeted hadd rfl y, rfl, honly⟩
    | greeted hadd hgreet y => exact absurd hgreet nofun
    | ungreeted hadd hgreet => exact absurd hgreet nofun
    | found hadd hfound =>
      exact ⟨_, _, s', [], hfind.bind_silent (goes_pure _ s'), .found hadd hfound,
        (List.append_nil _).symm, nofun⟩
    | lost hadd hlost =>
      exact ⟨_, _, s', [], hfind.bind_error _, .lost hadd hlost, (List.append_nil _).symm, nofun⟩

/-! ### Which statements are which -/

@[simp] theorem addChat_ne_findChat (a b c d : UserId) : addChat a b ≠ findChat c d :=
  fun h => absurd (congrArg Statement.text h)
    (show (addChat 0 0).text ≠ (findChat 0 0).text by decide)

@[simp] theorem findChat_ne_addChat (a b c d : UserId) : findChat a b ≠ addChat c d :=
  (addChat_ne_findChat c d a b).symm

variable {o : Opening} {inner : List Said} {r₀ : Except StoreError (ChatId × Bool)}
  {id id' : ChatId} {g g' : Statement}

theorem addChat_ne_of_greet (h : o.greet id = some g) (a b : UserId) : addChat a b ≠ g := by
  obtain ⟨content, -, rfl⟩ := Option.map_eq_some_iff.1 h
  exact fun h => absurd (congrArg Statement.text h)
    (show (addChat 0 0).text ≠ (addGreeting 0 0 0 "").text by decide)

theorem findChat_ne_of_greet (h : o.greet id = some g) (a b : UserId) : findChat a b ≠ g := by
  obtain ⟨content, -, rfl⟩ := Option.map_eq_some_iff.1 h
  exact fun h => absurd (congrArg Statement.text h)
    (show (findChat 0 0).text ≠ (addGreeting 0 0 0 "").text by decide)

/-- The first message says of which chat it is. -/
theorem greet_eq_iff (h : o.greet id = some g) (h' : o.greet id' = some g') : g = g' ↔ id' = id := by
  obtain ⟨content, hcontent, rfl⟩ := Option.map_eq_some_iff.1 h
  obtain ⟨content', hcontent', rfl⟩ := Option.map_eq_some_iff.1 h'
  obtain rfl : content = content' := Option.some.inj (hcontent.symm.trans hcontent')
  constructor
  · intro heq
    have hcells : some (Parameter.integer id') = some (Parameter.integer id) :=
      congrArg (fun st => st.parameters.head?) heq.symm
    exact Parameter.integer.inj (Option.some.inj hcells)
  · rintro rfl
    rfl

/-- **A reply that lets the request go on**: the transaction is begun, the chat is put in or was
there, it is found if it was there, the first message is put in. -/
def Succeeds (o : Opening) : Said → Prop
  | .statement s reply =>
    if s = addChat o.actor o.target then HasNoRow reply ∨ ∃ id, Names reply id
    else if s = findChat o.actor o.target then ∃ id, Names reply id
    else reply.isSome
  | .command text reply => text = "BEGIN" → reply = true
  | .history _ => True
  | .record _ _ => True

@[simp] theorem succeeds_addChat {reply : Option Yield} :
    o.Succeeds (.statement (addChat o.actor o.target) reply) ↔ ∃ found, number reply = .ok found := by
  simp [Succeeds, Option.exists]

@[simp] theorem succeeds_findChat {reply : Option Yield} :
    o.Succeeds (.statement (findChat o.actor o.target) reply) ↔
      ∃ id, number reply = .ok (some id) := by
  simp [Succeeds]

theorem succeeds_greet {reply : Option Yield} (h : o.greet id = some g) :
    o.Succeeds (.statement g reply) ↔ reply.isSome := by
  simp [Succeeds, (addChat_ne_of_greet h _ _).symm, (findChat_ne_of_greet h _ _).symm]

/-- What ends a transaction is no reason to end it. -/
theorem succeeds_of_concluded {r : Except StoreError (ChatId × Bool)} {ending : List Said}
    (h : Concluded r₀ ending r) : ∀ said ∈ ending, o.Succeeds said := by
  cases h <;> simp [Succeeds]

/-! ### What is inside, by the replies -/

namespace Settled

/-- Only statements are sent, the one that puts the chat in first. -/
theorem order (h : Settled o inner r₀) :
    ∃ id, (inner.map Said.saying).Sublist
      (.statement (addChat o.actor o.target) :: .statement (findChat o.actor o.target) ::
        (o.greet id).toList.map Saying.statement) := by
  cases h with
  | refused hadd => exact ⟨0, by simp⟩
  | added hadd hplain => exact ⟨0, by simp⟩
  | @greeted reply id g hadd hgreet y => exact ⟨id, by simp [hgreet]⟩
  | @ungreeted reply id g hadd hgreet => exact ⟨id, by simp [hgreet]⟩
  | found hadd hfind => exact ⟨0, by simp⟩
  | lost hadd hfind => exact ⟨0, by simp⟩

theorem not_command (h : Settled o inner r₀) (text : String) (reply : Bool) :
    .command text reply ∉ inner := by
  cases h <;> simp

theorem not_sent_command (h : Settled o inner r₀) (text : String) :
    .command text ∉ inner.map Said.saying := by
  cases h <;> simp

theorem puts (h : Settled o inner r₀) :
    .statement (addChat o.actor o.target) ∈ inner.map Said.saying := by
  cases h <;> simp

/-- The chat is looked up when it was not put in. -/
theorem looksUp (h : Settled o inner r₀) :
    .statement (findChat o.actor o.target) ∈ inner.map Said.saying ↔
      ∃ reply, .statement (addChat o.actor o.target) reply ∈ inner ∧ HasNoRow reply := by
  cases h with
  | refused hadd => simp [hadd]
  | added hadd hplain => simp [hadd]
  | greeted hadd hgreet y =>
    simp [hadd, addChat_ne_of_greet hgreet, findChat_ne_of_greet hgreet]
  | ungreeted hadd hgreet =>
    simp [hadd, addChat_ne_of_greet hgreet, findChat_ne_of_greet hgreet]
  | found hadd hfind => simp [hadd]
  | lost hadd hfind => simp [hadd]

/-- The first message of a chat is put in when this chat was. -/
theorem greets (h : Settled o inner r₀) (hgreet : o.greet id = some g) :
    .statement g ∈ inner.map Said.saying ↔
      ∃ reply, .statement (addChat o.actor o.target) reply ∈ inner ∧ Names reply id := by
  have hadd := (addChat_ne_of_greet hgreet o.actor o.target).symm
  have hfind := (findChat_ne_of_greet hgreet o.actor o.target).symm
  cases h with
  | refused hadded => simp [hadd, hadded]
  | added hadded hplain =>
    have hgreeting := Option.map_eq_none_iff.1 hplain
    simp [greet, hgreeting] at hgreet
  | greeted hadded hgreeted y => simp [hadd, hadded, greet_eq_iff hgreet hgreeted,
      addChat_ne_of_greet hgreeted]
  | ungreeted hadded hgreeted => simp [hadd, hadded, greet_eq_iff hgreet hgreeted,
      addChat_ne_of_greet hgreeted]
  | found hadded hfound => simp [hadd, hfind, hadded]
  | lost hadded hlost => simp [hadd, hfind, hadded]

/-- What is inside comes to something when all of it succeeds. -/
theorem succeeds (h : Settled o inner r₀) :
    (∀ said ∈ inner, o.Succeeds said) ↔ ∃ a, r₀ = .ok a := by
  cases h with
  | refused hadd => simp [hadd]
  | added hadd hplain => simp [hadd]
  | greeted hadd hgreet y => simp [hadd, succeeds_greet hgreet]
  | ungreeted hadd hgreet => simp [hadd, succeeds_greet hgreet]
  | found hadd hfind => simp [hadd, hfind]
  | lost hadd hfind => simp [hadd, ne_of_required_error hfind]

/-- What is inside gives a new chat when it was put in, with its first message. -/
theorem eq_new_iff (h : Settled o inner r₀) :
    r₀ = .ok (id, true) ↔ (∀ said ∈ inner, o.Succeeds said) ∧
      ∃ reply, .statement (addChat o.actor o.target) reply ∈ inner ∧ Names reply id := by
  rw [h.succeeds]
  cases h with
  | refused hadd => simp
  | added hadd hplain => simp [hadd]
  | greeted hadd hgreet y => simp [hadd, addChat_ne_of_greet hgreet]
  | ungreeted hadd hgreet => simp
  | found hadd hfind => simp [hadd]
  | lost hadd hfind => simp

/-- What is inside gives a chat that was there when it was not put in and then found. -/
theorem eq_old_iff (h : Settled o inner r₀) :
    r₀ = .ok (id, false) ↔
      (∃ reply, .statement (addChat o.actor o.target) reply ∈ inner ∧ HasNoRow reply) ∧
      ∃ reply, .statement (findChat o.actor o.target) reply ∈ inner ∧ Names reply id := by
  cases h with
  | refused hadd => simp [hadd]
  | added hadd hplain => simp [hadd]
  | greeted hadd hgreet y => simp [hadd, addChat_ne_of_greet hgreet]
  | ungreeted hadd hgreet => simp [hadd, addChat_ne_of_greet hgreet]
  | found hadd hfind => simp [hadd, hfind]
  | lost hadd hfind => simp [hadd, ne_of_required_error hfind]

end Settled

/-! ### The whole request -/

/-- **Is this about the chat itself** and not about a message of it? -/
def ofChat (o : Opening) (said : Said) : Bool :=
  said.saying = .statement (addChat o.actor o.target) ∨
    said.saying = .statement (findChat o.actor o.target)

theorem ofChat_findOrAddChat (o : Opening) (s : σ) :
    ∀ said ∈ (findOrAddChat o.actor o.target).run.transcript partner s, o.ofChat said := by
  intro said hsaid
  obtain ⟨t, r, s', hfind, hsettled⟩ := goes_findOrAddChat partner o.actor o.target s
  obtain ⟨id, horder⟩ := hsettled.order
  rw [hfind.transcript] at hsaid
  simpa [ofChat, greet] using horder.subset (List.mem_map_of_mem hsaid)

/-- **How a request goes**: the transaction is not begun, or it is settled inside and concluded. -/
theorem goes_exchange (o : Opening) (s : σ) :
    (∃ s', partner (.command "BEGIN") s = (false, s') ∧
      Goes partner o.exchange s [.command "BEGIN" false] (.error (.sql .refused)) s') ∨
    ∃ s₁ inner r₀ ending r s', partner (.command "BEGIN") s = (true, s₁) ∧
      Settled o inner r₀ ∧ Concluded r₀ ending r ∧
      Goes partner o.exchange s (.command "BEGIN" true :: (inner ++ ending)) r s' ∧
      inner.filter o.ofChat = (findOrAddChat o.actor o.target).run.transcript partner s₁ := by
  rw [exchange_eq]
  cases hbegin : partner (.command "BEGIN") s with
  | mk begun s₁ =>
    cases begun with
    | false => exact Or.inl ⟨s₁, rfl, goes_transaction_refused _ hbegin⟩
    | true =>
      obtain ⟨inner, r₀, s₂, rest, hinner, hsettled, hparts, hrest⟩ := goes_body partner o s₁
      obtain ⟨ending, r, s', hconcluded, hgoes⟩ := goes_transaction_begun hbegin hinner
      refine Or.inr ⟨s₁, inner, r₀, ending, r, s', rfl, hsettled, hconcluded, hgoes, ?_⟩
      rw [hparts, List.filter_append, List.filter_eq_self.2 (ofChat_findOrAddChat partner o s₁),
        List.filter_eq_nil_iff.2 fun said hsaid => ?_, List.append_nil]
      obtain ⟨id, g, reply, hgreet, rfl⟩ := hrest said hsaid
      simp [ofChat, (addChat_ne_of_greet hgreet _ _).symm, (findChat_ne_of_greet hgreet _ _).symm]

/-- **A request is carried out as a whole or not at all**, going by what was sent with the replies,
and by what it comes to. -/
structure Atomic (o : Opening) (t : List Said) (r : Except StoreError (ChatId × Bool)) : Prop where
  /-- The chat is put in, or looked up, as the one of the two users in their canonical order. It is
  put in unless there is one, and its number is wanted. -/
  chat : ∃ first second, first ≤ second ∧
    ((first = o.actor ∧ second = o.target) ∨ (first = o.target ∧ second = o.actor)) ∧
    addChat o.actor o.target = (newChat first second).statement ∧
    findChat o.actor o.target = (oldChat first second).statement
  /-- In a match, the first message of a chat is put in as one of the service's own, from the user who
  asks to the other one, and says what it is to say. -/
  seed : ∀ id, o.greet id = o.greeting.map fun content =>
    (firstMessage id o.actor o.target content).statement
  /-- The transaction is begun before anything else. -/
  begins : ∃ reply, t.head? = some (.command "BEGIN" reply)
  /-- Nothing else is sent than these, each at most once and in this order. -/
  order : ∃ id, (t.map Said.saying).Sublist
    (.command "BEGIN" :: .statement (addChat o.actor o.target) ::
      .statement (findChat o.actor o.target) :: (o.greet id).toList.map Saying.statement ++
        [.command "COMMIT", .command "ROLLBACK"])
  /-- The chat is put in when the transaction is begun. -/
  puts : .statement (addChat o.actor o.target) ∈ t.map Said.saying ↔ .command "BEGIN" true ∈ t
  /-- It is looked up when putting it in gave no row. -/
  looksUp : .statement (findChat o.actor o.target) ∈ t.map Said.saying ↔
    ∃ reply, .statement (addChat o.actor o.target) reply ∈ t ∧ HasNoRow reply
  /-- In a match, the first message of a chat is put in when putting the chat in gave its number. -/
  greets : ∀ id g, o.greet id = some g → (.statement g ∈ t.map Said.saying ↔
    ∃ reply, .statement (addChat o.actor o.target) reply ∈ t ∧ Names reply id)
  /-- A commitment is asked for when all that was sent before has succeeded. -/
  commits : .command "COMMIT" ∈ t.map Said.saying ↔ ∀ said ∈ t, o.Succeeds said
  /-- There is a result when the commitment is confirmed, and else an error. -/
  succeeds : (∃ a, r = .ok a) ↔ .command "COMMIT" true ∈ t
  /-- It is a new chat when putting it in gave a row, with the number that this gave. -/
  opens : ∀ id, r = .ok (id, true) ↔ .command "COMMIT" true ∈ t ∧
    ∃ reply, .statement (addChat o.actor o.target) reply ∈ t ∧ Names reply id
  /-- It is an old one when putting it in gave no row, with the number that looking it up gave. -/
  finds : ∀ id, r = .ok (id, false) ↔ .command "COMMIT" true ∈ t ∧
    (∃ reply, .statement (addChat o.actor o.target) reply ∈ t ∧ HasNoRow reply) ∧
    ∃ reply, .statement (findChat o.actor o.target) reply ∈ t ∧ Names reply id
  /-- A transaction that was begun and is not committed is taken back in the end. -/
  takesBack : .command "BEGIN" true ∈ t → .command "COMMIT" true ∉ t →
    ∃ reply, t.getLast? = some (.command "ROLLBACK" reply)

/-- The chat is put in and looked up by its two users, whoever of them asks. -/
theorem chat_eq (a b : UserId) : ∃ first second, first ≤ second ∧
    ((first = a ∧ second = b) ∨ (first = b ∧ second = a)) ∧
    addChat a b = (newChat first second).statement ∧
    findChat a b = (oldChat first second).statement := by
  obtain ⟨first, second, hle, hpair, hparameters⟩ := canonical_pair a b
  exact ⟨first, second, hle, hpair, addChat_eq hparameters, findChat_eq hparameters⟩

/-- The first message is from the user who asks. -/
theorem greet_eq (o : Opening) (id : ChatId) : o.greet id = o.greeting.map fun content =>
    (firstMessage id o.actor o.target content).statement :=
  congrArg (o.greeting.map ·) (funext fun content => addGreeting_eq id o.actor o.target content)

theorem atomic_unbegun (o : Opening) :
    Atomic o [.command "BEGIN" false] (.error (.sql .refused)) where
  chat := chat_eq o.actor o.target
  seed := o.greet_eq
  begins := ⟨false, rfl⟩
  order := ⟨0, by simp⟩
  puts := by simp
  looksUp := by simp
  greets := by simp
  commits := by simp [Succeeds]
  succeeds := by simp
  opens := by simp
  finds := by simp
  takesBack := by simp

theorem atomic_begun {ending : List Said} {r : Except StoreError (ChatId × Bool)}
    (hinner : Settled o inner r₀) (hending : Concluded r₀ ending r) :
    Atomic o (.command "BEGIN" true :: (inner ++ ending)) r := by
  -- A statement was sent inside, a commitment after that.
  have hstatement (st reply) : .statement st reply ∈
      (.command "BEGIN" true :: (inner ++ ending) : List Said) ↔ .statement st reply ∈ inner := by
    simp [hending.not_statement]
  have hsent (st) : .statement st ∈
      (.command "BEGIN" true :: (inner ++ ending) : List Said).map Said.saying ↔
        .statement st ∈ inner.map Said.saying := by
    rw [List.map_cons, List.map_append, List.mem_cons, List.mem_append]
    simp only [hending.not_sent_statement, or_false, Said.saying_command, reduceCtorEq, false_or]
  have hcommitted : .command "COMMIT" true ∈
      (.command "BEGIN" true :: (inner ++ ending) : List Said) ↔
        .command "COMMIT" true ∈ ending := by
    simp [hinner.not_command]
  exact {
    chat := chat_eq o.actor o.target
    seed := o.greet_eq
    begins := ⟨true, rfl⟩
    order := by
      obtain ⟨id, horder⟩ := hinner.order
      rw [List.map_cons, List.map_append]
      exact ⟨id, (horder.append hending.order).cons_cons _⟩
    puts := by simp only [hsent, hinner.puts, List.mem_cons_self]
    looksUp := by
      simp only [hsent, hstatement]
      exact hinner.looksUp
    greets := by
      simp only [hsent, hstatement]
      exact fun id g hgreet => hinner.greets hgreet
    commits := by
      have hasked : .command "COMMIT" ∈
          (.command "BEGIN" true :: (inner ++ ending) : List Said).map Said.saying ↔
            .command "COMMIT" ∈ ending.map Said.saying := by
        rw [List.map_cons, List.map_append, List.mem_cons, List.mem_append]
        simp only [hinner.not_sent_command, false_or, Said.saying_command]
        exact or_iff_right (by decide)
      rw [hasked, hending.commits, ← hinner.succeeds, List.forall_mem_cons, List.forall_mem_append]
      exact ⟨fun h => ⟨fun _ => rfl, h, succeeds_of_concluded hending⟩, fun h => h.2.1⟩
    succeeds := by
      simp only [hcommitted, hending.eq_ok_iff, exists_and_right]
      exact ⟨fun h => h.2, fun h => ⟨hending.eq_ok_of_committed h, h⟩⟩
    opens := by
      intro id
      rw [hcommitted, hending.eq_ok_iff, hinner.eq_new_iff]
      simp only [hstatement]
      exact ⟨fun h => ⟨h.2, h.1.2⟩,
        fun h => ⟨⟨hinner.succeeds.2 (hending.eq_ok_of_committed h.1), h.2⟩, h.1⟩⟩
    finds := by
      intro id
      simp only [hcommitted, hstatement, hending.eq_ok_iff, hinner.eq_old_iff, and_comm]
    takesBack := by
      intro _ hnot
      obtain ⟨reply, hlast⟩ := hending.takesBack (mt hcommitted.2 hnot)
      exact ⟨reply, by simp [List.getLast?_cons, List.getLast?_append, hlast]⟩
  }

/-- **What is sent about the chat** is what puts it in or finds it, once the transaction is begun. -/
theorem filter_exchange (o : Opening) (s : σ) :
    (o.exchange.run.transcript partner s).filter o.ofChat =
      if (partner (.command "BEGIN") s).1 then
        (findOrAddChat o.actor o.target).run.transcript partner (partner (.command "BEGIN") s).2
      else [] := by
  rcases goes_exchange partner o s with
    ⟨s', hbegin, hgoes⟩ | ⟨s₁, inner, r₀, ending, r, s', hbegin, -, hending, hgoes, hchat⟩
  · rw [hgoes.transcript, hbegin]
    simp [ofChat]
  · have hnone : ending.filter o.ofChat = [] := by
      refine List.filter_eq_nil_iff.2 fun said hsaid hof => ?_
      have hsent := List.mem_map_of_mem (f := Said.saying) hsaid
      rcases of_decide_eq_true hof with h | h <;>
        exact hending.not_sent_statement _ (h ▸ hsent)
    rw [hgoes.transcript, hbegin, List.filter_cons_of_neg (by simp [ofChat]), List.filter_append,
      hnone, List.append_nil, hchat]
    rfl

/-- **A request that may open a chat is carried out as a whole or not at all**, whatever the
database replies; and the other one of the two users would have it send the same about the chat. -/
theorem openedAsAWhole (partner : Dialogue.Partner σ) (o : Opening) (s : σ) :
    Atomic o (o.exchange.run.transcript partner s) (o.exchange.run.run partner s).1 ∧
      (o.swap.exchange.run.transcript partner s).filter o.ofChat =
        (o.exchange.run.transcript partner s).filter o.ofChat := by
  have hswap : o.swap.ofChat = o.ofChat := by
    funext said
    simp only [ofChat, swap, addChat_comm o.target, findChat_comm o.target]
  rw [← hswap, filter_exchange, hswap, filter_exchange]
  constructor
  · rcases goes_exchange partner o s with
      ⟨s', -, hgoes⟩ | ⟨s₁, inner, r₀, ending, r, s', -, hinner, hending, hgoes, -⟩
    · rw [hgoes.transcript, hgoes.run]
      exact atomic_unbegun o
    · rw [hgoes.transcript, hgoes.run]
      exact atomic_begun hinner hending
  · rw [swap, findOrAddChat_comm]

end Opening

end Rendezvous.Database
