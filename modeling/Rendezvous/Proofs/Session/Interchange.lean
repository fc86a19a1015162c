import Mathlib.Data.List.Basic
import Rendezvous.Proofs.Session.SingleUse
import Rendezvous.Proofs.Text.Numeral
import Rendezvous.Session.KeyServer

/-!
# Session tokens here or there

The service keeps its session tokens itself, in the ledger, or has a key server keep them. Nobody
who is given a token, uses it or has it revoked can tell which: the same calls at the same times get
the same replies (`KeyKeeper.interchangeable`).

## The server

Nothing is said here about how a key server works. It is *some* server (`KeyKeeper`): at any moment
it keeps texts under keys, and it does what it is told and answers. What is expected of it
(`KeyKeeper.Obedient`) is that it does one command after another and each of them as a whole: it
keeps a text from the moment it is told to until the milliseconds that it was told are over, it
gives a text and deletes its key in one go, and it deletes a key. It may also fail at any command;
then it says so, and keeps what it has kept.

## Why the replies are the same

A server *mirrors* the ledger (`KeyKeeper.Mirrors`) if under the key of each token it keeps the
number of the user who may use the token, for as long as the token is worth something. Three things
have to come together for this to last. Different tokens have different keys, a user is read from
the number that was printed (`Numeral.readInt64_printInt`), and a life that is a whole number of
milliseconds is over at the same instant on both sides. A command that fails is one that was never
given, so a ledger that did not hear of it goes on being mirrored.
-/

namespace Rendezvous

/-! ### Calls and their replies -/

/-- What is asked of a holder of session tokens. -/
inductive TokenAct where
  /-- Give out this token to a user for some time. -/
  | issue (token : String) (user : UserId) (life : Nanos)
  /-- Use a token. -/
  | redeem (token : String)
  /-- Revoke a token. -/
  | revoke (token : String)
  deriving DecidableEq, Repr

/-- **A call** at a holder of session tokens. -/
structure TokenCall where
  /-- What the clock says. -/
  moment : Nanos
  /-- What is asked. -/
  act : TokenAct
  deriving DecidableEq, Repr

/-- What a holder of session tokens replies. -/
inductive TokenReply where
  /-- The token that was given out. -/
  | issued (reply : Except HolderError String)
  /-- The user who may use the token, if anybody may. -/
  | redeemed (reply : Except HolderError (Option UserId))
  /-- The token is worth nothing any more. -/
  | revoked (reply : Except HolderError Unit)
  deriving DecidableEq

/-- What the ledger replies to a call, and the ledger after it; `none` when the clock cannot count
as far as a token is to live. -/
def Ledger.reply? (l : Ledger) (c : TokenCall) : Option (TokenReply × Ledger) :=
  match c.act with
  | .issue token user life =>
    (l.issue? c.moment token user life).map fun l' => (.issued (.ok token), l')
  | .redeem token =>
    let (owner, l') := l.redeem c.moment token
    some (.redeemed (.ok owner), l')
  | .revoke token => some (.revoked (.ok ()), l.revoke token)

/-- What the ledger replies to one call after another. -/
def Ledger.replies? (l : Ledger) : List TokenCall → Option (List TokenReply)
  | [] => some []
  | c :: rest => do
    let (reply, l') ← l.reply? c
    let replies ← l'.replies? rest
    pure (reply :: replies)

namespace TokenCall

/-- The command that a key server is given. -/
def command (c : TokenCall) : KeyCommand :=
  match c.act with
  | .issue token user life => KeySession.issue token user life
  | .redeem token => KeySession.redeem token
  | .revoke token => KeySession.revoke token

/-- What is replied when the key server has answered. -/
def reply (c : TokenCall) (answer : KeyReply) : TokenReply :=
  match c.act with
  | .issue token _ _ => .issued (KeySession.issued token answer)
  | .redeem _ => .redeemed (KeySession.redeemed answer)
  | .revoke _ => .revoked (KeySession.revoked answer)

/-- The reply to a call that the holder of the tokens could not be asked, for this reason. -/
def unanswered (c : TokenCall) (reason : String) : TokenReply :=
  match c.act with
  | .issue .. => .issued (.error (.backend reason))
  | .redeem _ => .redeemed (.error (.backend reason))
  | .revoke _ => .revoked (.error (.backend reason))

/-- **A call on usual terms**: a token is given out for a whole number of milliseconds of less than
64 bits with a sign, and the clock is not about to end. -/
def Usual (c : TokenCall) : Prop :=
  c.moment + ofMillis 9223372036854775808 ≤ clockEnd ∧
    ∀ token user life, c.act = .issue token user life →
      ∃ n, 0 < n ∧ n < 9223372036854775808 ∧ life = ofMillis n

end TokenCall

theorem KeySession.key_inj {token token' : String} : key token = key token' ↔ token = token' :=
  String.append_right_inj _

/-- A life of whole milliseconds is counted as it is. -/
theorem KeySession.millis_ofMillis {n : Nat} (hpos : 0 < n) (hlt : n < 9223372036854775808) :
    millis (ofMillis n) = n := by
  have hwhole : wholeMillis (ofMillis n) = n := Nat.mul_div_cancel n (by decide)
  unfold millis
  rw [hwhole, Nat.mod_eq_of_lt (by omega)]
  omega

/-! ### Key servers -/

/-- The command failed. -/
def KeyReply.isFailed : KeyReply → Bool
  | .failed _ => true
  | _ => false

/-- **Some key server.** -/
structure KeyKeeper (σ : Type) where
  /-- The text that it keeps under a key at a moment, if it is told nothing until then. -/
  kept? : σ → Nanos → String → Option String
  /-- What it answers to a command, and how it goes on. -/
  execute : σ → Nanos → KeyCommand → KeyReply × σ

namespace KeyKeeper

variable {σ : Type} (K : KeyKeeper σ)

/-- **A server that does what it is told**, or says that it does not. -/
structure Obedient : Prop where
  /-- A text is kept until its milliseconds are over. -/
  set : ∀ s now key value millis, (K.execute s now (.set key value millis)).1.isFailed = false →
    (K.execute s now (.set key value millis)).1 = .done ∧
    ∀ t, now ≤ t → ∀ k, K.kept? (K.execute s now (.set key value millis)).2 t k =
      if k = key then (if t < now + ofMillis millis then some value else none) else K.kept? s t k
  /-- A text is given, and its key is deleted. -/
  take : ∀ s now key, (K.execute s now (.take key)).1.isFailed = false →
    (K.execute s now (.take key)).1 = .text (K.kept? s now key) ∧
    ∀ t, now ≤ t → ∀ k, K.kept? (K.execute s now (.take key)).2 t k =
      if k = key then none else K.kept? s t k
  /-- A key is deleted. -/
  delete : ∀ s now key, (K.execute s now (.delete key)).1.isFailed = false →
    (∃ n, (K.execute s now (.delete key)).1 = .count n) ∧
    ∀ t, now ≤ t → ∀ k, K.kept? (K.execute s now (.delete key)).2 t k =
      if k = key then none else K.kept? s t k
  /-- Nothing is done by a command that fails. -/
  failed : ∀ s now c, (K.execute s now c).1.isFailed = true →
    ∀ t, now ≤ t → ∀ k, K.kept? (K.execute s now c).2 t k = K.kept? s t k

/-- The calls, each with what the server answers to its command. -/
def exchanges (s : σ) : List TokenCall → List (TokenCall × KeyReply)
  | [] => []
  | c :: rest =>
    let (answer, s') := K.execute s c.moment c.command
    (c, answer) :: exchanges s' rest

/-- What is replied to some calls. -/
def replies (s : σ) (calls : List TokenCall) : List TokenReply :=
  (K.exchanges s calls).map fun e => e.1.reply e.2

/-- The calls that the server does not fail, each with its answer. -/
def served (s : σ) (calls : List TokenCall) : List (TokenCall × KeyReply) :=
  (K.exchanges s calls).filter fun e => !e.2.isFailed

/-- **A server mirrors the ledger** from a moment on: it keeps the number of the user of each token
that is worth something. -/
def Mirrors (s : σ) (l : Ledger) (now : Nanos) : Prop :=
  ∀ t, now ≤ t → ∀ token, K.kept? s t (KeySession.key token) =
    ((l.held? token).filter fun e => t < e.expiresAt).map fun e => Numeral.printInt e.user.toInt

variable {K} {s : σ} {l : Ledger} {now : Nanos}

theorem Mirrors.mono {later : Nanos} (h : K.Mirrors s l now) (hle : now ≤ later) :
    K.Mirrors s l later :=
  fun t ht => h t (Nat.le_trans hle ht)

/-- A command that fails is one that was never given. -/
theorem Mirrors.failed (h : K.Mirrors s l now) (hK : K.Obedient) {c : KeyCommand}
    (hfail : (K.execute s now c).1.isFailed = true) :
    K.Mirrors (K.execute s now c).2 l now := by
  intro t ht token
  rw [hK.failed s now c hfail t ht]
  exact h t ht token

/-- **A token is given out** on both sides. -/
theorem Mirrors.issue (h : K.Mirrors s l now) (hK : K.Obedient) {token : String} {user : UserId}
    {n : Nat} (hpos : 0 < n) (hlt : n < 9223372036854775808)
    (hroom : now + ofMillis 9223372036854775808 ≤ clockEnd)
    (hdone : (K.execute s now (KeySession.issue token user (ofMillis n))).1.isFailed = false) :
    ∃ l', l.issue? now token user (ofMillis n) = some l' ∧
      (K.execute s now (KeySession.issue token user (ofMillis n))).1 = .done ∧
      K.Mirrors (K.execute s now (KeySession.issue token user (ofMillis n))).2 l' now := by
  have hclock : now + ofMillis n < clockEnd := by
    have hspan : ofMillis n < ofMillis 9223372036854775808 :=
      Nat.mul_lt_mul_of_pos_right hlt (by decide)
    exact Nat.lt_of_lt_of_le (Nat.add_lt_add_left hspan now) hroom
  obtain ⟨hanswer, hkept⟩ := hK.set s now _ _ _ hdone
  obtain ⟨l', hl'⟩ : ∃ l', l.issue? now token user (ofMillis n) = some l' := ⟨_, if_pos hclock⟩
  refine ⟨l', hl', hanswer, fun t ht token' => ?_⟩
  rw [Ledger.held?_issue? hl']
  unfold KeySession.issue
  rw [hkept t ht, KeySession.millis_ofMillis hpos hlt]
  by_cases he : token' = token
  · subst he
    by_cases hlive : t < now + ofMillis n
    · simp [Option.filter_some, hlive]
    · simp [Option.filter_some, hlive]
  · rw [if_neg (mt KeySession.key_inj.1 he), if_neg he]
    exact h t ht token'

/-- **A token is taken out** on both sides. -/
theorem Mirrors.revoke (h : K.Mirrors s l now) {token : String} {s' : σ}
    (hkept : ∀ t, now ≤ t → ∀ k, K.kept? s' t k =
      if k = KeySession.key token then none else K.kept? s t k) :
    K.Mirrors s' (l.revoke token) now := by
  intro t ht token'
  rw [hkept t ht, Ledger.held?_revoke]
  by_cases he : token' = token
  · rw [if_pos (congrArg _ he), if_pos he]
    rfl
  · rw [if_neg (mt KeySession.key_inj.1 he), if_neg he]
    exact h t ht token'

/-- **Whom the server names is whom the ledger names.** -/
theorem Mirrors.redeemed (h : K.Mirrors s l now) (token : String) :
    KeySession.redeemed (.text (K.kept? s now (KeySession.key token))) =
      .ok (l.redeem now token).1 := by
  have howner : (l.redeem now token).1 =
      ((l.held? token).filter fun e => now < e.expiresAt).map (·.user) := rfl
  rw [h now (Nat.le_refl now), howner]
  cases (l.held? token).filter fun e => now < e.expiresAt with
  | none => rfl
  | some e => simp [KeySession.redeemed, Numeral.readInt64_printInt]

/-- **One call**: it fails and is forgotten, or the ledger gives the same reply; in both cases the
server goes on mirroring the ledger. -/
theorem Mirrors.call (hK : K.Obedient) {c : TokenCall} (h : K.Mirrors s l c.moment)
    (husual : c.Usual) :
    ((K.execute s c.moment c.command).1.isFailed = true ∧
      K.Mirrors (K.execute s c.moment c.command).2 l c.moment) ∨
    ((K.execute s c.moment c.command).1.isFailed = false ∧
      ∃ l', l.reply? c = some (c.reply (K.execute s c.moment c.command).1, l') ∧
        K.Mirrors (K.execute s c.moment c.command).2 l' c.moment) := by
  cases hfail : (K.execute s c.moment c.command).1.isFailed with
  | true => exact Or.inl ⟨rfl, h.failed hK hfail⟩
  | false =>
    refine Or.inr ⟨rfl, ?_⟩
    obtain ⟨hroom, hlife⟩ := husual
    obtain ⟨now, act⟩ := c
    cases act with
    | issue token user life =>
      obtain ⟨n, hpos, hlt, rfl⟩ := hlife token user life rfl
      obtain ⟨l', hissue, hdone, hmirror⟩ := h.issue hK hpos hlt hroom hfail
      refine ⟨l', ?_, hmirror⟩
      simp only [Ledger.reply?, TokenCall.reply, TokenCall.command]
      rw [hissue, hdone]
      rfl
    | redeem token =>
      obtain ⟨htext, hkept⟩ := hK.take s now _ hfail
      refine ⟨l.revoke token, ?_, h.revoke hkept⟩
      simp only [Ledger.reply?, TokenCall.reply, TokenCall.command, KeySession.redeem]
      rw [htext, h.redeemed]
      rfl
    | revoke token =>
      obtain ⟨⟨n, hcount⟩, hkept⟩ := hK.delete s now _ hfail
      refine ⟨l.revoke token, ?_, h.revoke hkept⟩
      simp only [Ledger.reply?, TokenCall.reply, TokenCall.command, KeySession.revoke]
      rw [hcount]
      rfl

/-! ### Runs -/

/-- **Calls in their order**, from a moment on and on usual terms. -/
structure InOrder (now : Nanos) (calls : List TokenCall) : Prop where
  /-- No call is made before the moment. -/
  start : ∀ c ∈ calls, now ≤ c.moment
  /-- No call is made before an earlier one. -/
  ordered : calls.Pairwise fun c c' => c.moment ≤ c'.moment
  /-- The calls are on usual terms. -/
  usual : ∀ c ∈ calls, c.Usual

theorem InOrder.of_cons {c : TokenCall} {rest : List TokenCall} (h : InOrder now (c :: rest)) :
    InOrder c.moment rest where
  start := (List.pairwise_cons.1 h.ordered).1
  ordered := (List.pairwise_cons.1 h.ordered).2
  usual c' hc' := h.usual c' (List.mem_cons_of_mem _ hc')

/-- **The calls that the server does not fail** get the replies that the ledger gives when only
these calls are made. -/
theorem Mirrors.served (hK : K.Obedient) {calls : List TokenCall} (h : K.Mirrors s l now)
    (horder : InOrder now calls) :
    l.replies? ((K.served s calls).map (·.1)) =
      some ((K.served s calls).map fun e => e.1.reply e.2) := by
  induction calls generalizing s l now with
  | nil => rfl
  | cons c rest ih =>
    have hstart : K.Mirrors s l c.moment := h.mono (horder.start c List.mem_cons_self)
    have husual : c.Usual := horder.usual c List.mem_cons_self
    rcases hstart.call hK husual with ⟨hfail, hmirror⟩ | ⟨hdone, l', hreply, hmirror⟩
    · have hrest := ih hmirror horder.of_cons
      unfold KeyKeeper.served at hrest ⊢
      simpa [exchanges, hfail] using hrest
    · have hrest := ih hmirror horder.of_cons
      unfold KeyKeeper.served at hrest ⊢
      simp [exchanges, hdone, Ledger.replies?, hreply, hrest]

/-- **The key server is as good as the ledger**: what clients hear of it. -/
structure Interchangeable (K : KeyKeeper σ) : Prop where
  /-- A server that keeps no token yet and never fails gives the replies of a ledger that is new. -/
  same : ∀ s calls, (∀ t token, K.kept? s t (KeySession.key token) = none) → InOrder 0 calls →
    (∀ e ∈ K.exchanges s calls, e.2.isFailed = false) →
    Ledger.empty.replies? calls = some (K.replies s calls)
  /-- If it fails at some calls, then the others get the replies that the ledger gives when the
  failed ones are not made at all, whatever both have kept at the beginning. -/
  unaware : ∀ s l now calls, K.Mirrors s l now → InOrder now calls →
    l.replies? ((K.served s calls).map (·.1)) =
      some ((K.served s calls).map fun e => e.1.reply e.2)
  /-- Who makes a call at which the server fails hears that the holder of the tokens could not be
  asked, and all that was kept is kept. -/
  failed : ∀ s (c : TokenCall) reason, (K.execute s c.moment c.command).1 = .failed reason →
    c.reply (K.execute s c.moment c.command).1 = c.unanswered reason ∧
    ∀ t, c.moment ≤ t → ∀ k, K.kept? (K.execute s c.moment c.command).2 t k = K.kept? s t k
  /-- A text that writes no number of 64 bits is complained about by the one who uses the token, and
  is gone then. -/
  malformed : ∀ s now token stored, K.kept? s now (KeySession.key token) = some stored →
    (∀ user : UserId, ¬Numeral.Writes stored user.toInt) →
    (K.execute s now (KeySession.redeem token)).1.isFailed = false →
    KeySession.redeemed (K.execute s now (KeySession.redeem token)).1 =
      .error (.malformed ("non-numeric user id '" ++ stored ++ "'")) ∧
    ∀ t, now ≤ t → ∀ k, K.kept? (K.execute s now (KeySession.redeem token)).2 t k =
      if k = KeySession.key token then none else K.kept? s t k

/-- **Every obedient key server is as good as the ledger.** -/
theorem interchangeable (K : KeyKeeper σ) (hK : K.Obedient) : K.Interchangeable where
  same s calls hblank horder hdone := by
    have hmirror : K.Mirrors s .empty 0 := fun t _ token => hblank t token
    have hserved : K.served s calls = K.exchanges s calls :=
      List.filter_eq_self.2 fun e he => by simp [hdone e he]
    have hcalls : ∀ (calls : List TokenCall) (s : σ),
        (K.exchanges s calls).map (·.1) = calls := by
      intro calls
      induction calls with
      | nil => exact fun _ => rfl
      | cons c rest ih => exact fun s => congrArg (c :: ·) (ih _)
    have hrun := hmirror.served hK horder
    rwa [hserved, hcalls] at hrun
  unaware s l now calls hmirror horder := hmirror.served hK horder
  failed s c reason hfail := by
    refine ⟨?_, hK.failed s c.moment c.command (by rw [hfail]; rfl)⟩
    rw [hfail]
    unfold TokenCall.reply TokenCall.unanswered
    cases c.act <;> rfl
  malformed s now token stored hstored hno hdone := by
    obtain ⟨htext, hkept⟩ := hK.take s now _ hdone
    refine ⟨?_, hkept⟩
    have hread : Numeral.readInt64 stored = none := by
      refine Option.eq_none_iff_forall_ne_some.2 fun user huser => ?_
      exact hno user (Numeral.readInt64_eq_some_iff.1 huser)
    unfold KeySession.redeem
    rw [htext, hstored]
    simp [KeySession.redeemed, hread, HolderError.notNumeric]

end KeyKeeper

/-! ### A server like that -/

namespace KeyServer

/-- A key server that is told beforehand at which of the commands it fails. -/
def unsteady : KeyKeeper (KeyServer × List Bool) where
  kept? s t key := s.1.get? t key
  execute s now c :=
    if s.2.head? = some true then (.failed "refused", (s.1, s.2.tail))
    else ((s.1.execute now c).1, ((s.1.execute now c).2, s.2.tail))

/-- A command fails and does nothing, or is executed. -/
theorem execute_unsteady_cases (s : KeyServer × List Bool) (now : Nanos) (c : KeyCommand) :
    ((unsteady.execute s now c).1.isFailed = true ∧ (unsteady.execute s now c).2.1 = s.1) ∨
    ((unsteady.execute s now c).1.isFailed = false ∧
      (unsteady.execute s now c).1 = (s.1.execute now c).1 ∧
      (unsteady.execute s now c).2.1 = (s.1.execute now c).2) := by
  unfold unsteady
  dsimp only
  split
  · exact Or.inl ⟨rfl, rfl⟩
  · refine Or.inr ⟨?_, rfl, rfl⟩
    cases c <;> rfl

theorem get?_erase (s : KeyServer) (t : Nanos) (key k : String) :
    (⟨s.entries.erase key⟩ : KeyServer).get? t k = if k = key then none else s.get? t k := by
  unfold get?
  split
  · next he => rw [he, Table.get?_erase_self]; rfl
  · next he => rw [Table.get?_erase_of_ne _ he]

theorem get?_insert (s : KeyServer) (t : Nanos) (key k : String) (e : KeyEntry) :
    (⟨s.entries.insert key e⟩ : KeyServer).get? t k =
      if k = key then (if isKept t e then some e.value else none) else s.get? t k := by
  unfold get?
  rw [Table.get?_insert]
  split
  · cases hkept : isKept t e <;> simp [hkept]
  · rfl

/-- **Such a server is obedient.** -/
theorem obedient_unsteady : unsteady.Obedient := by
  have hexecute : ∀ s now c, (unsteady.execute s now c).1.isFailed = false →
      (unsteady.execute s now c).1 = (s.1.execute now c).1 ∧
      ∀ t k, unsteady.kept? (unsteady.execute s now c).2 t k = (s.1.execute now c).2.get? t k := by
    intro s now c hdone
    rcases execute_unsteady_cases s now c with ⟨hfail, -⟩ | ⟨-, hanswer, hserver⟩
    · exact absurd (hfail.symm.trans hdone) (by simp)
    · exact ⟨hanswer, fun t k => congrArg (fun server => get? server t k) hserver⟩
  constructor
  case set =>
    intro s now key value millis hdone
    obtain ⟨hanswer, hkept⟩ := hexecute s now _ hdone
    refine ⟨hanswer, fun t _ k => (hkept t k).trans ?_⟩
    refine (get?_insert s.1 t key k _).trans ?_
    simp only [isKept, decide_eq_true_eq]
    rfl
  case take =>
    intro s now key hdone
    obtain ⟨hanswer, hkept⟩ := hexecute s now _ hdone
    exact ⟨hanswer, fun t _ k => (hkept t k).trans (get?_erase s.1 t key k)⟩
  case delete =>
    intro s now key hdone
    obtain ⟨hanswer, hkept⟩ := hexecute s now _ hdone
    exact ⟨⟨_, hanswer⟩, fun t _ k => (hkept t k).trans (get?_erase s.1 t key k)⟩
  case failed =>
    intro s now c hfailed t _ k
    rcases execute_unsteady_cases s now c with ⟨-, hserver⟩ | ⟨hdone, -⟩
    · exact congrArg (fun server => get? server t k) hserver
    · exact absurd (hfailed.symm.trans hdone) (by simp)

/-- A token for the least number that a user can have is used in the last nanosecond of its life,
and once more then. -/
def sampleCalls : List TokenCall :=
  [⟨2, .issue "a" Int64.minValue (ofMillis 30)⟩, ⟨7, .redeem "a"⟩,
    ⟨1 + ofMillis 30, .redeem "a"⟩, ⟨1 + ofMillis 30, .redeem "a"⟩]

/-- What comes of them when the second call fails. -/
def sampleReplies : List TokenReply :=
  [.issued (.ok "a"), .redeemed (.ok (some Int64.minValue)), .redeemed (.ok none)]

/-- Something else than a number was put under the key of a token. -/
def sampleSpoilt : KeyServer × List Bool :=
  (⟨Table.empty.insert "ws_session:b" ⟨"4x", none⟩⟩, [])

theorem usual_of_mem_sampleCalls : ∀ c ∈ sampleCalls, c.Usual := by
  intro c hc
  have hroom : c.moment + ofMillis 9223372036854775808 ≤ clockEnd := by
    revert c
    decide
  refine ⟨hroom, fun token user life hact => ⟨30, by decide, by decide, ?_⟩⟩
  -- only the first call gives out a token
  simp only [sampleCalls, List.mem_cons, List.not_mem_nil, or_false] at hc
  rcases hc with rfl | rfl | rfl | rfl <;> cases hact
  rfl

theorem interchangeable_sample :
    unsteady.Obedient ∧ KeyKeeper.InOrder 0 sampleCalls ∧
      Ledger.empty.replies? sampleCalls = some (unsteady.replies (.empty, []) sampleCalls) ∧
      Ledger.empty.replies? ((unsteady.served (.empty, [false, true]) sampleCalls).map (·.1)) =
        some sampleReplies ∧
      KeySession.redeemed (unsteady.execute (.empty, [true]) 7 (KeySession.redeem "a")).1 =
        .error (.backend "refused") ∧
      KeySession.redeemed (unsteady.execute sampleSpoilt 3 (KeySession.redeem "b")).1 =
        .error (.malformed "non-numeric user id '4x'") := by
  have hall := KeyKeeper.interchangeable unsteady obedient_unsteady
  have horder : KeyKeeper.InOrder 0 sampleCalls :=
    ⟨fun _ _ => Nat.zero_le _, by decide, usual_of_mem_sampleCalls⟩
  have hblank : ∀ t token, unsteady.kept? (.empty, []) t (KeySession.key token) = none :=
    fun _ _ => rfl
  have hunaware := hall.unaware (.empty, [false, true]) .empty 0 sampleCalls
    (fun _ _ _ => rfl) horder
  have hreplies : (unsteady.served (.empty, [false, true]) sampleCalls).map
      (fun e => e.1.reply e.2) = sampleReplies := by
    decide +kernel
  have hsilent : ∀ user : UserId, ¬Numeral.Writes "4x" user.toInt := by
    intro user huser
    have hread : Numeral.readInt64 "4x" = none := by decide +kernel
    exact absurd (hread.symm.trans (Numeral.readInt64_eq_some_iff.2 huser)) (by simp)
  have hfailed := (hall.failed (.empty, [true]) ⟨7, .redeem "a"⟩ "refused" (by decide +kernel)).1
  have hmalformed := hall.malformed sampleSpoilt 3 "b" "4x" (by decide +kernel) hsilent
    (by decide +kernel)
  refine ⟨obedient_unsteady, horder, ?_, ?_, TokenReply.redeemed.inj hfailed, hmalformed.1⟩
  · exact hall.same (.empty, []) sampleCalls hblank horder (by decide +kernel)
  · rw [hunaware, hreplies]

end KeyServer

end Rendezvous
