import Mathlib.Data.List.Basic
import Rendezvous.Proofs.Channel.Concourse

/-!
# No ghosts

A connection that is served is taken out of the switchboard by its own service, by the heartbeat, or
by the successor that takes its place. All of them may do so at the same time, and each only after
the others have done some part of it; yet no connection stays in the switchboard that nobody serves,
none that is taken out comes back, and none takes another one out with it (`Concourse.NoGhosts`).

The invariant has to say of every connection that has entered the switchboard and was not taken out
by its own service where it can be (`Concourse.Orderly.accounted`): it is the current one of its
user, or it is closed, or somebody is about to close it. Who is about to close it is its successor,
between entering and closing, or the heartbeat in an eviction that is cut in two. If there is
neither, then an open connection that is read is the current one of its user, and since a user has
one current connection there is no second one that is open and read.
-/

namespace Rendezvous

namespace Stage

/-- The connection has entered the switchboard, and was not yet taken out by its own service. -/
def isInside : Stage → Bool
  | .entered _ => true
  | .registered => true
  | .reading => true
  | .left _ => true
  | _ => false

/-- The connection was taken out by its own service. -/
def isOut : Stage → Bool
  | .unregistered _ => true
  | .closed _ => true
  | .over _ => true
  | _ => false

/-- Its service has closed the connection. -/
def isEnded : Stage → Bool
  | .closed _ => true
  | .over _ => true
  | _ => false

/-- A connection is not in and out. -/
theorem not_isOut_of_isInside {stage : Stage} (h : stage.isInside = true) :
    ¬stage.isOut = true := by
  cases stage <;> simp [isInside, isOut] at h ⊢

end Stage

namespace Concourse

variable {c c' : Concourse} {m : Move} {moves : List Move} {i j : Nat} {l l' : Line}
  {user : UserId} {id : ConnectionId}

namespace Line

variable {h h' : Switchboard} {stage stage' : Stage}

/-- While nobody comes or goes, who is in stays in. -/
theorem Onward.isInside_eq (ho : Onward h h' id stage stage') :
    stage'.isInside = stage.isInside := by
  cases ho <;> rfl

/-- Who is out stays out. -/
theorem Onward.isOut (ho : Onward h h' id stage stage') (hout : stage.isOut = true) :
    stage'.isOut = true := by
  cases ho with
  | stays => exact hout
  | _ => first | rfl | exact absurd hout (by simp [Stage.isOut])

/-- **The same line, further on.** -/
structure Later (l l' : Line) : Prop where
  /-- It is the same connection of the same user. -/
  same : l'.serving.Continues l.serving
  /-- It does not come back. -/
  out : l.serving.stage.isOut = true → l'.serving.stage.isOut = true

theorem Later.refl (l : Line) : l.Later l :=
  ⟨.refl _, fun hout => hout⟩

theorem Later.trans {l'' : Line} (h : l.Later l') (h' : l'.Later l'') : l.Later l'' where
  same := ⟨h'.same.id.trans h.same.id, h'.same.user.trans h.same.user,
    h'.same.token.trans h.same.token⟩
  out hout := h'.out (h.out hout)

theorem Effect.later (he : l.Effect h l' h') : l.Later l' := by
  cases he with
  | entered hstage => exact ⟨⟨rfl, rfl, rfl⟩, by simp [hstage, Stage.isOut]⟩
  | unregistered hstage => exact ⟨⟨rfl, rfl, rfl⟩, fun _ => rfl⟩
  | moved hsame hboard honward => exact ⟨hsame, honward.isOut⟩

/-- A turn opens no connection, gives none to somebody else and opens none again. -/
theorem Effect.lasts (he : l.Effect h l' h') : h.Lasts h' := by
  cases he with
  | entered => exact Switchboard.lasts_enter _
  | unregistered => exact (Switchboard.keeps_unregister _ _).toLasts
  | moved hsame hboard honward => exact hboard.toLasts

/-- A connection that its service has closed is closed. -/
theorem Effect.isClosed (he : l.Effect h l' h') (howner : h.owner? l.serving.id = some user)
    (hclosed : l.serving.stage.isEnded = true → h.IsClosed l.serving.id)
    (hended : l'.serving.stage.isEnded = true) : h'.IsClosed l.serving.id := by
  cases he with
  | entered => exact absurd hended (by simp [Stage.isEnded])
  | unregistered => exact absurd hended (by simp [Stage.isEnded])
  | moved hsame hboard honward =>
    generalize l.serving.stage = stage at honward hclosed
    generalize l'.serving.stage = stage' at honward hended
    cases honward with
    | stays => exact hboard.closed _ (hclosed hended)
    | closed hclose => exact hclose ▸ Switchboard.isClosed_close howner
    | ended => exact hboard.closed _ (hclosed rfl)
    | _ => exact absurd hended (by simp [Stage.isEnded])

/-- **The teardown of a connection** touches no other one: unless it enters the switchboard, a turn
of a line takes nobody in, and nobody out but its own connection. -/
theorem Effect.keeps (he : l.Effect h l' h') (hstage : l.serving.stage ≠ .opened) :
    h.Keeps (· = l.serving.id) h' := by
  cases he with
  | entered hopened => exact absurd hopened hstage
  | unregistered => exact Switchboard.keeps_unregister ..
  | moved hsame hboard honward => exact hboard.mono fun _ hid => hid.elim

end Line

/-! ### Lines go on -/

/-- A line stays where it is, and goes on. -/
theorem line_step (c : Concourse) (m : Move) (hl : c.lines[i]? = some l) :
    ∃ l', (c.step m).lines[i]? = some l' ∧ l.Later l' := by
  have heffect := c.effect m
  generalize c.step m = c' at heffect
  cases heffect with
  | arrived =>
    refine ⟨l, ?_, .refl l⟩
    rwa [List.getElem?_append_left (List.getElem?_eq_some_iff.1 hl).1]
  | @turned k turn l₁ l' board hl₁ hline =>
    by_cases hki : k = i
    · subst hki
      obtain rfl : l = l₁ := Option.some.inj (hl.symm.trans hl₁)
      exact ⟨l', by simp [(List.getElem?_eq_some_iff.1 hl).1], hline.later⟩
    · exact ⟨l, by rwa [List.getElem?_set_ne hki], .refl l⟩
  | _ => exact ⟨l, hl, .refl l⟩

theorem line_after (c : Concourse) (moves : List Move) (hl : c.lines[i]? = some l) :
    ∃ l', (c.after moves).lines[i]? = some l' ∧ l.Later l' := by
  induction moves generalizing c l with
  | nil => exact ⟨l, hl, .refl l⟩
  | cons m rest ih =>
    obtain ⟨l', hl', hlater⟩ := c.line_step m hl
    obtain ⟨l'', hl'', hlater'⟩ := ih _ hl'
    exact ⟨l'', hl'', hlater.trans hlater'⟩

/-! ### The invariant -/

/-- A connection is in the switchboard that has yet to close this one, whose place it took. -/
def IsSuperseded (c : Concourse) (id : ConnectionId) : Prop :=
  ∃ (i : Nat) (l : Line), c.lines[i]? = some l ∧ l.serving.stage = .entered (some id)

/-- **Where a connection can be** that has entered and was not taken out by its own service. -/
def Accounts (c : Concourse) (s : Serving) : Prop :=
  c.board.current? s.user = some s.id ∨ c.board.IsClosed s.id ∨ c.IsSuperseded s.id ∨
    s.id ∈ c.evicting

/-- **Everything is in order.** -/
structure Orderly (c : Concourse) : Prop where
  /-- A connection has a number that was given out. -/
  fresh : ∀ id user, c.board.owner? id = some user → id < c.board.connections.size
  /-- A line serves a connection of its user. -/
  owner : ∀ (i : Nat) (l : Line), c.lines[i]? = some l →
    c.board.owner? l.serving.id = some l.serving.user
  /-- Two lines serve different connections. -/
  unique : ∀ (i j : Nat) (l l' : Line), c.lines[i]? = some l → c.lines[j]? = some l' →
    l.serving.id = l'.serving.id → i = j
  /-- The current connection of a user is served, has entered, and was not taken out by its own
  service. -/
  entry : ∀ user id, c.board.current? user = some id →
    ∃ (i : Nat) (l : Line), c.lines[i]? = some l ∧
    l.serving.id = id ∧ l.serving.user = user ∧ l.serving.stage.isInside = true
  /-- A connection that its service has closed is closed. -/
  closed : ∀ (i : Nat) (l : Line), c.lines[i]? = some l → l.serving.stage.isEnded = true →
    c.board.IsClosed l.serving.id
  /-- A connection that has entered and was not taken out by its own service is somewhere. -/
  accounted : ∀ (i : Nat) (l : Line), c.lines[i]? = some l →
    l.serving.stage.isInside = true → c.Accounts l.serving

theorem orderly_empty : Orderly empty := by
  constructor
  case fresh => exact fun id user h => absurd h (by simp [empty, Switchboard.empty,
    Switchboard.owner?, Switchboard.connection?])
  case entry => exact fun user id h => absurd h (by simp [empty, Switchboard.empty,
    Switchboard.current?])
  all_goals exact fun i => by simp [empty]

namespace Orderly

/-- The number of the next connection is free. -/
theorem free (h : c.Orderly) : c.board.owner? c.board.connections.size = none := by
  refine Option.eq_none_iff_forall_ne_some.2 fun user howner => ?_
  exact Nat.lt_irrefl _ (h.fresh _ user howner)

/-- The line of the current connection. -/
theorem eq_of_current (h : c.Orderly) (hl : c.lines[i]? = some l)
    (hcur : c.board.current? user = some l.serving.id) :
    l.serving.user = user ∧ l.serving.stage.isInside = true := by
  obtain ⟨j, l', hl', hid, huser, hinside⟩ := h.entry user _ hcur
  obtain rfl := h.unique j i l' l hl' hl hid
  obtain rfl : l' = l := Option.some.inj (hl'.symm.trans hl)
  exact ⟨huser, hinside⟩

/-! ### A connection is opened -/

theorem arrived (h : c.Orderly) (token : String) :
    Orderly { c with
      board := (c.board.open user c.now).2
      lines := c.lines ++ [⟨⟨c.board.connections.size, user, token, .opened⟩, .waiting⟩] } := by
  have hfree : c.board.connection? c.board.connections.size = none :=
    Option.map_eq_none_iff.1 h.free
  have hne : ∀ id user, c.board.owner? id = some user → id ≠ c.board.connections.size :=
    fun id user howner => Nat.ne_of_lt (h.fresh id user howner)
  constructor
  case fresh =>
    intro id user' howner
    rw [Switchboard.owner?_open] at howner
    rw [Switchboard.size_open hfree]
    split at howner
    · next he => exact he ▸ Nat.lt_succ_self _
    · exact Nat.lt_succ_of_lt (h.fresh id user' howner)
  case owner =>
    intro i l hl
    rw [Switchboard.owner?_open]
    rcases Service.getElem?_concat_cases hl with hl | ⟨-, rfl⟩
    · rw [if_neg (hne _ _ (h.owner i l hl))]
      exact h.owner i l hl
    · exact if_pos rfl
  case unique =>
    intro i j l l' hl hl' hid
    rcases Service.getElem?_concat_cases hl with hl | ⟨hi, rfl⟩ <;>
      rcases Service.getElem?_concat_cases hl' with hl' | ⟨hj, rfl⟩
    · exact h.unique i j l l' hl hl' hid
    · exact absurd hid (hne _ _ (h.owner i l hl))
    · exact absurd hid.symm (hne _ _ (h.owner j l' hl'))
    · exact hi.trans hj.symm
  case entry =>
    intro user' id hcur
    obtain ⟨i, l, hl, hline⟩ := h.entry user' id hcur
    exact ⟨i, l, by rwa [List.getElem?_append_left (List.getElem?_eq_some_iff.1 hl).1], hline⟩
  case closed =>
    intro i l hl hended
    rcases Service.getElem?_concat_cases hl with hl | ⟨-, rfl⟩
    · exact (h.closed i l hl hended).open h.free user c.now
    · exact absurd hended (by simp [Stage.isEnded])
  case accounted =>
    intro i l hl hinside
    rcases Service.getElem?_concat_cases hl with hl | ⟨-, rfl⟩
    · rcases h.accounted i l hl hinside with hcur | hclosed | ⟨j, l', hl', hold⟩ | hevicting
      · exact Or.inl hcur
      · exact Or.inr (Or.inl (hclosed.open h.free user c.now))
      · refine Or.inr (Or.inr (Or.inl ⟨j, l', ?_, hold⟩))
        rwa [List.getElem?_append_left (List.getElem?_eq_some_iff.1 hl').1]
      · exact Or.inr (Or.inr (Or.inr hevicting))
    · exact absurd hinside (by simp [Stage.isInside])

/-! ### Nobody comes -/

/-- What the heartbeat and others do. -/
theorem kept (h : c.Orderly) {now : Nanos} {board : Switchboard} {evicting : List ConnectionId}
    {gone : ConnectionId → Prop} (hboard : c.board.Keeps gone board)
    (hgone : ∀ id user, gone id → c.board.owner? id = some user →
      board.IsClosed id ∨ id ∈ evicting)
    (hevicting : ∀ id user, id ∈ c.evicting → c.board.owner? id = some user →
      board.IsClosed id ∨ id ∈ evicting) :
    Orderly { c with now, board, evicting } := by
  constructor
  case fresh =>
    intro id user howner
    rw [hboard.owner] at howner
    rw [hboard.size]
    exact h.fresh id user howner
  case owner => exact fun i l hl => (hboard.owner _).trans (h.owner i l hl)
  case unique => exact h.unique
  case entry => exact fun user id hcur => h.entry user id (hboard.current user id hcur)
  case closed => exact fun i l hl hended => hboard.closed _ (h.closed i l hl hended)
  case accounted =>
    intro i l hl hinside
    have howner := h.owner i l hl
    have hlost : board.IsClosed l.serving.id ∨ l.serving.id ∈ evicting →
        Accounts { c with now, board, evicting } l.serving := by
      rintro (hclosed | hevicting)
      · exact Or.inr (Or.inl hclosed)
      · exact Or.inr (Or.inr (Or.inr hevicting))
    rcases h.accounted i l hl hinside with hcur | hclosed | hsuperseded | hmem
    · by_cases hid : gone l.serving.id
      · exact hlost (hgone _ _ hid howner)
      · exact Or.inl (hboard.stays _ _ hcur hid)
    · exact Or.inr (Or.inl (hboard.closed _ hclosed))
    · exact Or.inr (Or.inr (Or.inl hsuperseded))
    · exact hlost (hevicting _ _ hmem howner)

/-! ### A connection goes on -/

variable {board : Switchboard}

/-- Who is current after a turn is served. -/
theorem entry_turned (h : c.Orderly) (hl : c.lines[i]? = some l)
    (hline : l.Effect c.board l' board) (hcur : board.current? user = some id) :
    ∃ (j : Nat) (l₁ : Line), (c.lines.set i l')[j]? = some l₁ ∧ l₁.serving.id = id ∧
      l₁.serving.user = user ∧ l₁.serving.stage.isInside = true := by
  have hself : (c.lines.set i l')[i]? = some l' := by
    simp [(List.getElem?_eq_some_iff.1 hl).1]
  have hother : ∀ {j l₁}, j ≠ i → c.lines[j]? = some l₁ → (c.lines.set i l')[j]? = some l₁ :=
    fun hj hl₁ => by rwa [List.getElem?_set_ne (Ne.symm hj)]
  cases hline with
  | entered hopened =>
    rw [Switchboard.current?_enter, h.owner i l hl] at hcur
    split at hcur
    · next he =>
      exact ⟨i, _, hself, Option.some.inj hcur, Option.some.inj he, rfl⟩
    · obtain ⟨j, l₁, hl₁, hid, huser, hinside⟩ := h.entry user id hcur
      refine ⟨j, l₁, hother ?_ hl₁, hid, huser, hinside⟩
      -- the connection that enters has not been in before
      rintro rfl
      obtain rfl : l₁ = l := Option.some.inj (hl₁.symm.trans hl)
      exact absurd hinside (by simp [hopened, Stage.isInside])
  | unregistered =>
    have hold := (Switchboard.keeps_unregister _ _).current user id hcur
    obtain ⟨j, l₁, hl₁, hid, huser, hinside⟩ := h.entry user id hold
    refine ⟨j, l₁, hother ?_ hl₁, hid, huser, hinside⟩
    -- the connection that was taken out is not the current one
    rintro rfl
    obtain rfl : l₁ = l := Option.some.inj (hl₁.symm.trans hl)
    subst hid huser
    rw [Switchboard.current?_unregister, if_pos ⟨rfl, hold⟩] at hcur
    exact absurd hcur (by simp)
  | moved hsame hboard honward =>
    obtain ⟨j, l₁, hl₁, hid, huser, hinside⟩ := h.entry user id (hboard.current user id hcur)
    by_cases hj : j = i
    · subst hj
      obtain rfl : l₁ = l := Option.some.inj (hl₁.symm.trans hl)
      exact ⟨j, l', hself, hsame.id.trans hid, hsame.user.trans huser,
        honward.isInside_eq.trans hinside⟩
    · exact ⟨j, l₁, hother hj hl₁, hid, huser, hinside⟩

/-- A connection that is about to be closed by its successor is so after a turn, or it is closed. -/
theorem superseded_turned (hl : c.lines[i]? = some l)
    (hline : l.Effect c.board l' board) (howner : c.board.owner? id = some user)
    (hsuperseded : c.IsSuperseded id) :
    board.IsClosed id ∨ IsSuperseded { c with board, lines := c.lines.set i l' } id := by
  obtain ⟨j, l₁, hl₁, hstage⟩ := hsuperseded
  by_cases hj : j = i
  · subst hj
    obtain rfl : l₁ = l := Option.some.inj (hl₁.symm.trans hl)
    cases hline with
    | entered hopened => exact absurd (hstage.symm.trans hopened) (by simp)
    | unregistered hleft => exact absurd (hstage.symm.trans hleft) (by simp)
    | moved hsame hboard honward =>
      rw [hstage] at honward
      generalize hstage' : l'.serving.stage = stage' at honward
      cases honward with
      | stays =>
        refine Or.inr ⟨j, l', ?_, hstage'⟩
        simp [(List.getElem?_eq_some_iff.1 hl).1]
      | registered hold => exact Or.inl (hold id rfl ▸ Switchboard.isClosed_close howner)
  · exact Or.inr ⟨j, l₁, by rwa [List.getElem?_set_ne (Ne.symm hj)], hstage⟩

/-- Somebody who was accounted for and is still current, if that is how, is accounted for. -/
theorem accounts_turned (hl : c.lines[i]? = some l)
    (hline : l.Effect c.board l' board) {s : Serving} (howner : c.board.owner? s.id = some s.user)
    (haccounts : c.Accounts s)
    (hstays : c.board.current? s.user = some s.id →
      Accounts { c with board, lines := c.lines.set i l' } s) :
    Accounts { c with board, lines := c.lines.set i l' } s := by
  rcases haccounts with hcur | hclosed | hsuperseded | hevicting
  · exact hstays hcur
  · exact Or.inr (Or.inl (hline.lasts.closed _ hclosed))
  · rcases superseded_turned hl hline howner hsuperseded with hclosed | hstill
    · exact Or.inr (Or.inl hclosed)
    · exact Or.inr (Or.inr (Or.inl hstill))
  · exact Or.inr (Or.inr (Or.inr hevicting))

/-- Who has entered and was not taken out by its own service is accounted for after a turn. -/
theorem accounted_turned (h : c.Orderly) (hl : c.lines[i]? = some l)
    (hline : l.Effect c.board l' board) {l₁ : Line} (hl₁ : (c.lines.set i l')[j]? = some l₁)
    (hinside : l₁.serving.stage.isInside = true) :
    Accounts { c with board, lines := c.lines.set i l' } l₁.serving := by
  have hself : (c.lines.set i l')[i]? = some l' := by
    simp [(List.getElem?_eq_some_iff.1 hl).1]
  have howner := h.owner i l hl
  have hline' := hline
  rcases Service.getElem?_set_cases hl₁ with ⟨hj, hold⟩ | ⟨rfl, rfl⟩
  · refine accounts_turned hl hline (h.owner j l₁ hold) (h.accounted j l₁ hold hinside) ?_
    intro hcur
    have hne : l₁.serving.id ≠ l.serving.id := fun he => hj (h.unique j i l₁ l hold hl he)
    cases hline with
    | entered hopened =>
      -- if it is a connection of the same user, then it is the one before
      by_cases huser : l.serving.user = l₁.serving.user
      · refine Or.inr (Or.inr (Or.inl ⟨i, _, hself, ?_⟩))
        obtain ⟨c₁, hc₁, hc₁user⟩ := Option.map_eq_some_iff.1 howner
        simp only [Switchboard.enter, hc₁, hc₁user, huser, hcur]
      · refine Or.inl ?_
        rw [Switchboard.current?_enter, howner, if_neg (by simpa using huser)]
        exact hcur
    | unregistered => exact Or.inl ((Switchboard.keeps_unregister _ _).stays _ _ hcur hne)
    | moved hsame hboard honward => exact Or.inl (hboard.stays _ _ hcur id)
  · cases hline with
    | entered =>
      refine Or.inl ?_
      rw [Switchboard.current?_enter]
      exact if_pos howner
    | unregistered => exact absurd hinside (by simp [Stage.isInside])
    | moved hsame hboard honward =>
      have haccounts := h.accounted j l hl (honward.isInside_eq.symm.trans hinside)
      have hserving : Accounts { c with board, lines := c.lines.set j l₁ } l.serving :=
        accounts_turned hl hline' howner haccounts fun hcur =>
          Or.inl (hboard.stays _ _ hcur id)
      unfold Accounts at hserving ⊢
      rwa [hsame.id, hsame.user]

/-- What happens to a line. -/
theorem turned (h : c.Orderly) (hl : c.lines[i]? = some l) (hline : l.Effect c.board l' board) :
    Orderly { c with board, lines := c.lines.set i l' } := by
  have hlasts := hline.lasts
  have hsame := hline.later.same
  constructor
  case fresh =>
    intro id user howner
    rw [hlasts.owner] at howner
    rw [hlasts.size]
    exact h.fresh id user howner
  case owner =>
    intro j l₁ hl₁
    rw [hlasts.owner]
    rcases Service.getElem?_set_cases hl₁ with ⟨-, hold⟩ | ⟨rfl, rfl⟩
    · exact h.owner j l₁ hold
    · rw [hsame.id, hsame.user]
      exact h.owner j l hl
  case unique =>
    intro j k l₁ l₂ hl₁ hl₂ hid
    rcases Service.getElem?_set_cases hl₁ with ⟨-, hold₁⟩ | ⟨rfl, rfl⟩ <;>
      rcases Service.getElem?_set_cases hl₂ with ⟨-, hold₂⟩ | ⟨rfl, rfl⟩
    · exact h.unique j k l₁ l₂ hold₁ hold₂ hid
    · exact h.unique j k l₁ l hold₁ hl (hid.trans hsame.id)
    · exact h.unique j k l l₂ hl hold₂ (hsame.id.symm.trans hid)
    · rfl
  case entry => exact fun user id hcur => h.entry_turned hl hline hcur
  case closed =>
    intro j l₁ hl₁ hended
    rcases Service.getElem?_set_cases hl₁ with ⟨-, hold⟩ | ⟨rfl, rfl⟩
    · exact hlasts.closed _ (h.closed j l₁ hold hended)
    · rw [hsame.id]
      exact hline.isClosed (h.owner j l hl) (h.closed j l hl) hended
  case accounted => exact fun j l₁ hl₁ hinside => h.accounted_turned hl hline hl₁ hinside

/-- **Every move keeps the order.** -/
theorem step (h : c.Orderly) (m : Move) : (c.step m).Orderly := by
  have heffect := c.effect m
  generalize c.step m = c' at heffect ⊢
  cases heffect with
  | arrived => exact h.arrived _
  | turned hl hline => exact h.turned hl hline
  | idle => exact h
  | kept hm hboard hgone hevicting => exact h.kept hboard hgone hevicting

theorem after (h : c.Orderly) (moves : List Move) : (c.after moves).Orderly := by
  induction moves generalizing c with
  | nil => exact h
  | cons m rest ih => exact ih (h.step m)

end Orderly

/-- No eviction is cut in two. -/
theorem evicting_after (hnone : c.evicting = []) (hmoves : ∀ id, .withdraw id ∉ moves) :
    (c.after moves).evicting = [] := by
  induction moves generalizing c with
  | nil => exact hnone
  | cons m rest ih =>
    refine ih ?_ fun id hid => hmoves id (List.mem_cons_of_mem _ hid)
    have hm : ∀ id, m ≠ .withdraw id := fun id he => hmoves id (he ▸ List.mem_cons_self)
    have heffect := c.effect m
    generalize c.step m = c' at heffect ⊢
    cases heffect with
    | kept hline hboard hgone hevicting hwhole => exact hwhole hnone hm
    | _ => exact hnone

/-! ### No ghosts -/

/-- A connection that is read and not closed. -/
def IsOpen (c : Concourse) (s : Serving) : Prop :=
  s.stage = .reading ∧ ¬c.board.IsClosed s.id

/-- **No ghosts**: what holds after these moves, whatever they are and in which order ever they
came. -/
structure NoGhosts (moves : List Move) : Prop where
  /-- Who is current is a connection of this user that is served, has entered, and was not taken out
  by its own service. -/
  entry : ∀ user id, (empty.after moves).board.current? user = some id →
    ∃ (i : Nat) (l : Line), (empty.after moves).lines[i]? = some l ∧ l.serving.id = id ∧
      l.serving.user = user ∧ l.serving.stage.isInside = true
  /-- A connection that its own service has taken out does not come back, whatever happens later. -/
  gone : ∀ (i : Nat) (l : Line), (empty.after moves).lines[i]? = some l →
    l.serving.stage.isOut = true → ∀ later user,
      (empty.after (moves ++ later)).board.current? user ≠ some l.serving.id
  /-- A connection is closed when its service has closed it, and so it is when it is over. -/
  closed : ∀ (i : Nat) (l : Line), (empty.after moves).lines[i]? = some l →
    l.serving.stage.isEnded = true → (empty.after moves).board.IsClosed l.serving.id
  /-- What happens to a connection, unless it enters the switchboard, takes no other one out. -/
  teardown : ∀ (i : Nat) (l : Line), (empty.after moves).lines[i]? = some l →
    l.serving.stage ≠ .opened → ∀ t user id, id ≠ l.serving.id →
      (empty.after moves).board.current? user = some id →
      (empty.after (moves ++ [.line i t])).board.current? user = some id
  /-- If no connection is between entering and closing the one before it, then an open connection
  that is read is the current one of its user, but for those in an eviction that is cut in two. -/
  current : (∀ (i : Nat) (l : Line) old, (empty.after moves).lines[i]? = some l →
      l.serving.stage ≠ .entered (some old)) →
    ∀ (i : Nat) (l : Line), (empty.after moves).lines[i]? = some l →
      (empty.after moves).IsOpen l.serving → l.serving.id ∉ (empty.after moves).evicting →
      (empty.after moves).board.current? l.serving.user = some l.serving.id
  /-- Then there is one such connection of a user. -/
  sole : (∀ (i : Nat) (l : Line) old, (empty.after moves).lines[i]? = some l →
      l.serving.stage ≠ .entered (some old)) →
    ∀ (i j : Nat) (l l' : Line), (empty.after moves).lines[i]? = some l →
      (empty.after moves).lines[j]? = some l' → l.serving.user = l'.serving.user →
      (empty.after moves).IsOpen l.serving → (empty.after moves).IsOpen l'.serving →
      l.serving.id ∉ (empty.after moves).evicting →
      l'.serving.id ∉ (empty.after moves).evicting → i = j
  /-- There are no evictions cut in two, if none was. -/
  whole : (∀ id, .withdraw id ∉ moves) → (empty.after moves).evicting = []

/-- **There are no ghosts**, whatever happens to any number of connections in any order. -/
theorem noGhosts (moves : List Move) : NoGhosts moves := by
  have horderly : (empty.after moves).Orderly := orderly_empty.after moves
  -- an open connection that is read can only be the current one
  have hcurrent : (∀ (i : Nat) (l : Line) old, (empty.after moves).lines[i]? = some l →
      l.serving.stage ≠ .entered (some old)) →
      ∀ (i : Nat) (l : Line), (empty.after moves).lines[i]? = some l →
        (empty.after moves).IsOpen l.serving → l.serving.id ∉ (empty.after moves).evicting →
        (empty.after moves).board.current? l.serving.user = some l.serving.id := by
    rintro hnone i l hl ⟨hstage, hopen⟩ hnot
    have hinside : l.serving.stage.isInside = true := by rw [hstage]; rfl
    rcases horderly.accounted i l hl hinside with hcur | hclosed | ⟨j, l', hl', hold⟩ | hevicting
    · exact hcur
    · exact absurd hclosed hopen
    · exact absurd hold (hnone j l' _ hl')
    · exact absurd hevicting hnot
  constructor
  case entry => exact horderly.entry
  case gone =>
    intro i l hl hout later user hcur
    rw [after_append] at hcur
    obtain ⟨l', hl', hlater⟩ := (empty.after moves).line_after later hl
    rw [← hlater.same.id] at hcur
    have hinside := ((horderly.after later).eq_of_current hl' hcur).2
    exact Stage.not_isOut_of_isInside hinside (hlater.out hout)
  case closed => exact horderly.closed
  case teardown =>
    intro i l hl hstage t user id hne hcur
    rw [after_concat]
    have heffect := (empty.after moves).effect (.line i t)
    generalize (empty.after moves).step (.line i t) = c' at heffect
    cases heffect with
    | turned hl₁ hline =>
      obtain rfl := Option.some.inj (hl.symm.trans hl₁)
      exact (hline.keeps hstage).stays user id hcur hne
    | idle => exact hcur
    | kept hm => exact absurd rfl (hm i t)
  case current => exact hcurrent
  case sole =>
    intro hnone i j l l' hl hl' huser hopen hopen' hnot hnot'
    have hcur := hcurrent hnone i l hl hopen hnot
    rw [huser, hcurrent hnone j l' hl' hopen' hnot'] at hcur
    exact horderly.unique i j l l' hl hl' (Option.some.inj hcur).symm
  case whole => exact evicting_after rfl

/-- Somebody comes back while the first connection is read. The first one is taken out by its own
service only when the second one is there, which stays. -/
example : (empty.after [.arrive 7 "a", .line 0 .live, .line 0 .live, .line 0 .revoke,
    .arrive 7 "b", .line 1 .live, .line 1 .live, .line 0 .leave, .line 1 .revoke, .line 0 .live,
    .line 0 .live, .line 0 .conclude]).board.current? 7 = some 1 := by
  decide

end Concourse

end Rendezvous
