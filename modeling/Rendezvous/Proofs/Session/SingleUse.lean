import Mathlib.Data.List.Basic
import Mathlib.Data.List.Induction
import Rendezvous.Session.Ledger

/-!
# Session tokens are used once and in time

Clients are given tokens, use them and revoke them, in any order and any number of them at once, and
from time to time the ledger is swept. Who does any of this waits until the ledger is free, and has
it alone then: that is a *turn*. A run of the ledger is a list of turns in the order in which they
came.

## The clock

A turn has its *moment*, and moments come in their order. What a turn takes for the time is another
matter. Who gives out a token or sweeps the ledger has looked at the clock before waiting, and who
redeems a token looks at it after having taken the token out. So a reading is too early or too late
(`Ledger.Turn.Timely`), but always on the same side, and this is what makes the difference harmless:
a sweep takes out nothing that anybody could still redeem.

## What is true

An attempt to redeem a token names a user exactly if the token was given out to this user, is still
worth something, and nobody has taken it out since. A sweep is seen by nobody: what the ledger holds
that is still worth something at a moment (`Ledger.SameAt`) is the same with it and without it.
-/

namespace Rendezvous

namespace Ledger

/-! ### What the ledger holds -/

/-- The entry under a token. -/
def held? (l : Ledger) (token : String) : Option LedgerEntry :=
  l.entries.get? token

variable {l l' : Ledger} {now : Nanos} {token token' : String} {user : UserId} {life : Nanos}

@[simp] theorem held?_empty (token : String) : empty.held? token = none := rfl

theorem held?_issue? (h : l.issue? now token user life = some l') (token' : String) :
    l'.held? token' =
      if token' = token then some ⟨user, now + life⟩ else l.held? token' := by
  unfold issue? at h
  split at h
  · obtain rfl := Option.some.inj h
    exact Table.get?_insert ..
  · exact absurd h (by simp)

theorem held?_revoke (l : Ledger) (token token' : String) :
    (l.revoke token).held? token' = if token' = token then none else l.held? token' := by
  unfold revoke held?
  split
  · next h => rw [h, Table.get?_erase_self]
  · next h => exact Table.get?_erase_of_ne _ h

theorem redeem_snd (l : Ledger) (now : Nanos) (token : String) :
    (l.redeem now token).2 = l.revoke token := rfl

theorem redeem_fst_eq_some_iff :
    (l.redeem now token).1 = some user ↔
      ∃ e, l.held? token = some e ∧ now < e.expiresAt ∧ e.user = user := by
  simp [redeem, held?, Option.filter_eq_some_iff, and_assoc]

theorem held?_sweep (l : Ledger) (now : Nanos) (token : String) :
    (l.sweep now).2.held? token = (l.held? token).filter fun e => now < e.expiresAt :=
  Table.get?_keep ..

/-! ### Turns -/

/-- What is done at the ledger. -/
inductive Act where
  /-- A token is given out to a user for some time. -/
  | issue (token : String) (user : UserId) (life : Nanos)
  /-- A token is used. -/
  | redeem (token : String)
  /-- A token is revoked. -/
  | revoke (token : String)
  /-- Tokens that are worth nothing any more are swept out. -/
  | sweep
  deriving DecidableEq, Repr

/-- **A turn** of somebody who has the ledger alone. -/
structure Turn where
  /-- When that is. -/
  moment : Nanos
  /-- What the clock says to whose turn it is. -/
  reading : Nanos
  /-- What is done. -/
  act : Act
  deriving DecidableEq, Repr

/-- What comes of a turn. -/
inductive Answer where
  /-- The token that was given out; `none` when the clock cannot count that far. -/
  | issued (token : Option String)
  /-- The user who may use the token, if anybody may. -/
  | redeemed (user : Option UserId)
  /-- The token is worth nothing any more. -/
  | revoked
  /-- How many tokens were swept out. -/
  | swept (n : Nat)
  deriving DecidableEq, Repr

/-- What comes of something done at this time, and the ledger after it. -/
def perform (l : Ledger) (reading : Nanos) : Act → Answer × Ledger
  | .issue token user life =>
    match l.issue? reading token user life with
    | some l' => (.issued (some token), l')
    | none => (.issued none, l)
  | .redeem token => (.redeemed (l.redeem reading token).1, (l.redeem reading token).2)
  | .revoke token => (.revoked, l.revoke token)
  | .sweep => (.swept (l.sweep reading).1, (l.sweep reading).2)

/-- What comes of a turn, and the ledger after it. -/
def take (l : Ledger) (t : Turn) : Answer × Ledger :=
  l.perform t.reading t.act

/-- The ledger after some turns. -/
def after (l : Ledger) (turns : List Turn) : Ledger :=
  turns.foldl (fun l t => (l.take t).2) l

/-- What comes of some turns. -/
def answers (l : Ledger) : List Turn → List Answer
  | [] => []
  | t :: rest => (l.take t).1 :: (l.take t).2.answers rest

namespace Turn

/-- **On which side of the moment the clock is read**: before it by who gives out or sweeps, after
it by who redeems. -/
def Timely (t : Turn) : Prop :=
  match t.act with
  | .issue .. => t.reading ≤ t.moment
  | .redeem _ => t.moment ≤ t.reading
  | .revoke _ => True
  | .sweep => t.reading ≤ t.moment

instance (t : Turn) : Decidable t.Timely := by
  unfold Timely
  split <;> infer_instance

/-- The token that is given out. -/
def given? (t : Turn) : Option String :=
  match t.act with
  | .issue token .. => some token
  | _ => none

/-- A token is used or revoked. -/
def TakesOut (t : Turn) (token : String) : Prop :=
  t.act = .redeem token ∨ t.act = .revoke token

instance (t : Turn) (token : String) : Decidable (t.TakesOut token) :=
  inferInstanceAs (Decidable (_ ∨ _))

/-- It is a sweep. -/
def isSweep (t : Turn) : Bool :=
  t.act == .sweep

end Turn

/-- It comes of a sweep. -/
def Answer.isSwept : Answer → Bool
  | .swept _ => true
  | _ => false

/-- **Turns in their order**, each with the clock read on its side. -/
structure Orderly (turns : List Turn) : Prop where
  /-- The clock is read on the side it has to be. -/
  timely : ∀ t ∈ turns, t.Timely
  /-- No moment comes after a later one. -/
  ordered : turns.Pairwise fun t t' => t.moment ≤ t'.moment

instance (turns : List Turn) : Decidable (Orderly turns) :=
  decidable_of_iff (_ ∧ _) ⟨fun h => ⟨h.1, h.2⟩, fun h => ⟨h.timely, h.ordered⟩⟩

/-- No token is given out twice. -/
def TokensDiffer (turns : List Turn) : Prop :=
  (turns.filterMap Turn.given?).Nodup

instance (turns : List Turn) : Decidable (TokensDiffer turns) :=
  inferInstanceAs (Decidable (List.Nodup _))

/-! ### One turn -/

/-- **What a turn does to an entry**: it comes with the token, it goes when the token is used or
revoked or swept, and is the same otherwise. -/
theorem held?_take (l : Ledger) (t : Turn) (token : String) :
    (∃ user life, t.act = .issue token user life ∧ (l.take t).1 = .issued (some token) ∧
      (l.take t).2.held? token = some ⟨user, t.reading + life⟩) ∨
    (t.TakesOut token ∧ (l.take t).2.held? token = none) ∨
    (t.act = .sweep ∧
      (l.take t).2.held? token = (l.held? token).filter fun e => t.reading < e.expiresAt) ∨
    ((∀ user life, t.act = .issue token user life → (l.take t).1 = .issued none) ∧
      ¬t.TakesOut token ∧ t.act ≠ .sweep ∧ (l.take t).2.held? token = l.held? token) := by
  obtain ⟨moment, reading, act⟩ := t
  cases act with
  | issue given user life =>
    cases hi : l.issue? reading given user life with
    | none => simp [take, perform, Turn.TakesOut, hi]
    | some l' =>
      have he := held?_issue? hi token
      by_cases hg : token = given
      · subst hg
        simp [take, perform, hi, he]
      · have hg' : given ≠ token := fun e => hg e.symm
        simp [take, perform, Turn.TakesOut, hi, he, hg, hg']
  | redeem used =>
    have he := held?_revoke l used token
    by_cases hu : token = used
    · subst hu
      simp [take, perform, Turn.TakesOut, redeem_snd, he]
    · have hu' : used ≠ token := fun e => hu e.symm
      simp [take, perform, Turn.TakesOut, redeem_snd, he, hu, hu']
  | revoke used =>
    have he := held?_revoke l used token
    by_cases hu : token = used
    · subst hu
      simp [take, perform, Turn.TakesOut, he]
    · have hu' : used ≠ token := fun e => hu e.symm
      simp [take, perform, Turn.TakesOut, he, hu, hu']
  | sweep => simp [take, perform, Turn.TakesOut, held?_sweep]

theorem after_concat (l : Ledger) (turns : List Turn) (t : Turn) :
    l.after (turns ++ [t]) = ((l.after turns).take t).2 := by
  simp [after]

/-! ### The history of an entry -/

/-- **A token stands**: it was given out with this entry, and nobody has used or revoked it
since. -/
def Stands (turns : List Turn) (token : String) (e : LedgerEntry) : Prop :=
  ∃ before given since life, turns = before ++ given :: since ∧
    given.act = .issue token e.user life ∧
    ((empty.after before).take given).1 = .issued (some token) ∧
    e.expiresAt = given.reading + life ∧ ∀ t ∈ since, ¬t.TakesOut token

/-- What stands goes on standing until it is taken out. -/
theorem Stands.concat {turns : List Turn} {e : LedgerEntry} {t : Turn}
    (h : Stands turns token e) (ht : ¬t.TakesOut token) : Stands (turns ++ [t]) token e := by
  obtain ⟨before, given, since, life, rfl, hact, hgiven, hexp, hsince⟩ := h
  refine ⟨before, given, since ++ [t], life, by simp, hact, hgiven, hexp, ?_⟩
  intro t' ht'
  rcases List.mem_append.1 ht' with ht' | ht'
  · exact hsince t' ht'
  · rwa [List.mem_singleton.1 ht']

/-- What stands after a turn has come with it, or stood before and was not taken out. -/
theorem Stands.of_concat {turns : List Turn} {e : LedgerEntry} {t : Turn}
    (h : Stands (turns ++ [t]) token e) :
    (∃ life, t.act = .issue token e.user life ∧
      ((empty.after turns).take t).1 = .issued (some token) ∧ e.expiresAt = t.reading + life) ∨
    (Stands turns token e ∧ ¬t.TakesOut token) := by
  obtain ⟨before, given, since, life, heq, hact, hgiven, hexp, hsince⟩ := h
  -- the turn that gave the token out is the last one, or there is a last one behind it
  rcases since.eq_nil_or_concat with rfl | ⟨since, last, rfl⟩
  · obtain ⟨rfl, he⟩ := List.append_inj' heq rfl
    obtain rfl : t = given := by simpa using he
    exact Or.inl ⟨life, hact, hgiven, hexp⟩
  · have heq' : turns ++ [t] = (before ++ given :: since) ++ [last] := by simpa using heq
    obtain ⟨rfl, he⟩ := List.append_inj' heq' rfl
    obtain rfl : t = last := by simpa using he
    refine Or.inr ⟨⟨before, given, since, life, rfl, hact, hgiven, hexp, ?_⟩, ?_⟩
    · exact fun t' ht' => hsince t' (by simp [ht'])
    · exact hsince t (by simp)

/-- A token that stands was given out. -/
theorem Stands.mem_given {turns : List Turn} {e : LedgerEntry} (h : Stands turns token e) :
    token ∈ turns.filterMap Turn.given? := by
  obtain ⟨before, given, since, life, rfl, hact, -⟩ := h
  have hgiven : given.given? = some token := by simp [Turn.given?, hact]
  simp [hgiven]

/-- **What the ledger holds stands.** -/
theorem stands_of_held? (turns : List Turn) {e : LedgerEntry}
    (h : (empty.after turns).held? token = some e) : Stands turns token e := by
  induction turns using List.reverseRecOn with
  | nil => simp [after] at h
  | append_singleton turns t ih =>
    rw [after_concat] at h
    rcases held?_take (empty.after turns) t token with
      ⟨user, life, hact, hgiven, he⟩ | ⟨-, he⟩ | ⟨hact, he⟩ | ⟨-, hno, -, he⟩ <;> rw [he] at h
    · obtain rfl := Option.some.inj h
      exact ⟨turns, t, [], life, rfl, hact, hgiven, rfl, by simp⟩
    · exact absurd h (by simp)
    · exact (ih (Option.filter_eq_some_iff.1 h).1).concat (by simp [Turn.TakesOut, hact])
    · exact (ih h).concat hno

/-- **What stands is in the ledger**, unless it was swept out. -/
theorem held?_of_stands {turns : List Turn} {e : LedgerEntry} (h : Stands turns token e)
    (hdiffer : TokensDiffer turns)
    (hswept : ∀ t ∈ turns, t.act = .sweep → t.reading < e.expiresAt) :
    (empty.after turns).held? token = some e := by
  induction turns using List.reverseRecOn with
  | nil =>
    obtain ⟨before, given, since, life, heq, -⟩ := h
    exact absurd heq.symm (by simp)
  | append_singleton turns t ih =>
    have hd : TokensDiffer turns ∧ ∀ given, t.given? = some given →
        given ∉ turns.filterMap Turn.given? := by
      unfold TokensDiffer at hdiffer
      rw [List.filterMap_append, List.nodup_append] at hdiffer
      refine ⟨hdiffer.1, fun given hg hmem => ?_⟩
      exact hdiffer.2.2 given hmem given (by simp [hg]) rfl
    rw [after_concat]
    rcases h.of_concat with ⟨life, hact, hgiven, hexp⟩ | ⟨hstands, hno⟩
    · -- the token is given out now
      rcases held?_take (empty.after turns) t token with
        ⟨user, life', hact', -, he⟩ | ⟨hout, -⟩ | ⟨hact', -⟩ | ⟨hfail, -⟩
      · rw [hact] at hact'
        obtain ⟨-, rfl, rfl⟩ := Act.issue.inj hact'
        rw [he, ← hexp]
      · rcases hout with hout | hout <;> exact absurd (hact.symm.trans hout) (by simp)
      · exact absurd (hact.symm.trans hact') (by simp)
      · exact absurd (hgiven.symm.trans (hfail _ _ hact)) (by simp)
    · -- it stood before, and this turn does nothing to it
      have hbefore := ih hstands hd.1 fun t' ht' => hswept t' (by simp [ht'])
      rcases held?_take (empty.after turns) t token with
        ⟨user, life, hact, -, -⟩ | ⟨hout, -⟩ | ⟨hact, he⟩ | ⟨-, -, -, he⟩
      · exact absurd hstands.mem_given (hd.2 token (by simp [Turn.given?, hact]))
      · exact absurd hout hno
      · have hlate := hswept t (by simp) hact
        rw [he, hbefore]
        simp [hlate]
      · rw [he, hbefore]

/-! ### Sweeps -/

/-- **Two ledgers are the same at a moment**: they hold the same tokens that are worth something
then. -/
def SameAt (now : Nanos) (l l' : Ledger) : Prop :=
  ∀ token, ((l.held? token).filter fun e => now < e.expiresAt) =
    (l'.held? token).filter fun e => now < e.expiresAt

namespace SameAt

theorem refl (now : Nanos) (l : Ledger) : SameAt now l l := fun _ => rfl

/-- Of what is worth something at a moment, the same is worth something later. -/
theorem filter_later {o : Option LedgerEntry} {later : Nanos} (h : now ≤ later) :
    ((o.filter fun e => now < e.expiresAt).filter fun e => later < e.expiresAt) =
      o.filter fun e => later < e.expiresAt := by
  rw [Option.filter_filter]
  congr 1
  funext e
  by_cases hl : later < e.expiresAt
  · simp [hl, Nat.lt_of_le_of_lt h hl]
  · simp [hl]

theorem mono {later : Nanos} (h : SameAt now l l') (hle : now ≤ later) : SameAt later l l' := by
  intro token
  rw [← filter_later hle, h token, filter_later hle]

/-- Who uses a token hears the same from both. -/
theorem redeem (h : SameAt now l l') {reading : Nanos} (hle : now ≤ reading) (token : String) :
    (l.redeem reading token).1 = (l'.redeem reading token).1 :=
  congrArg (Option.map LedgerEntry.user) (h.mono hle token)

theorem revoke (h : SameAt now l l') (token : String) :
    SameAt now (l.revoke token) (l'.revoke token) := by
  intro token'
  rw [held?_revoke, held?_revoke]
  split
  · rfl
  · exact h token'

/-- A sweep that has looked at the clock before takes out nothing that is worth something. -/
theorem sweep (h : SameAt now l l') {reading : Nanos} (hle : reading ≤ now) :
    SameAt now (l.sweep reading).2 l' := by
  intro token
  rw [held?_sweep, filter_later hle, h token]

theorem issue? (h : SameAt now l l') (reading : Nanos) (token : String) (user : UserId)
    (life : Nanos) :
    (l.issue? reading token user life = none ∧ l'.issue? reading token user life = none) ∨
    ∃ m m', l.issue? reading token user life = some m ∧ l'.issue? reading token user life = some m' ∧
      SameAt now m m' := by
  by_cases hend : reading + life < clockEnd
  · have hi : l.issue? reading token user life = some _ := if_pos hend
    have hi' : l'.issue? reading token user life = some _ := if_pos hend
    refine Or.inr ⟨_, _, hi, hi', fun token' => ?_⟩
    rw [held?_issue? hi, held?_issue? hi']
    split
    · rfl
    · exact h token'
  · exact Or.inl ⟨if_neg hend, if_neg hend⟩

/-- **A turn that is no sweep** is answered alike by two ledgers that are the same at its moment, and
leaves them the same. -/
theorem take {t : Turn} (h : SameAt t.moment l l') (ht : t.Timely) (hno : t.isSweep = false) :
    (l.take t).1 = (l'.take t).1 ∧ (l.take t).1.isSwept = false ∧
      SameAt t.moment (l.take t).2 (l'.take t).2 := by
  obtain ⟨moment, reading, act⟩ := t
  cases act with
  | issue token user life =>
    rcases h.issue? reading token user life with ⟨hi, hi'⟩ | ⟨m, m', hi, hi', hsame⟩
    · simpa [Ledger.take, perform, hi, hi', Answer.isSwept] using h
    · simpa [Ledger.take, perform, hi, hi', Answer.isSwept] using hsame
  | redeem token => exact ⟨congrArg Answer.redeemed (h.redeem ht token), rfl, h.revoke token⟩
  | revoke token => exact ⟨rfl, rfl, h.revoke token⟩
  | sweep => exact absurd hno (by simp [Turn.isSweep])

end SameAt

/-- The turns that are no sweeps. -/
def unswept (turns : List Turn) : List Turn :=
  turns.filter (!·.isSweep)

/-- What comes of the turns that are no sweeps. -/
def heard (answers : List Answer) : List Answer :=
  answers.filter (!·.isSwept)

theorem Orderly.of_cons {t : Turn} {turns : List Turn} (h : Orderly (t :: turns)) :
    Orderly turns :=
  ⟨fun t' ht' => h.timely t' (List.mem_cons_of_mem _ ht'), h.ordered.of_cons⟩

/-- **The sweeps may be left out**: nothing else that comes of the turns changes. -/
theorem heard_answers_eq {turns : List Turn} {start : Nanos} (h : Orderly turns)
    (hstart : ∀ t ∈ turns, start ≤ t.moment) (hsame : SameAt start l l') :
    heard (l.answers turns) = l'.answers (unswept turns) := by
  induction turns generalizing start l l' with
  | nil => rfl
  | cons t turns ih =>
    have hnow : SameAt t.moment l l' := hsame.mono (hstart t (by simp))
    have htimely : t.Timely := h.timely t (by simp)
    have hlater : ∀ t' ∈ turns, t.moment ≤ t'.moment :=
      fun _ ht' => List.rel_of_pairwise_cons h.ordered ht'
    cases hsweep : t.isSweep with
    | true =>
      have hact : t.act = .sweep := by simpa [Turn.isSweep] using hsweep
      have hread : t.reading ≤ t.moment := by simpa [Turn.Timely, hact] using htimely
      have htake : l.take t = (.swept (l.sweep t.reading).1, (l.sweep t.reading).2) := by
        simp [take, perform, hact]
      have hrest := ih h.of_cons hlater (hnow.sweep hread)
      simpa [answers, heard, unswept, hsweep, htake, Answer.isSwept] using hrest
    | false =>
      obtain ⟨hans, hheard, hafter⟩ := hnow.take htimely hsweep
      have hrest := ih h.of_cons hlater hafter
      rw [hans] at hheard
      simpa [answers, heard, unswept, hsweep, hans, hheard] using hrest

/-- **A token is used once and in time, and sweeps are seen by nobody.** An attempt to use a token
names a user exactly if the token was given out to this user for a time that is not over, and nobody
has used or revoked it since. Two runs of the ledger that differ in nothing but sweeps come to the
same in everything but these. -/
theorem used_once_in_time :
    (∀ past t token, t.act = .redeem token → Orderly (past ++ [t]) → TokensDiffer past →
      ∃ owner, ((empty.after past).take t).1 = .redeemed owner ∧
        ∀ user, owner = some user ↔
          ∃ before given since life, past = before ++ given :: since ∧
            given.act = .issue token user life ∧
            ((empty.after before).take given).1 = .issued (some token) ∧
            t.reading < given.reading + life ∧ ∀ t' ∈ since, ¬t'.TakesOut token) ∧
    ∀ turns turns', Orderly turns → Orderly turns' → unswept turns = unswept turns' →
      heard (empty.answers turns) = heard (empty.answers turns') := by
  constructor
  · intro past t token hact horderly hdiffer
    refine ⟨((empty.after past).redeem t.reading token).1, by simp [take, perform, hact],
      fun user => ?_⟩
    rw [redeem_fst_eq_some_iff]
    constructor
    · rintro ⟨e, he, hlate, rfl⟩
      obtain ⟨before, given, since, life, hpast, hgiven, hanswer, hexp, hsince⟩ :=
        stands_of_held? past he
      exact ⟨before, given, since, life, hpast, hgiven, hanswer, hexp ▸ hlate, hsince⟩
    · rintro ⟨before, given, since, life, hpast, hgiven, hanswer, hlate, hsince⟩
      have hstands : Stands past token ⟨user, given.reading + life⟩ :=
        ⟨before, given, since, life, hpast, hgiven, hanswer, rfl, hsince⟩
      refine ⟨_, held?_of_stands hstands hdiffer ?_, hlate, rfl⟩
      -- whoever has swept before has read an earlier time than this turn reads
      intro t' ht' hsweep
      have hread : t'.reading ≤ t'.moment := by
        simpa [Turn.Timely, hsweep] using horderly.timely t' (by simp [ht'])
      have hmoment : t'.moment ≤ t.moment :=
        (List.pairwise_append.1 horderly.ordered).2.2 t' ht' t (by simp)
      have hnow : t.moment ≤ t.reading := by
        simpa [Turn.Timely, hact] using horderly.timely t (by simp)
      calc t'.reading ≤ t'.moment := hread
        _ ≤ t.moment := hmoment
        _ ≤ t.reading := hnow
        _ < given.reading + life := hlate
  · intro turns turns' h h' heq
    have hstart : ∀ ts : List Turn, ∀ t ∈ ts, 0 ≤ t.moment := fun _ _ _ => Nat.zero_le _
    rw [heard_answers_eq h (hstart turns) (.refl 0 empty), heq,
      ← heard_answers_eq h' (hstart turns') (.refl 0 empty)]

/-- Two tokens are given out, and both sweeps have looked at the clock before their turn: the first
one finds nothing, and the second one finds the token whose time is over. -/
def sample : List Turn :=
  [⟨2, 1, .issue "a" 7 10⟩, ⟨6, 5, .sweep⟩, ⟨7, 6, .issue "b" 8 3⟩, ⟨8, 8, .revoke "c"⟩,
    ⟨10, 9, .sweep⟩]

/-- The last moment at which the first token can be used. -/
def sampleUse : Turn :=
  ⟨10, 10, .redeem "a"⟩

theorem used_once_in_time_sample :
    Orderly (sample ++ [sampleUse]) ∧ TokensDiffer sample ∧
      ((empty.after sample).take sampleUse).1 = .redeemed (some 7) ∧
      Orderly (unswept (sample ++ [sampleUse])) ∧
      heard (empty.answers (sample ++ [sampleUse])) =
        heard (empty.answers (unswept (sample ++ [sampleUse]))) := by
  have horderly : Orderly (sample ++ [sampleUse]) := by decide
  have hunswept : Orderly (unswept (sample ++ [sampleUse])) := by decide
  have hdiffer : TokensDiffer sample := by decide
  obtain ⟨owner, hanswer, howner⟩ :=
    used_once_in_time.1 sample sampleUse "a" rfl horderly hdiffer
  have h7 : owner = some 7 := (howner 7).2
    ⟨[], ⟨2, 1, .issue "a" 7 10⟩, sample.tail, 10, rfl, rfl, rfl, by decide, by decide⟩
  exact ⟨horderly, hdiffer, by rw [hanswer, h7], hunswept,
    used_once_in_time.2 _ _ horderly hunswept rfl⟩

end Ledger

end Rendezvous
