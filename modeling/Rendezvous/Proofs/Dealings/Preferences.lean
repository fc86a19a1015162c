import Mathlib.Data.List.Basic
import Mathlib.Data.List.Dedup
import Mathlib.Data.List.Sort
import Rendezvous.Dealings.Pairing
import Rendezvous.Proofs.Dealings.Isolation
import Rendezvous.Proofs.Store.Likings

/-!
# What users think of each other

Users decide about each other and forget what they have decided, in any order. What the service
answers in the end can be read off from the list of what they did, without the tables
(`Desk.remembers`):

* A user likes another one if the last word of the first about the second is to like, and if nothing
  was forgotten since (`Choice.Stands`).
* A decision is a match if the other one likes the user at this moment.
* To forget is answered by the number of the others about whom the user has decided since the user
  forgot the last time (`Choice.targets`), and takes out exactly these decisions.
* The partners of a user are those who like the user and are liked, in ascending order.

The tables hold for each two users exactly the decision that stands (`Desk.Remembers.swipes`). This
is kept by every choice, and everything else follows from it.
-/

namespace Rendezvous

/-! ### Choices and what is left of them -/

/-- Something that a user does about what the user thinks of others. -/
inductive Choice where
  /-- To decide about another user. -/
  | decide (actor target : UserId) (action : Decision)
  /-- To forget all decisions so far. -/
  | reset (actor : UserId)
  deriving DecidableEq

namespace Choice

variable {c : Choice} {cs : List Choice} {a b : UserId} {action : Decision}

/-- A choice is about what the one user thinks of the other. -/
def Touches (a b : UserId) : Choice → Prop
  | .decide actor target _ => actor = a ∧ target = b
  | .reset actor => actor = a

theorem touches_iff : c.Touches a b ↔ c = .reset a ∨ ∃ action, c = .decide a b action := by
  cases c with
  | decide actor target action => simp [Touches]
  | reset actor => simp [Touches]

/-- **A decision stands**: it was made, and since then the user has neither decided again about the
same user nor forgotten. -/
def Stands (cs : List Choice) (a b : UserId) (action : Decision) : Prop :=
  ∃ before after, cs = before ++ .decide a b action :: after ∧ ∀ c ∈ after, ¬c.Touches a b

theorem not_stands_nil : ¬Stands [] a b action := by
  rintro ⟨before, after, h, -⟩
  exact absurd h (by simp)

/-- A decision stands after a choice if it is this choice, or if it stood before and the choice is
about something else. -/
theorem stands_concat :
    Stands (cs ++ [c]) a b action ↔
      c = .decide a b action ∨ (¬c.Touches a b ∧ Stands cs a b action) := by
  constructor
  · rintro ⟨before, after, h, hafter⟩
    rcases List.eq_nil_or_concat' after with rfl | ⟨rest, last, rfl⟩
    · obtain ⟨-, hc⟩ := List.append_inj' h rfl
      exact Or.inl (List.singleton_inj.1 hc)
    · rw [← List.cons_append, ← List.append_assoc] at h
      obtain ⟨rfl, hc⟩ := List.append_inj' h rfl
      obtain rfl := List.singleton_inj.1 hc
      exact Or.inr ⟨hafter c (by simp), before, rest, rfl, fun c' hc' => hafter c' (by simp [hc'])⟩
  · rintro (rfl | ⟨hc, before, after, rfl, hafter⟩)
    · exact ⟨cs, [], rfl, by simp⟩
    · refine ⟨before, after ++ [c], by simp, fun c' hc' => ?_⟩
      rcases List.mem_append.1 hc' with hc' | hc'
      · exact hafter c' hc'
      · rwa [List.mem_singleton.1 hc']

/-- The user about whom the one user decides by a choice. Nobody decides about himself. -/
def target? (a : UserId) : Choice → Option UserId
  | .decide actor target _ => if actor = a ∧ target ≠ a then some target else none
  | .reset _ => none

/-- About whom a user has decided since the user forgot the last time, the latest one first. -/
def targets (a : UserId) (cs : List Choice) : List UserId :=
  (cs.reverse.takeWhile (· ≠ .reset a)).filterMap (target? a)

theorem mem_targets_concat :
    b ∈ targets a (cs ++ [c]) ↔ c ≠ .reset a ∧ (c.target? a = some b ∨ b ∈ targets a cs) := by
  unfold targets
  rw [List.reverse_append, List.reverse_singleton, List.singleton_append]
  by_cases hc : c = .reset a
  · simp [hc]
  · rw [List.takeWhile_cons_of_pos (by simpa using hc), List.mem_filterMap]
    simp [hc, List.mem_filterMap]

theorem target?_eq_some_iff :
    c.target? a = some b ↔ a ≠ b ∧ ∃ action, c = .decide a b action := by
  cases c with
  | reset actor => simp [target?]
  | decide actor target action =>
    simp only [target?, Option.ite_none_right_eq_some, Option.some.injEq, decide.injEq]
    constructor
    · rintro ⟨⟨rfl, hne⟩, rfl⟩
      exact ⟨hne.symm, action, rfl, rfl, rfl⟩
    · rintro ⟨hne, -, rfl, rfl, -⟩
      exact ⟨⟨rfl, hne.symm⟩, rfl⟩

/-- **A user has decided about another one since the user forgot** exactly if a decision of the one
about the other stands. -/
theorem mem_targets : b ∈ targets a cs ↔ a ≠ b ∧ ∃ action, Stands cs a b action := by
  induction cs using List.reverseRecOn with
  | nil => simp [targets, not_stands_nil]
  | append_singleton cs c ih =>
    rw [mem_targets_concat, target?_eq_some_iff, ih]
    simp only [stands_concat]
    by_cases hc : c.Touches a b
    · rcases touches_iff.1 hc with rfl | ⟨action, rfl⟩
      · simp [Touches]
      · simp +contextual [Touches]
    · have hreset : c ≠ .reset a := fun h => hc (touches_iff.2 (Or.inl h))
      have hdecide : ∀ action, c ≠ .decide a b action :=
        fun action h => hc (touches_iff.2 (Or.inr ⟨action, h⟩))
      simp [hc, hreset, hdecide]

end Choice

/-! ### Decisions in the tables -/

namespace Records

variable {t : Records} {now : Timestamp}

theorem get?_recordSwipe (t : Records) (now : Timestamp) (actor target : UserId) (action : Decision)
    (p : UserId × UserId) :
    (t.recordSwipe now actor target action).swipes.get? p =
      if p = (actor, target) then some ⟨actor, target, action, now⟩ else t.swipes.get? p :=
  Table.get?_insert ..

theorem get?_forgetSwipes (t : Records) (actor : UserId) (p : UserId × UserId) :
    (t.forgetSwipes actor).2.swipes.get? p = if p.1 = actor then none else t.swipes.get? p := by
  refine (Table.get?_keep ..).trans ?_
  cases t.swipes.get? p with
  | none => simp
  | some s => by_cases h : p.1 = actor <;> simp [h, Option.filter]

/-- The users about whom a user has decided, as the tables have them. -/
def decidedBy (t : Records) (user : UserId) : List UserId :=
  (t.swipes.keys.filter (·.1 == user)).map (·.2)

theorem mem_decidedBy {a b : UserId} :
    b ∈ t.decidedBy a ↔ (t.swipes.get? (a, b)).isSome = true := by
  unfold decidedBy
  rw [← Table.mem_keys]
  simp

/-- Nobody is there twice, since the tables hold one decision for each two users. -/
theorem nodup_decidedBy (t : Records) (user : UserId) : (t.decidedBy user).Nodup := by
  refine List.Nodup.map_on ?_ (List.Nodup.filter _ t.swipes.distinct)
  intro p hp q hq h
  have hp' : p.1 = user := by simpa using (List.mem_filter.1 hp).2
  have hq' : q.1 = user := by simpa using (List.mem_filter.1 hq).2
  exact Prod.ext (hp'.trans hq'.symm) h

/-- As many decisions are forgotten as there are users whom they are about. -/
theorem forgetSwipes_fst (t : Records) (actor : UserId) :
    (t.forgetSwipes actor).1 = (t.decidedBy actor).length := by
  change t.swipes.entries.length - (t.swipes.entries.filter fun e => e.1.1 != actor).length = _
  have hsplit : t.swipes.entries.length =
      (t.swipes.entries.filter fun e => e.1.1 == actor).length +
        (t.swipes.entries.filter fun e => e.1.1 != actor).length :=
    List.length_eq_length_filter_add _
  unfold decidedBy Table.keys
  rw [List.length_map, List.filter_map, List.length_map, hsplit]
  exact Nat.add_sub_cancel ..

/-- **The partners of a user are in strictly ascending order.** -/
theorem ascending_matchesOf (t : Records) (user : UserId) :
    (t.matchesOf user).Pairwise (· < ·) := by
  have hnodup : (t.matchesOf user).Nodup :=
    (List.mergeSort_perm ..).nodup_iff.2 ((t.nodup_decidedBy user).filter _)
  have hsorted : (t.matchesOf user).Pairwise (· ≤ ·) := List.pairwise_mergeSort' _ _
  exact (hsorted.and hnodup).imp fun h => Int64.lt_of_le_of_ne h.1 h.2

/-- What a decision comes to. -/
def statusOf (t : Records) (actor target : UserId) : Decision → DecisionStatus
  | .dislike => .dislike
  | .like => if t.likes target actor then .paired else .like

end Records

/-! ### Choices at a desk -/

namespace Desk

variable {clock : Nat → Timestamp} {d : Desk} {cs : List Choice} {a b : UserId}

/-- The desk after a choice. -/
def choose (clock : Nat → Timestamp) (d : Desk) : Choice → Desk
  | .decide actor target action => (perform clock (Pairing.decide actor target action) d).2
  | .reset actor => (perform clock (Pairing.reset actor) d).2

/-- The desk after choices that were made one after another. -/
def chosen (clock : Nat → Timestamp) (d : Desk) (cs : List Choice) : Desk :=
  cs.foldl (choose clock) d

theorem chosen_concat (c : Choice) :
    d.chosen clock (cs ++ [c]) = (d.chosen clock cs).choose clock c := by
  simp [chosen]

/-- Nobody was told anything at a desk. -/
def Silent (d d' : Desk) : Prop :=
  d'.board = d.board ∧ d'.pushed = d.pushed

theorem Silent.trans {d' d'' : Desk} (h : d.Silent d') (h' : d'.Silent d'') : d.Silent d'' :=
  ⟨h'.1.trans h.1, h'.2.trans h.2⟩

/-- What is asked of the store by itself is answered from the tables, and nobody is told. -/
theorem perform_store_of (clock : Nat → Timestamp) {q : StoreRequest}
    {reply : Except StoreError q.Answer} {t : Records}
    (h : d.annals.records.answer (clock d.ticks) q = (reply, t)) :
    ∃ d', perform clock (Task.store q) d = (reply.mapError Refusal.ofStore, d') ∧
      d'.annals.records = t ∧ d.Silent d' := by
  refine ⟨(d.answer clock q).2, ?_, congrArg Prod.snd h, rfl, rfl⟩
  rw [perform_store]
  exact Prod.ext (congrArg (fun out => out.1.mapError Refusal.ofStore) h) rfl

/-- Telling two users of their match changes nothing in the tables. -/
theorem perform_announce (clock : Nat → Timestamp) (chat : ChatId) (actor target : UserId)
    (d : Desk) :
    ∃ d', perform clock (Pairing.announce chat actor target) d = (.ok (), d') ∧
      d'.annals = d.annals :=
  ⟨_, rfl, rfl⟩

/-- **Two different users who like each other are a match**, and all decisions stay as they are. If
they have a chat, they are not told. -/
theorem perform_pair (clock : Nat → Timestamp) (hne : a ≠ b) (d : Desk) :
    ∃ chat d', perform clock (Pairing.pair a b) d = (.ok (.ofMatch b chat), d') ∧
      d'.annals.records.swipes = d.annals.records.swipes ∧
      (d.annals.records.chatOfPair.get? (orderedPair a b) ≠ none → d.Silent d') := by
  unfold Pairing.pair
  rcases d.annals.records.openMatch_cases (clock d.ticks) a b matchGreeting with
    ⟨he, -⟩ | ⟨-, id, -, ho⟩ | ⟨-, hnew, ho⟩
  · exact absurd he hne
  · obtain ⟨d', hd, ht, hsilent⟩ := perform_store_of clock (q := .openMatch a b matchGreeting) ho
    exact ⟨id, d', perform_bind_ok hd, congrArg Records.swipes ht, fun _ => hsilent⟩
  · obtain ⟨d', hd, ht, -⟩ := perform_store_of clock (q := .openMatch a b matchGreeting) ho
    obtain ⟨d'', hd'', ha⟩ := perform_announce clock (d.annals.records.lastChat + 1) a b d'
    refine ⟨d.annals.records.lastChat + 1, d'',
      (perform_bind_ok hd).trans (perform_bind_ok hd''), ?_,
      fun hpair => absurd hnew hpair⟩
    rw [ha, ht]
    rfl

/-- **A user decides about another one**: the decision is put in, and the outcome is what it comes
to. If the two have a chat, nobody is told. -/
theorem perform_decide (clock : Nat → Timestamp) (hne : a ≠ b) (action : Decision) (d : Desk) :
    ∃ outcome d', perform clock (Pairing.decide a b action) d = (.ok outcome, d') ∧
      outcome.status = d.annals.records.statusOf a b action ∧
      d'.annals.records.swipes =
        (d.annals.records.recordSwipe (clock d.ticks) a b action).swipes ∧
      (d.annals.records.chatOfPair.get? (orderedPair a b) ≠ none → d.Silent d') := by
  unfold Pairing.decide
  rw [if_neg hne]
  obtain ⟨e, he, ht, hsilent⟩ := perform_store_of clock (d := d)
    (q := .recordSwipe a b action) rfl
  rw [perform_bind_ok he]
  cases action with
  | dislike => exact ⟨_, e, rfl, rfl, congrArg Records.swipes ht, fun _ => hsilent⟩
  | like =>
    obtain ⟨e', he', ht', hsilent'⟩ := perform_store_of clock (d := e)
      (q := .likes b a) rfl
    -- the decision of the other one is not touched by this one
    have hother : e.annals.records.likes b a = d.annals.records.likes b a := by
      rw [ht, Records.likes_recordSwipe, if_neg fun h => hne h.1]
    have hrecords : e'.annals.records = d.annals.records.recordSwipe (clock d.ticks) a b .like :=
      ht'.trans ht
    rw [perform_bind_ok he', hother]
    unfold Records.statusOf
    cases d.annals.records.likes b a with
    | false =>
      exact ⟨_, e', rfl, rfl, congrArg Records.swipes hrecords, fun _ => hsilent.trans hsilent'⟩
    | true =>
      obtain ⟨chat, d', hd, hs, hquiet⟩ := perform_pair clock hne e'
      refine ⟨_, d', hd, rfl, hs.trans (congrArg Records.swipes hrecords), fun hpair => ?_⟩
      rw [hrecords] at hquiet
      exact (hsilent.trans hsilent').trans (hquiet hpair)

/-- A decision about oneself is refused, and changes nothing. -/
theorem perform_decide_self (a : UserId) (action : Decision) (d : Desk) :
    perform clock (Pairing.decide a a action) d = (.error .selfTarget, d) := by
  unfold Pairing.decide
  rw [if_pos rfl]
  rfl

/-- **A user forgets**: the answer is about how many others the user had decided, and exactly these
decisions are gone. -/
theorem perform_reset (clock : Nat → Timestamp) (a : UserId) (d : Desk) :
    ∃ d', perform clock (Pairing.reset a) d = (.ok (d.annals.records.decidedBy a).length, d') ∧
      ∀ p, d'.annals.records.swipes.get? p =
        if p.1 = a then none else d.annals.records.swipes.get? p := by
  obtain ⟨d', hd, ht, -⟩ := perform_store_of clock (d := d) (q := .forgetSwipes a) rfl
  rw [← Records.forgetSwipes_fst]
  refine ⟨d', hd, fun p => ?_⟩
  rw [ht]
  exact Records.get?_forgetSwipes ..

/-! ### What is remembered -/

/-- The tables of a desk hold for each two users the decision that stands. -/
def Holds (d : Desk) (cs : List Choice) : Prop :=
  ∀ a b action, (d.annals.records.swipes.get? (a, b)).map (·.action) = some action ↔
    a ≠ b ∧ Choice.Stands cs a b action

theorem holds_start (board : Switchboard) : (start .empty board).Holds [] := by
  intro a b action
  simp [start, Annals.empty, Records.empty, Choice.not_stands_nil]

/-- **Every choice is remembered.** -/
theorem Holds.choose (h : d.Holds cs) (c : Choice) : (d.choose clock c).Holds (cs ++ [c]) := by
  intro a b action
  have hab := h a b action
  rw [Choice.stands_concat]
  cases c with
  | reset actor =>
    obtain ⟨d', hd, hs⟩ := perform_reset clock actor d
    simp only [Desk.choose, hd, hs, Choice.Touches]
    by_cases ha : a = actor
    · simp [ha]
    · simp [ha, Ne.symm ha, hab]
  | decide actor target action' =>
    by_cases hself : actor = target
    · -- a decision about oneself neither changes the tables nor stands
      subst hself
      rw [Desk.choose, perform_decide_self, hab]
      refine and_congr_right fun hne => ?_
      have htouches : ¬(actor = a ∧ actor = b) := fun h => hne (h.1.symm.trans h.2)
      simp only [Choice.Touches, htouches, not_false_eq_true, true_and, Choice.decide.injEq]
      exact ⟨Or.inr, fun h => h.resolve_left fun e => htouches ⟨e.1, e.2.1⟩⟩
    · obtain ⟨outcome, d', hd, -, hs, -⟩ := perform_decide clock hself action' d
      simp only [Desk.choose, hd, hs, Records.get?_recordSwipe, Choice.Touches]
      by_cases hp : actor = a ∧ target = b
      · obtain ⟨rfl, rfl⟩ := hp
        simp [hself]
      · have hne : (a, b) ≠ (actor, target) := fun e => hp (by simpa [eq_comm] using e)
        rw [if_neg hne, hab]
        refine and_congr_right fun _ => ?_
        simp only [hp, not_false_eq_true, true_and, Choice.decide.injEq]
        exact ⟨Or.inr, fun h => h.resolve_left fun e => hp ⟨e.1, e.2.1⟩⟩

theorem holds_chosen (clock : Nat → Timestamp) (board : Switchboard) (cs : List Choice) :
    ((start .empty board).chosen clock cs).Holds cs := by
  induction cs using List.reverseRecOn with
  | nil => exact holds_start board
  | append_singleton cs c ih =>
    rw [chosen_concat]
    exact ih.choose c

theorem Holds.likes (h : d.Holds cs) (a b : UserId) :
    d.annals.records.likes a b = true ↔ a ≠ b ∧ Choice.Stands cs a b .like := by
  rw [Records.likes_eq_true_iff, ← h a b .like, Option.map_eq_some_iff]

/-- The tables hold a decision about each of those about whom the user has decided since the user
forgot, and about nobody else. -/
theorem Holds.mem_decidedBy (h : d.Holds cs) {a b : UserId} :
    b ∈ d.annals.records.decidedBy a ↔ b ∈ Choice.targets a cs := by
  rw [Records.mem_decidedBy, Choice.mem_targets, ← exists_and_left,
    ← exists_congr (h a b), ← Option.isSome_map, Option.isSome_iff_exists]

/-- As many decisions of a user are held as there are others about whom the user has decided. -/
theorem Holds.length_decidedBy (h : d.Holds cs) (a : UserId) :
    (d.annals.records.decidedBy a).length = (Choice.targets a cs).dedup.length := by
  refine ((List.perm_ext_iff_of_nodup (Records.nodup_decidedBy ..) (List.nodup_dedup _)).2
    fun b => ?_).length_eq
  rw [List.mem_dedup]
  exact h.mem_decidedBy

/-- **A desk remembers what users did about what they think of others.** -/
structure Remembers (clock : Nat → Timestamp) (d : Desk) (cs : List Choice) : Prop where
  /-- A user likes another one exactly if the last word of the one about the other is to like, and
  nothing was forgotten since. -/
  likes : ∀ a b, d.annals.records.likes a b = true ↔ a ≠ b ∧ Choice.Stands cs a b .like
  /-- Nobody can decide about himself. -/
  himself : ∀ a action, perform clock (Pairing.decide a a action) d = (.error .selfTarget, d)
  /-- To like somebody is a match exactly if the other one likes the user now. -/
  like : ∀ a b, a ≠ b → ∃ outcome d', perform clock (Pairing.decide a b .like) d =
    (.ok outcome, d') ∧ outcome.status = if d.annals.records.likes b a then .paired else .like
  /-- Not to like somebody is never a match. -/
  dislike : ∀ a b, a ≠ b → ∃ outcome d', perform clock (Pairing.decide a b .dislike) d =
    (.ok outcome, d') ∧ outcome.status = .dislike
  /-- The decisions of a user that are held are about those about whom the user has decided since
  the user forgot the last time. -/
  held : ∀ a b, (d.annals.records.swipes.get? (a, b)).isSome = true ↔ b ∈ Choice.targets a cs
  /-- To forget is answered by how many different users these are, and takes out these decisions
  and none of anybody else. -/
  reset : ∀ a, ∃ d', perform clock (Pairing.reset a) d =
    (.ok (Choice.targets a cs).dedup.length, d') ∧
    ∀ p, d'.annals.records.swipes.get? p = if p.1 = a then none else d.annals.records.swipes.get? p
  /-- The partners of a user are in strictly ascending order: those who like the user and are
  liked. -/
  partners : ∀ a, ∃ d', perform clock (Pairing.partners a) d =
    (.ok (d.annals.records.matchesOf a), d') ∧
    (d.annals.records.matchesOf a).Pairwise (· < ·) ∧
    ∀ b, b ∈ d.annals.records.matchesOf a ↔
      b ≠ a ∧ d.annals.records.likes a b = true ∧ d.annals.records.likes b a = true
  /-- Partners are partners of each other. -/
  symmetric : ∀ a b, b ∈ d.annals.records.matchesOf a ↔ a ∈ d.annals.records.matchesOf b

/-- **Whatever users decide and forget, the service remembers it**: after any choices, from empty
tables on. -/
theorem remembers (clock : Nat → Timestamp) (board : Switchboard) (cs : List Choice) :
    Remembers clock ((start .empty board).chosen clock cs) cs := by
  have h := holds_chosen clock board cs
  generalize (start .empty board).chosen clock cs = d at h
  constructor
  case likes => exact h.likes
  case himself => exact fun a action => perform_decide_self a action d
  case like =>
    intro a b hne
    obtain ⟨outcome, d', hd, hstatus, -⟩ := perform_decide clock hne .like d
    exact ⟨outcome, d', hd, hstatus⟩
  case dislike =>
    intro a b hne
    obtain ⟨outcome, d', hd, hstatus, -⟩ := perform_decide clock hne .dislike d
    exact ⟨outcome, d', hd, hstatus⟩
  case held => exact fun a b => Records.mem_decidedBy.symm.trans h.mem_decidedBy
  case reset =>
    intro a
    obtain ⟨d', hd, hs⟩ := perform_reset clock a d
    rw [h.length_decidedBy] at hd
    exact ⟨d', hd, hs⟩
  case partners =>
    intro a
    refine ⟨(d.answer clock (.matchesOf a)).2, rfl, Records.ascending_matchesOf .., fun b => ?_⟩
    rw [Records.mem_matchesOf]
    exact ⟨fun hb => ⟨((h.likes a b).1 hb.1).1.symm, hb⟩, And.right⟩
  case symmetric =>
    intro a b
    rw [Records.mem_matchesOf, Records.mem_matchesOf, and_comm]

end Desk

end Rendezvous
