import Mathlib.Data.List.Basic
import Rendezvous.Proofs.Traffic.MutualLikes

/-!
# What a match rests on

A decision to like someone becomes a match when the reverse decision is looked up and is a like. The
user's own like is not looked up again: it was recorded a moment before. Between these two moments
the same user can take it back, with another decision or by forgetting all of them, and then there
is a match of two users who never liked each other at the same time (`Traffic.Course.outdated`).

## What is true

A match rests on two answers that its decision got: first that its own like is recorded, and later
that the other one likes back (`Traffic.Course.Grounds`). If the user's own like was still there at
the second moment, the two liked each other then. If it was not, somebody took it away in between,
and this can only have been another request of the same user (`Traffic.Course.exists_retracts`).
-/

namespace Rendezvous

namespace Traffic

/-! ### How a user ceases to like another one -/

/-- Another user is no longer liked on account of this request. -/
def Scene.Retracts (s : Scene) (m : Move) (n : Nat) (a b : UserId) : Prop :=
  (∃ count, s.Answers m n (.store (.forgetSwipes a)) (.ok count)) ∨
    s.Answers m n (.store (.recordSwipe a b .dislike)) (.ok ())

/-- **A user ceases to like another one** when the user forgets all decisions or decides not to. -/
theorem Scene.exists_retracts {s : Scene} {m : Move} {a b : UserId}
    (hyes : s.records.likes a b = true) (hno : (s.step m).records.likes a b = false) :
    ∃ n, s.Retracts m n a b := by
  rcases s.annals_cases m with he | ⟨n, now, r, hans, he⟩ <;> rw [records, he] at hno
  · exact absurd (hyes.symm.trans hno) (by simp)
  rcases Records.retracts_of_likes hyes hno with rfl | rfl
  · exact ⟨n, Or.inl ⟨_, hans⟩⟩
  · exact ⟨n, Or.inr hans⟩

/-- Who takes a like away has come to forget all decisions, or to decide not to like. -/
theorem Scene.Mannered.errand_of_retracts {s : Scene} {m : Move} {n : Nat} {a b : UserId}
    (hm : s.Mannered) (h : s.Retracts m n a b) :
    ∃ v, s.visits[n]? = some v ∧
      (v.errand = .reset a ∨ v.errand = .decide a b .dislike) := by
  rcases h with ⟨count, hans⟩ | hans
  · obtain ⟨v, hv, he⟩ := hm.asks_forgetSwipes hans
    exact ⟨v, hv, Or.inl he⟩
  · exact ⟨_, hm.asks_recordSwipe hans, Or.inr rfl⟩

namespace Course

variable {c : Course} {k n : Nat} {actor target : UserId} {a b : UserId}

/-- Between a moment when a user likes another one and a later one when not, the user has taken it
back. -/
theorem exists_retracts {i j : Nat} (hij : i ≤ j) (hyes : (c.scene i).records.likes a b = true)
    (hno : (c.scene j).records.likes a b = false) :
    ∃ l, i ≤ l ∧ l < j ∧ ∃ n, (c.scene l).Retracts (c l) n a b := by
  induction hij with
  | refl => exact absurd (hyes.symm.trans hno) (by simp)
  | @step j hij ih =>
    cases hlast : (c.scene j).records.likes a b with
    | false =>
      obtain ⟨l, hl, hlj, hretract⟩ := ih hlast
      exact ⟨l, hl, by omega, hretract⟩
    | true => exact ⟨j, hij, by omega, Scene.exists_retracts hlast hno⟩

/-! ### The grounds of a match -/

/-- A visit was told with this move that its like is recorded. -/
def RecordsLike (c : Course) (i n : Nat) (actor target : UserId) : Prop :=
  c.Answers i n (.store (.recordSwipe actor target .like)) (.ok ()) ∧
    (c.scene (i + 1)).records.likes actor target = true

/-- A visit was told with this move that it is liked back. -/
def FindsLike (c : Course) (j n : Nat) (actor target : UserId) : Prop :=
  c.Answers j n (.store (.likes target actor)) (.ok true) ∧
    (c.scene j).records.likes target actor = true

/-- **The grounds of a stage**: what a like was told before it came there. -/
def Grounds (c : Course) (k n : Nat) (actor target : UserId) : Stage → Prop
  | .checking => ∃ i < k, c.RecordsLike i n actor target
  | .opening => ∃ i j, i < j ∧ j < k ∧ c.RecordsLike i n actor target ∧ c.FindsLike j n actor target
  | _ => True

theorem Grounds.succ {stage : Stage} (h : c.Grounds k n actor target stage) :
    c.Grounds (k + 1) n actor target stage := by
  cases stage with
  | checking =>
    obtain ⟨i, hi, hrecords⟩ := h
    exact ⟨i, by omega, hrecords⟩
  | opening =>
    obtain ⟨i, j, hij, hj, hrecords, hfinds⟩ := h
    exact ⟨i, j, hij, by omega, hrecords, hfinds⟩
  | _ => trivial

theorem grounds_afterOpening {reply : Except StoreError (ChatId × Bool)} :
    c.Grounds k n actor target (Stage.afterOpening target reply) := by
  rcases reply with e | ⟨chat, _ | _⟩ <;> trivial

/-- Who is told that a like is recorded has it on record. -/
theorem recordsLike_of_answers
    (h : c.Answers k n (.store (.recordSwipe actor target .like)) (.ok ())) :
    c.RecordsLike k n actor target := by
  obtain ⟨now, -, ha⟩ := Scene.Answers.of_ok h
  refine ⟨h, ?_⟩
  rw [scene_succ, Scene.records, ha]
  exact (Records.likes_recordSwipe ..).trans (by simp)

/-- Who is told to be liked back is liked back. -/
theorem findsLike_of_answers (h : c.Answers k n (.store (.likes target actor)) (.ok true)) :
    c.FindsLike k n actor target := by
  obtain ⟨now, hreply, -⟩ := Scene.Answers.of_ok h
  exact ⟨h, Except.ok.inj hreply⟩

/-- **Every stage of a like has its grounds.** -/
theorem exists_stage_grounds {v : Visit} (hv : (c.scene k).visits[n]? = some v)
    (he : v.errand = .decide actor target .like) :
    ∃ stage : Stage, v = .deciding actor target .like stage ∧
      stage.Fits actor target .like ∧ c.Grounds k n actor target stage := by
  refine stage_induction (fun k stage => c.Grounds k n actor target stage) ?_
    (fun _ _ h => h.succ) ?_ hv he
  · intro k
    unfold Stage.first
    split <;> trivial
  · intro k luck stage stage' _ h hm hv ht
    cases stage with
    | recording =>
      rcases Stage.askStore_cases (Option.some.inj ht) with ⟨_, hs, rfl⟩ | ⟨e, -, rfl⟩
      · have hans : c.Answers k n (.store (.recordSwipe actor target .like)) (.ok ()) :=
          ⟨luck, _, _, hm, hv, rfl, congrArg Prod.fst hs⟩
        exact ⟨k, by omega, recordsLike_of_answers hans⟩
      · trivial
    | checking =>
      rcases Stage.askStore_cases (Option.some.inj ht) with ⟨liked, hs, rfl⟩ | ⟨e, -, rfl⟩
      · cases liked with
        | false => trivial
        | true =>
          have hans : c.Answers k n (.store (.likes target actor)) (.ok true) :=
            ⟨luck, _, _, hm, hv, rfl, congrArg Prod.fst hs⟩
          obtain ⟨i, hi, hrecords⟩ := h
          exact ⟨i, k, hi, by omega, hrecords, findsLike_of_answers hans⟩
      · trivial
    | opening =>
      rcases Stage.askStore_cases (Option.some.inj ht) with ⟨reply, -, rfl⟩ | ⟨e, -, rfl⟩
      · exact grounds_afterOpening
      · trivial
    | telling chat =>
      obtain ⟨rfl, -⟩ := Prod.mk.inj (Option.some.inj ht)
      trivial
    | tellingOther chat =>
      obtain ⟨rfl, -⟩ := Prod.mk.inj (Option.some.inj ht)
      trivial
    | ended result => exact absurd ht (by simp [Stage.turn])

/-- Two users like each other at this moment. -/
def Mutual (c : Course) (l : Nat) (a b : UserId) : Prop :=
  (c.scene l).records.likes a b = true ∧ (c.scene l).records.likes b a = true

instance (c : Course) (l : Nat) (a b : UserId) : Decidable (c.Mutual l a b) :=
  inferInstanceAs (Decidable (_ ∧ _))

/-- **A match rests on two likes.** A decision that asks for the chat of a match has recorded its
own like and later found that the other one likes back. At some moment in between the two liked each
other, or else another request of the same user has taken the own like away in between. -/
theorem match_needs_likes (h : ∃ reply, c.Answers k n
      (.store (.openMatch actor target matchGreeting)) reply) :
    ∃ i j, i < j ∧ j < k ∧ c.RecordsLike i n actor target ∧ c.FindsLike j n actor target ∧
      ((∃ l, i < l ∧ l ≤ j ∧ c.Mutual l actor target) ∨
        ∃ l n' v, i < l ∧ l < j ∧ (c.scene l).Retracts (c l) n' actor target ∧
          (c.scene l).visits[n']? = some v ∧
          (v.errand = .reset actor ∨ v.errand = .decide actor target .dislike)) := by
  obtain ⟨reply, hans⟩ := h
  obtain ⟨hv, -, -⟩ := (c.mannered k).asks_openMatch hans
  obtain ⟨stage, hstage, -, hgrounds⟩ := exists_stage_grounds hv rfl
  obtain rfl : stage = .opening := by
    have hcall := hans.call? (hv.trans (congrArg some hstage))
    cases stage <;> simp [Stage.call?] at hcall
    rfl
  obtain ⟨i, j, hij, hjk, hrecords, hfinds⟩ := hgrounds
  -- either the own like was still there when the reverse one was found, or it was taken away
  refine ⟨i, j, hij, hjk, hrecords, hfinds, ?_⟩
  cases hown : (c.scene j).records.likes actor target with
  | true => exact Or.inl ⟨j, hij, Nat.le_refl j, hown, hfinds.2⟩
  | false =>
    obtain ⟨l, hil, hlj, n', hretract⟩ := exists_retracts hij hrecords.2 hown
    obtain ⟨w, hw, hother⟩ := (c.mannered l).errand_of_retracts hretract
    exact Or.inr ⟨l, n', w, by omega, hlj, hretract, hw, hother⟩

/-! ### A match of two users who never liked each other at the same time -/

/-- While the first user likes the second one, the user forgets all decisions; then the second one
likes the first one back. -/
def outdated : Course :=
  ofMoves [.arrive (.decide 1 2 .like), .turn 0 .fair, .arrive (.reset 1), .turn 1 .fair,
    .arrive (.decide 2 1 .like), .turn 2 .fair, .turn 0 .fair, .turn 0 .fair]

theorem outdated_asks :
    outdated.Answers 7 0 (.store (.openMatch 1 2 matchGreeting)) (.ok (1, true)) :=
  ⟨.fair, _, _, rfl, rfl, rfl, rfl⟩

theorem match_needs_likes_outdated :
    (∃ reply, outdated.Answers 7 0 (.store (.openMatch 1 2 matchGreeting)) reply) ∧
      ∃ i j, i < j ∧ j < 7 ∧ outdated.RecordsLike i 0 1 2 ∧ outdated.FindsLike j 0 1 2 :=
  ⟨⟨_, outdated_asks⟩,
    have ⟨i, j, hij, hj, hrecords, hfinds, _⟩ := match_needs_likes ⟨_, outdated_asks⟩
    ⟨i, j, hij, hj, hrecords, hfinds⟩⟩

/-- **A match does not need two likes at the same time**: here the chat of a match is opened, and at
no moment of the whole course, before or after, do the two users like each other. -/
theorem outdated_match :
    outdated.Answers 7 0 (.store (.openMatch 1 2 matchGreeting)) (.ok (1, true)) ∧
      ∀ l, ¬outdated.Mutual l 1 2 := by
  refine ⟨outdated_asks, fun l => ?_⟩
  have hbefore : ∀ l < 9, ¬outdated.Mutual l 1 2 := by decide
  rcases Nat.lt_or_ge l 9 with hl | hl
  · exact hbefore l hl
  · -- after its last move the course stands still
    have hstill : outdated.scene l = outdated.scene 8 := scene_ofMoves_of_le (by simp; omega)
    rw [Mutual, hstill]
    exact hbefore 8 (by decide)

end Course

end Traffic

end Rendezvous
