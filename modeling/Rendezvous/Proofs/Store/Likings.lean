import Mathlib.Data.List.Basic
import Rendezvous.Proofs.Store.Annals

/-!
# Who likes whom

Whether a user likes another one is what the user has said last about the other, and nothing once it
is forgotten. Of all requests only two can change it, a decision of this user about this other one
and the wish of this user to forget (`StoreRequest.Touches`, `Records.likes_answer`). Two users
match as long as each likes the other (`Records.mem_matchesOf`).
-/

namespace Rendezvous

/-- A request is about what the one user thinks of the other. -/
def StoreRequest.Touches (a b : UserId) : StoreRequest → Prop
  | .recordSwipe actor target _ => actor = a ∧ target = b
  | .forgetSwipes actor => actor = a
  | _ => False

namespace Records

variable {t : Records} {now : Timestamp}

theorem likes_eq_true_iff {a b : UserId} :
    t.likes a b = true ↔ ∃ s, t.swipes.get? (a, b) = some s ∧ s.action = .like := by
  unfold likes
  cases t.swipes.get? (a, b) <;> simp

theorem likes_recordSwipe (t : Records) (now : Timestamp) (actor target : UserId)
    (action : Decision) (a b : UserId) :
    (t.recordSwipe now actor target action).likes a b =
      if actor = a ∧ target = b then action == .like else t.likes a b := by
  unfold likes recordSwipe
  by_cases h : actor = a ∧ target = b
  · obtain ⟨rfl, rfl⟩ := h
    simp
  · have hne : (a, b) ≠ (actor, target) := by
      intro e
      obtain ⟨rfl, rfl⟩ := Prod.mk.inj e
      exact h ⟨rfl, rfl⟩
    simp [Table.get?_insert_of_ne _ _ hne, h]

theorem likes_forgetSwipes (t : Records) (actor a b : UserId) :
    (t.forgetSwipes actor).2.likes a b = (a != actor && t.likes a b) := by
  unfold likes forgetSwipes
  simp only [Table.get?_keep]
  cases t.swipes.get? (a, b) with
  | none => simp
  | some s => by_cases h : a = actor <;> simp [h, Option.filter]

theorem swipes_markWhere (chat : ChatId) (p : Message → Bool) :
    (t.markWhere chat p).2.swipes = t.swipes := by
  unfold markWhere
  split <;> rfl

/-- **Only two requests are about what a user thinks of another one.** -/
theorem likes_answer (t : Records) (now : Timestamp) {r : StoreRequest} {a b : UserId}
    (h : ¬r.Touches a b) : (t.answer now r).2.likes a b = t.likes a b := by
  have heffect := t.answer_effect now r
  generalize t.answer now r = out at heffect ⊢
  cases heffect with
  | decided => exact (likes_recordSwipe ..).trans (if_neg h)
  | @forgotten actor =>
    have hne : a ≠ actor := fun e => h e.symm
    exact (likes_forgetSwipes t actor a b).trans (by simp [hne])
  | marked hquiet chat p => simp [likes, swipes_markWhere]
  | _ => rfl

/-- A request that makes a user like another one is a decision to do so. -/
theorem eq_recordSwipe_of_likes {r : StoreRequest} {a b : UserId} (hno : t.likes a b = false)
    (hyes : (t.answer now r).2.likes a b = true) : r = .recordSwipe a b .like := by
  cases r with
  | recordSwipe actor target action =>
    have hl := (likes_recordSwipe t now actor target action a b).symm.trans hyes
    split at hl
    · next h =>
      obtain ⟨rfl, rfl⟩ := h
      rw [beq_iff_eq.1 hl]
    · rw [hno] at hl
      exact absurd hl (by simp)
  | forgetSwipes actor =>
    have hl := (likes_forgetSwipes t actor a b).symm.trans hyes
    simp [hno] at hl
  | _ =>
    rw [likes_answer t now (by exact id), hno] at hyes
    exact absurd hyes (by simp)

/-- A request after which a user no longer likes another one is the wish of this user to forget, or
a decision not to like. -/
theorem retracts_of_likes {r : StoreRequest} {a b : UserId} (hyes : t.likes a b = true)
    (hno : (t.answer now r).2.likes a b = false) :
    r = .forgetSwipes a ∨ r = .recordSwipe a b .dislike := by
  cases r with
  | recordSwipe actor target action =>
    have hl := (likes_recordSwipe t now actor target action a b).symm.trans hno
    split at hl
    · next h =>
      obtain ⟨rfl, rfl⟩ := h
      cases action with
      | like => exact absurd hl (by decide)
      | dislike => exact Or.inr rfl
    · exact absurd (hyes.symm.trans hl) (by simp)
  | forgetSwipes actor =>
    have hl := (likes_forgetSwipes t actor a b).symm.trans hno
    obtain rfl : a = actor := by simpa [hyes] using hl
    exact Or.inl rfl
  | _ =>
    rw [likes_answer t now (by exact id), hyes] at hno
    exact absurd hno (by simp)

/-- **Two users match** exactly if each likes the other. -/
theorem mem_matchesOf {a b : UserId} :
    b ∈ t.matchesOf a ↔ t.likes a b = true ∧ t.likes b a = true := by
  unfold matchesOf
  simp only [List.mem_mergeSort, List.mem_filter, List.mem_map, Bool.and_eq_true, beq_iff_eq]
  constructor
  · rintro ⟨-, h⟩
    exact h
  · intro h
    obtain ⟨s, hs, -⟩ := likes_eq_true_iff.1 h.1
    exact ⟨⟨(a, b), ⟨Table.mem_keys.2 (by simp [hs]), rfl⟩, rfl⟩, h⟩

end Records

end Rendezvous
