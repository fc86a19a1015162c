/-!
# Splitting at a separator

A list cut at every separator, at its first one, or at its last one. Cutting at every separator
always gives at least one part, and the parts joined again by the separator are the list.
-/

namespace Rendezvous

variable {α : Type} [BEq α]

/-- The parts of a list between the separators; at least one part, which may be empty. -/
def splitAll (sep : α) : List α → List (List α)
  | [] => [[]]
  | a :: r =>
    if a == sep then [] :: splitAll sep r
    else
      match splitAll sep r with
      | [] => [[a]]
      | p :: ps => (a :: p) :: ps

/-- What stands before and after the first separator. -/
def splitFirst (sep : α) : List α → Option (List α × List α)
  | [] => none
  | a :: r =>
    if a == sep then some ([], r) else (splitFirst sep r).map fun (p, q) => (a :: p, q)

/-- What stands before and after the last separator. -/
def splitLast (sep : α) : List α → Option (List α × List α)
  | [] => none
  | a :: r =>
    match splitLast sep r with
    | some (p, q) => some (a :: p, q)
    | none => if a == sep then some ([], r) else none

theorem splitAll_ne_nil (sep : α) (l : List α) : splitAll sep l ≠ [] := by
  cases l with
  | nil => simp [splitAll]
  | cons a r =>
    rw [splitAll]
    split
    · simp
    · split <;> simp

/-- The parts joined by the separator are the list again. -/
theorem intercalate_splitAll [LawfulBEq α] (sep : α) (l : List α) :
    [sep].intercalate (splitAll sep l) = l := by
  induction l with
  | nil => simp [splitAll, List.intercalate]
  | cons a r ih =>
    rw [splitAll]
    split
    · next h =>
      obtain rfl := eq_of_beq h
      cases hp : splitAll a r with
      | nil => exact absurd hp (splitAll_ne_nil a r)
      | cons p ps => rw [hp] at ih; simp [List.intercalate] at ih ⊢; exact ih
    · cases hp : splitAll sep r with
      | nil => exact absurd hp (splitAll_ne_nil sep r)
      | cons p ps =>
        rw [hp] at ih
        cases ps with
        | nil => simpa [List.intercalate] using ih
        | cons q qs => simpa [List.intercalate] using ih

/-- No part holds the separator. -/
theorem not_mem_of_mem_splitAll [LawfulBEq α] {sep : α} {l p : List α}
    (hp : p ∈ splitAll sep l) : sep ∉ p := by
  induction l generalizing p with
  | nil => simp [splitAll] at hp; simp [hp]
  | cons a r ih =>
    rw [splitAll] at hp
    split at hp
    · rcases List.mem_cons.1 hp with rfl | h
      · simp
      · exact ih h
    · next ha =>
      have hne : sep ≠ a := fun e => ha (by simp [e])
      split at hp
      · simp at hp; simp [hp, hne]
      · next q qs hq =>
        rcases List.mem_cons.1 hp with rfl | h
        · simp [hne, ih (p := q) (by simp [hq])]
        · exact ih (by simp [hq, h])

end Rendezvous
