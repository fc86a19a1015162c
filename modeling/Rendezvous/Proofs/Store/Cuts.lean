import Mathlib.Data.List.Basic
import Rendezvous.Proofs.Store.Pages

/-!
# Where a page is cut out of a log

A page is what stands between two places of a log. Which places these are is worked out with a
search for the place where the numbers reach the cursor, and with sums and differences of places
and sizes. What a reader has asked for is said without places: so many of the messages that there
are, that have lesser numbers or that have greater ones, from that end of them where the cursor is
(`PageSpec.IsCut`). In a log in order the two come to the same (`Ascending.isCut`).

Nothing has to be in order for the two places to be places of the log, the first one not behind the
second one (`PageSpec.bounds_fit`), so that something can be cut out in any case.
-/

namespace Rendezvous

variable {log : List Message}

/-! ### Places -/

/-- **A place parts a log** into messages of a kind in front of it and others behind it. -/
structure PartsAt (p : Message → Bool) (log : List Message) (place : Nat) : Prop where
  /-- It is a place of the log. -/
  le_length : place ≤ log.length
  /-- The messages in front of it are of the kind. -/
  front : ∀ m ∈ log.take place, p m = true
  /-- Those behind it are not. -/
  behind : ∀ m ∈ log.drop place, p m = false

/-- There is at most one place that parts a log: whoever finds one finds the same, however the
search is made. -/
theorem PartsAt.eq_turningPoint {p : Message → Bool} {place : Nat} (h : PartsAt p log place) :
    place = turningPoint p log := by
  have hbehind : (log.drop place).takeWhile p = [] := by
    cases hdrop : log.drop place with
    | nil => rfl
    | cons m rest => exact List.takeWhile_cons_of_neg (by simp [h.behind m (by simp [hdrop])])
  have htake : log.takeWhile p = log.take place := by
    calc log.takeWhile p = (log.take place ++ log.drop place).takeWhile p := by
          rw [List.take_append_drop]
      _ = log.take place ++ (log.drop place).takeWhile p := List.takeWhile_append_of_pos h.front
      _ = log.take place := by rw [hbehind, List.append_nil]
  have hlen := congrArg List.length ((take_turningPoint p log).trans htake)
  have hplace := h.le_length
  have hturn := turningPoint_le_length p log
  simp only [List.length_take] at hlen
  omega

/-- Where the messages of a kind come first, the place where they are over parts the log. -/
theorem partsAt_turningPoint {p : Message → Bool}
    (h : log.Pairwise fun m m' => p m' = true → p m = true) :
    PartsAt p log (turningPoint p log) where
  le_length := turningPoint_le_length p log
  front := by
    intro m hm
    rw [take_turningPoint, takeWhile_eq_filter h] at hm
    exact (List.mem_filter.1 hm).2
  behind := by
    intro m hm
    rw [drop_turningPoint, dropWhile_eq_filter h] at hm
    simpa using (List.mem_filter.1 hm).2

theorem Ascending.partsAt_lt (h : Ascending log) (x : MessageId) :
    PartsAt (fun m => m.id < x) log (turningPoint (fun m => m.id < x) log) :=
  partsAt_turningPoint (h.lt_of_lt x)

theorem Ascending.partsAt_le (h : Ascending log) (x : MessageId) :
    PartsAt (fun m => m.id ≤ x) log (turningPoint (fun m => m.id ≤ x) log) :=
  partsAt_turningPoint (h.le_of_le x)

/-! ### The two places of a page -/

/-- **Something can always be cut out**: the two places are places of the log, and the first one
does not stand behind the second one. -/
theorem PageSpec.bounds_fit (request : PageSpec) (log : List Message) :
    (request.bounds log).1 ≤ (request.bounds log).2 ∧
      (request.bounds log).2 ≤ log.length := by
  obtain ⟨cursor, limit⟩ := request
  cases cursor with
  | latest =>
    constructor
    · exact Nat.sub_le ..
    · exact Nat.le_refl _
  | before x =>
    constructor
    · exact Nat.sub_le ..
    · exact turningPoint_le_length ..
  | after x =>
    have hstart := turningPoint_le_length (fun m => m.id ≤ x) log
    simp only [bounds]
    omega

/-- The sum of a place and a size fits into a word of 64 bits, if the log is not longer than a
memory can be. -/
theorem turningPoint_add_lt (p : Message → Bool) (limit : UInt32)
    (hlog : log.length < 2 ^ 63) : turningPoint p log + limit.toNat < 2 ^ 64 := by
  have hturn := turningPoint_le_length p log
  have hlimit := limit.toNat_lt
  omega

/-- A page is a part of the log in one piece. -/
theorem PageSpec.slice_isInfix (request : PageSpec) (log : List Message) :
    request.slice log <:+: log := by
  have hdrop : (log.drop (request.bounds log).1).take
      ((request.bounds log).2 - (request.bounds log).1) <:+: log.drop (request.bounds log).1 :=
    (List.take_prefix _ _).isInfix
  exact hdrop.trans (List.drop_suffix _ _).isInfix

theorem Ascending.slice (h : Ascending log) (request : PageSpec) :
    Ascending (request.slice log) :=
  h.sublist (request.slice_isInfix log).sublist

/-! ### What was asked for -/

/-- The messages that a cursor lets through. -/
def Cursor.among : Cursor → List Message → List Message
  | .latest, log => log
  | .before x, log => log.filter fun m => m.id < x
  | .after x, log => log.filter fun m => x < m.id

/-- **What was asked for**: so many of the messages that the cursor lets through, or all of them
when there are fewer, and from that end of them where the cursor is. -/
structure PageSpec.IsCut (request : PageSpec) (log page : List Message) : Prop where
  /-- They are as many as was asked for, as far as there are. -/
  length_eq : page.length = min request.limit.toNat (request.cursor.among log).length
  /-- The latest messages, and those before a number, are the last of them. -/
  last : (∀ x, request.cursor ≠ .after x) → page <:+ request.cursor.among log
  /-- The messages after a number are the first of them. -/
  first : ∀ x, request.cursor = .after x → page <+: request.cursor.among log

/-- Only one page is what was asked for. -/
theorem PageSpec.IsCut.unique {request : PageSpec} {page page' : List Message}
    (h : request.IsCut log page) (h' : request.IsCut log page') : page = page' := by
  have hlen : page.length = page'.length := h.length_eq.trans h'.length_eq.symm
  by_cases hafter : ∃ x, request.cursor = .after x
  · obtain ⟨x, hx⟩ := hafter
    have hprefix : page <+: page' :=
      List.prefix_of_prefix_length_le (h.first x hx) (h'.first x hx) (Nat.le_of_eq hlen)
    exact hprefix.eq_of_length hlen
  · have hlast : ∀ x, request.cursor ≠ .after x := fun x hx => hafter ⟨x, hx⟩
    have hsuffix : page <:+ page' :=
      List.suffix_of_suffix_length_le (h.last hlast) (h'.last hlast) (Nat.le_of_eq hlen)
    exact hsuffix.eq_of_length hlen

theorem length_lastItems {α : Type} (n : Nat) (l : List α) :
    (lastItems n l).length = min n l.length := by
  simp only [lastItems, List.length_drop]
  omega

/-- **A page of a log in order is what was asked for.** -/
theorem Ascending.isCut (h : Ascending log) (request : PageSpec) :
    request.IsCut log (request.slice log) := by
  obtain ⟨cursor, limit⟩ := request
  cases cursor with
  | latest =>
    rw [PageSpec.slice_latest]
    exact ⟨length_lastItems .., fun _ => List.drop_suffix .., nofun⟩
  | before x =>
    rw [PageSpec.slice_before, h.takeWhile]
    exact ⟨length_lastItems .., fun _ => List.drop_suffix .., nofun⟩
  | after x =>
    rw [h.slice_after]
    refine ⟨List.length_take, fun hlast => absurd rfl (hlast x), fun _ _ => ?_⟩
    exact List.take_prefix ..

end Rendezvous
