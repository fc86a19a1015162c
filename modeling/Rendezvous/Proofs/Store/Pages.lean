import Mathlib.Data.List.Basic
import Rendezvous.Proofs.Store.Permanence

/-!
# Pages of a log in order

A log is in the order of its numbers. So a page before a cursor is the last part of what comes
before it, a page after a cursor is the first part of what comes after it, and the cursor that is
taken from a page parts the log right there. This module says so for one page (`Cursor.Parts.slice`,
`Cursor.Parts.back`, `Reached.next`), and that the log may go on at its end in between
(`Cursor.Parts.grow`, `Reached.grow`).

What a reader gets differs from what stands in the log at another time by read marks, and by nothing
else. Messages are compared *bare*, without their read marks.
-/

namespace Rendezvous

/-- The message without its read mark. -/
def Message.bare (m : Message) : Message :=
  { m with isRead := false }

/-- The numbers of messages in ascending order. -/
def Ascending (l : List Message) : Prop :=
  l.Pairwise fun m m' => m.id < m'.id

theorem ascending_map_bare {l : List Message} : Ascending (l.map Message.bare) ↔ Ascending l :=
  List.pairwise_map

/-! ### Pages of bare messages -/

theorem lastItems_map {α β : Type} (f : α → β) (n : Nat) (l : List α) :
    (lastItems n l).map f = lastItems n (l.map f) := by
  simp [lastItems]

/-- A page of bare messages is a bare page. -/
theorem PageSpec.slice_map_bare (spec : PageSpec) (log : List Message) :
    (spec.slice log).map Message.bare = spec.slice (log.map Message.bare) := by
  obtain ⟨cursor, limit⟩ := spec
  cases cursor with
  | latest => simp only [slice_latest, lastItems_map]
  | before id =>
    simp only [slice_before, lastItems_map, List.takeWhile_map]
    rfl
  | after id =>
    simp only [slice_after, List.map_take, List.dropWhile_map]
    rfl

variable {l older rest page got : List Message} {x y : MessageId} {n : Nat} {m : Message}

/-! ### Back -/

/-- A page that is taken from the end leaves what comes before it. -/
theorem take_append_lastItems {α : Type} (n : Nat) (l : List α) :
    l.take (l.length - n) ++ lastItems n l = l :=
  List.take_append_drop ..

/-- A page with room is empty only if there is nothing left. -/
theorem eq_nil_of_lastItems {α : Type} {l : List α} (hn : 0 < n) (h : lastItems n l = []) :
    l = [] := by
  have hlen := List.drop_eq_nil_iff.1 h
  exact List.eq_nil_of_length_eq_zero (by omega)

/-- **The cursor parts the log**: what comes before it are these messages. -/
def Cursor.Parts (c : Cursor) (l older : List Message) : Prop :=
  match c with
  | .latest => l = older
  | .before x => ∃ m rest, l = older ++ m :: rest ∧ m.id = x ∧ ∀ m' ∈ older, m'.id < x
  | .after _ => False

/-- Where the page before a page is taken from. -/
def Cursor.back (c : Cursor) : List Message → Cursor
  | [] => c
  | m :: _ => .before m.id

theorem Cursor.back_map_bare (c : Cursor) (page : List Message) :
    c.back (page.map Message.bare) = c.back page := by
  cases page <;> rfl

theorem Cursor.back_ne_latest (c : Cursor) (hne : page ≠ []) : c.back page ≠ .latest := by
  cases page with
  | nil => exact absurd rfl hne
  | cons m page => simp [Cursor.back]

namespace Cursor.Parts

variable {c : Cursor}

/-- What comes before the cursor is the beginning of the log. -/
theorem exists_append (h : c.Parts l older) : ∃ tail, l = older ++ tail := by
  cases c with
  | latest => exact ⟨[], h.trans (List.append_nil _).symm⟩
  | before x =>
    obtain ⟨m, rest, hl, -⟩ := h
    exact ⟨m :: rest, hl⟩
  | after x => exact h.elim

/-- **A page before the cursor** is the last part of what comes before it. -/
theorem slice (h : c.Parts l older) (limit : UInt32) :
    PageSpec.slice ⟨c, limit⟩ l = lastItems limit.toNat older := by
  cases c with
  | latest =>
    obtain rfl : l = older := h
    exact PageSpec.slice_latest ..
  | before x =>
    obtain ⟨m, rest, rfl, rfl, hlt⟩ := h
    have htake : ((older ++ m :: rest).takeWhile fun m' => m'.id < m.id) = older := by
      rw [List.takeWhile_append_of_pos (by simpa using hlt)]
      simp
    simp only [PageSpec.slice_before, htake]
  | after x => exact h.elim

/-- **The next cursor** parts the log in front of the page. -/
theorem back (h : c.Parts l older) (hasc : Ascending older)
    (hpage : older = rest ++ page) (hne : page ≠ []) : (c.back page).Parts l rest := by
  obtain ⟨tail, rfl⟩ := h.exists_append
  cases page with
  | nil => exact absurd rfl hne
  | cons m page =>
    subst hpage
    refine ⟨m, page ++ tail, by simp, rfl, fun m' hm' => ?_⟩
    exact (List.pairwise_append.1 hasc).2.2 m' hm' m List.mem_cons_self

/-- The log may go on behind a cursor at a message. -/
theorem grow (h : c.Parts l older) (hc : c ≠ .latest) (new : List Message) :
    c.Parts (l ++ new) older := by
  cases c with
  | latest => exact absurd rfl hc
  | before x =>
    obtain ⟨m, rest, rfl, hid, hlt⟩ := h
    exact ⟨m, rest ++ new, by simp, hid, hlt⟩
  | after x => exact h.elim

end Cursor.Parts

/-! ### Forth -/

/-- The messages of a log that come after a number. -/
def beyond (x : MessageId) (l : List Message) : List Message :=
  l.filter fun m => x < m.id

theorem beyond_append (x : MessageId) (l new : List Message) :
    beyond x (l ++ new) = beyond x l ++ beyond x new :=
  List.filter_append ..

theorem beyond_eq_self (h : ∀ m ∈ l, x < m.id) : beyond x l = l :=
  List.filter_eq_self.2 (by simpa using h)

theorem Ascending.beyond (h : Ascending l) (x : MessageId) : Ascending (beyond x l) :=
  h.filter _

/-- The items of a kind stand in front of all others, so that what comes until the kind is over are
all of them. -/
theorem takeWhile_eq_filter {α : Type} {p : α → Bool} {l : List α}
    (h : l.Pairwise fun a b => p b = true → p a = true) : l.takeWhile p = l.filter p := by
  induction l with
  | nil => rfl
  | cons a l ih =>
    obtain ⟨ha, hl⟩ := List.pairwise_cons.1 h
    cases hp : p a with
    | true => simp [hp, ih hl]
    | false =>
      -- with the first item that is not of the kind, none behind it is
      have hnone : ∀ b ∈ l, ¬p b = true := fun b hb hpb => by simp [ha b hb hpb] at hp
      simpa [hp] using hnone

/-- What is left when they are skipped are all others. -/
theorem dropWhile_eq_filter {α : Type} {p : α → Bool} {l : List α}
    (h : l.Pairwise fun a b => p b = true → p a = true) :
    l.dropWhile p = l.filter fun a => !p a := by
  induction l with
  | nil => rfl
  | cons a l ih =>
    obtain ⟨ha, hl⟩ := List.pairwise_cons.1 h
    cases hp : p a with
    | true => simp [hp, ih hl]
    | false =>
      have hall : ∀ b ∈ a :: l, (!p b) = true := by
        intro b hb
        rcases List.mem_cons.1 hb with rfl | hb
        · simp [hp]
        · cases hpb : p b with
          | true => simp [ha b hb hpb] at hp
          | false => rfl
      rw [List.filter_eq_self.2 hall, List.dropWhile_cons_of_neg (by simp [hp])]

/-- In an ascending log the numbers below a bound come first. -/
theorem Ascending.lt_of_lt (h : Ascending l) (x : MessageId) :
    l.Pairwise fun m m' => decide (m'.id < x) = true → decide (m.id < x) = true :=
  h.imp fun hlt => by simpa using Int64.lt_trans hlt

/-- So do the numbers up to one. -/
theorem Ascending.le_of_le (h : Ascending l) (x : MessageId) :
    l.Pairwise fun m m' => decide (m'.id ≤ x) = true → decide (m.id ≤ x) = true :=
  h.imp fun hlt => by simpa using fun hle => Int64.le_of_lt (Int64.lt_of_lt_of_le hlt hle)

/-- What comes before a number in an ascending log is what comes until the number is reached. -/
theorem Ascending.takeWhile (h : Ascending l) (x : MessageId) :
    (l.takeWhile fun m => m.id < x) = l.filter fun m => m.id < x :=
  takeWhile_eq_filter (h.lt_of_lt x)

/-- What comes after a number in an ascending log is what is left when the rest is skipped. -/
theorem Ascending.dropWhile (h : Ascending l) (x : MessageId) :
    (l.dropWhile fun m => m.id ≤ x) = Rendezvous.beyond x l := by
  rw [dropWhile_eq_filter (h.le_of_le x)]
  refine List.filter_congr fun m _ => ?_
  rw [← decide_not]
  exact decide_eq_decide.2 Int64.not_le

/-- **A page after a number** is the first part of what comes after it. -/
theorem Ascending.slice_after (h : Ascending l) (x : MessageId) (limit : UInt32) :
    PageSpec.slice ⟨.after x, limit⟩ l = (Rendezvous.beyond x l).take limit.toNat := by
  simp only [PageSpec.slice_after, h.dropWhile]

/-- What comes after a greater number can be looked for in what comes after a lesser one. -/
theorem beyond_beyond (h : x < y) (l : List Message) : beyond y (beyond x l) = beyond y l := by
  simp only [beyond, List.filter_filter]
  refine List.filter_congr fun m _ => ?_
  simpa using fun hy => Int64.lt_trans h hy

/-- What comes after the last message of a page is what the page has left over. -/
theorem Ascending.beyond_last (h : Ascending l) {front : List Message}
    (hpage : Rendezvous.beyond x l = front ++ [m] ++ rest) :
    x < m.id ∧ Rendezvous.beyond m.id l = rest := by
  have hasc : Ascending (front ++ [m] ++ rest) := hpage ▸ h.beyond x
  obtain ⟨hfront, -, hrest⟩ := List.pairwise_append.1 hasc
  have hmem : m ∈ Rendezvous.beyond x l := by simp [hpage]
  have hx : x < m.id := by simpa using (List.mem_filter.1 hmem).2
  have hnone : Rendezvous.beyond m.id (front ++ [m]) = [] := by
    refine List.filter_eq_nil_iff.2 fun m' hm' => ?_
    rcases List.mem_append.1 hm' with hm' | hm'
    · simpa using Int64.le_of_lt ((List.pairwise_append.1 hfront).2.2 m' hm' m (by simp))
    · simp [List.mem_singleton.1 hm']
  refine ⟨hx, ?_⟩
  rw [← beyond_beyond hx, hpage, beyond_append, hnone, List.nil_append]
  exact beyond_eq_self fun m' hm' => hrest m (by simp) m' hm'

/-- Where the page after a page is taken from. -/
def Cursor.forth (c : Cursor) (page : List Message) : Cursor :=
  match page.getLast? with
  | none => c
  | some m => .after m.id

theorem Cursor.forth_map_bare (c : Cursor) (page : List Message) :
    c.forth (page.map Message.bare) = c.forth page := by
  unfold forth
  rw [List.getLast?_map]
  cases page.getLast? <;> rfl

theorem beyond_map_bare (x : MessageId) (l : List Message) :
    (beyond x l).map Message.bare = beyond x (l.map Message.bare) := by
  unfold beyond
  rw [List.filter_map]
  rfl

/-- **A reader has come from one number to another**, and got all that is in between. -/
structure Reached (l : List Message) (x y : MessageId) (got : List Message) : Prop where
  /-- What the reader got, and what comes after it, is what comes after the number where the reader
  began. -/
  all : got ++ beyond y l = beyond x l
  /-- The reader has got nothing, or the last message had this number. -/
  place : y = x ∨ (x < y ∧ ∃ m ∈ l, m.id = y)

namespace Reached

theorem start (l : List Message) (x : MessageId) : Reached l x x [] :=
  ⟨rfl, Or.inl rfl⟩

/-- **With the next page** the reader comes to the last message of it. -/
theorem next (h : Reached l x y got) (hasc : Ascending l) (hpage : beyond y l = page ++ rest) :
    ∃ z, (Cursor.after y).forth page = .after z ∧ beyond z l = rest ∧
      Reached l x z (got ++ page) := by
  rcases page.eq_nil_or_concat with rfl | ⟨front, m, rfl⟩
  · exact ⟨y, rfl, hpage, by rwa [List.append_nil]⟩
  · rw [List.concat_eq_append] at hpage ⊢
    obtain ⟨hy, hrest⟩ := hasc.beyond_last hpage
    have hmem : m ∈ beyond y l := by simp [hpage]
    refine ⟨m.id, by simp [Cursor.forth], hrest, ?_, Or.inr ⟨?_, m, ?_, rfl⟩⟩
    · rw [hrest, List.append_assoc, ← hpage, h.all]
    · rcases h.place with rfl | ⟨hxy, -⟩
      · exact hy
      · exact Int64.lt_trans hxy hy
    · exact (List.mem_filter.1 hmem).1

/-- The log may go on with greater numbers. -/
theorem grow (h : Reached l x y got) {new : List Message}
    (hnew : ∀ m ∈ new, ∀ m' ∈ l, m'.id < m.id) : Reached (l ++ new) x y got where
  all := by
    -- of the new messages the same come after both numbers
    have hsame : beyond y new = beyond x new := by
      rcases h.place with rfl | ⟨hxy, m, hm, rfl⟩
      · rfl
      · have hgreater : ∀ m' ∈ new, m.id < m'.id := fun m' hm' => hnew m' hm' m hm
        rw [beyond_eq_self hgreater,
          beyond_eq_self fun m' hm' => Int64.lt_trans hxy (hgreater m' hm')]
    rw [beyond_append, beyond_append, hsame, ← List.append_assoc, h.all]
  place := by
    refine h.place.imp_right fun ⟨hxy, m, hm, hid⟩ => ⟨hxy, m, ?_, hid⟩
    exact List.mem_append_left _ hm

end Reached

end Rendezvous
