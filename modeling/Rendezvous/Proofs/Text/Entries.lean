import Mathlib.Data.List.TakeWhile
import Rendezvous.Proofs.Text.Form
import Rendezvous.Settings.Origins

/-!
# Entries of a list between commas

What an entry of such a list is can be said without taking the list apart: it stands between two
commas, or between a comma and an end of the text, with nothing but blanks around it, and it neither
begins nor ends with a blank (`IsEntry`). The reader finds these entries and no others
(`mem_listEntries_iff`).

A part between separators may stand in a list more than once, so that its place is not known from
the part alone. The parts are therefore put together again (`intercalate_append_cons`), which shows
every part at its own place.
-/

namespace Rendezvous

/-! ### Parts between separators -/

section Parts

variable {α : Type} {sep : α} {l part : List α}

/-- **A part stands between separators**, or between one and an end of the list. -/
structure IsPart (sep : α) (l part : List α) : Prop where
  /-- No separator is in it. -/
  whole : sep ∉ part
  /-- What stands before it ends with a separator, and what comes behind it begins with one. -/
  stands : ∃ before after, l = before ++ part ++ after ∧
    (before = [] ∨ ∃ b, before = b ++ [sep]) ∧ (after = [] ∨ ∃ a, after = sep :: a)

/-- Parts that are put together: some, then one of them, and the rest. -/
theorem intercalate_append_cons (sep : α) (front : List (List α)) (part : List α)
    (back : List (List α)) :
    [sep].intercalate (front ++ part :: back) =
      (front.flatMap fun p => p ++ [sep]) ++ part ++ back.flatMap fun p => sep :: p := by
  induction front with
  | nil =>
    induction back generalizing part with
    | nil => simp
    | cons next back ih =>
      have hrest := ih next
      rw [List.nil_append] at hrest ⊢
      rw [List.intercalate_cons_cons, hrest]
      simp
  | cons first front ih =>
    obtain ⟨next, rest, hrest⟩ : ∃ next rest, front ++ part :: back = next :: rest :=
      List.exists_cons_of_ne_nil (by simp)
    rw [List.cons_append, hrest, List.intercalate_cons_cons, ← hrest, ih]
    simp

/-- What stands before a part is nothing, or ends with a separator. -/
theorem flatMap_concat_cases (sep : α) (parts : List (List α)) :
    (parts.flatMap fun p => p ++ [sep]) = [] ∨
      ∃ b, (parts.flatMap fun p => p ++ [sep]) = b ++ [sep] := by
  rcases List.eq_nil_or_concat parts with rfl | ⟨parts, last, rfl⟩
  · exact Or.inl rfl
  · exact Or.inr ⟨(parts.flatMap fun p => p ++ [sep]) ++ last, by simp⟩

/-- What comes behind it is nothing, or begins with one. -/
theorem flatMap_cons_cases (sep : α) (parts : List (List α)) :
    (parts.flatMap fun p => sep :: p) = [] ∨
      ∃ a, (parts.flatMap fun p => sep :: p) = sep :: a := by
  cases parts with
  | nil => exact Or.inl rfl
  | cons first parts => exact Or.inr ⟨first ++ parts.flatMap fun p => sep :: p, by simp⟩

variable [BEq α] [LawfulBEq α]

/-- A list is cut at every separator, wherever it is. -/
theorem splitAll_append_cons (sep : α) (l rest : List α) :
    splitAll sep (l ++ sep :: rest) = splitAll sep l ++ splitAll sep rest := by
  induction l with
  | nil => simp [splitAll]
  | cons a l ih =>
    obtain ⟨p, ps, hparts⟩ := List.exists_cons_of_ne_nil (splitAll_ne_nil sep l)
    rw [List.cons_append, splitAll, splitAll, ih, hparts]
    split <;> rfl

/-- **Cutting a list gives its parts**, and nothing else. -/
theorem mem_splitAll_iff : part ∈ splitAll sep l ↔ IsPart sep l part := by
  constructor
  · intro hpart
    obtain ⟨front, back, hparts⟩ := List.append_of_mem hpart
    refine ⟨not_mem_of_mem_splitAll hpart, _, _, ?_, flatMap_concat_cases sep front,
      flatMap_cons_cases sep back⟩
    rw [← intercalate_append_cons, ← hparts, intercalate_splitAll]
  · rintro ⟨hwhole, before, after, rfl, hbefore, hafter⟩
    have hfirst : part ∈ splitAll sep (part ++ after) := by
      rcases hafter with rfl | ⟨a, rfl⟩
      · rw [List.append_nil, splitAll_of_not_mem hwhole]
        exact List.mem_cons_self
      · rw [splitAll_append hwhole]
        exact List.mem_cons_self
    rcases hbefore with rfl | ⟨b, rfl⟩
    · exact hfirst
    · have hcut : b ++ [sep] ++ part ++ after = b ++ sep :: (part ++ after) := by simp
      rw [hcut, splitAll_append_cons]
      exact List.mem_append_right _ hfirst

end Parts

/-! ### Trimming -/

section Trimming

variable {cs core : List Char}

/-- **A text neither begins nor ends with a blank.** -/
structure IsTrimmed (core : List Char) : Prop where
  /-- Its first character is no blank. -/
  head : ∀ c ∈ core.head?, isBlank c = false
  /-- Its last one is none. -/
  last : ∀ c ∈ core.getLast?, isBlank c = false

theorem head?_dropWhile_isBlank (cs : List Char) :
    ∀ c ∈ (cs.dropWhile isBlank).head?, isBlank c = false := by
  intro c hc
  have hhead := List.head?_dropWhile_not isBlank cs
  rw [Option.mem_def.1 hc] at hhead
  exact hhead

theorem dropWhile_isBlank_append {front rest : List Char} (hfront : ∀ c ∈ front, isBlank c = true)
    (hrest : ∀ c ∈ rest.head?, isBlank c = false) : (front ++ rest).dropWhile isBlank = rest := by
  rw [List.dropWhile_append_of_pos hfront]
  cases rest with
  | nil => rfl
  | cons c rest => simp [hrest c rfl]

/-- **Trimming leaves what stands between blanks**, if that is anything. -/
theorem trimChars_eq_iff (hne : core ≠ []) :
    trimChars cs = core ↔ IsTrimmed core ∧ ∃ front back, cs = front ++ core ++ back ∧
      (∀ c ∈ front, isBlank c = true) ∧ ∀ c ∈ back, isBlank c = true := by
  constructor
  · rintro rfl
    have hfront : cs.takeWhile isBlank ++ cs.dropWhile isBlank = cs :=
      List.takeWhile_append_dropWhile
    have hback : trimChars cs ++
        ((cs.dropWhile isBlank).reverse.takeWhile isBlank).reverse = cs.dropWhile isBlank := by
      rw [trimChars, ← List.reverse_append, List.takeWhile_append_dropWhile, List.reverse_reverse]
    refine ⟨⟨fun c hc => ?_, fun c hc => ?_⟩, cs.takeWhile isBlank,
      ((cs.dropWhile isBlank).reverse.takeWhile isBlank).reverse, ?_,
      fun c hc => List.mem_takeWhile_imp hc,
      fun c hc => List.mem_takeWhile_imp (List.mem_reverse.1 hc)⟩
    · -- what trimming leaves begins as what is behind the blanks in front
      refine head?_dropWhile_isBlank cs c ?_
      rw [← hback, List.head?_append_of_ne_nil _ hne]
      exact hc
    · refine head?_dropWhile_isBlank (cs.dropWhile isBlank).reverse c ?_
      rwa [trimChars, List.getLast?_reverse] at hc
    · rw [List.append_assoc, hback, hfront]
  · rintro ⟨⟨hhead, hlast⟩, front, back, rfl, hfront, hback⟩
    have hdrop : (front ++ core ++ back).dropWhile isBlank = core ++ back := by
      rw [List.append_assoc]
      refine dropWhile_isBlank_append hfront fun c hc => hhead c ?_
      rwa [List.head?_append_of_ne_nil _ hne] at hc
    rw [trimChars, hdrop, List.reverse_append,
      dropWhile_isBlank_append (fun c hc => hback c (List.mem_reverse.1 hc))
        (fun c hc => hlast c (List.head?_reverse ▸ hc)), List.reverse_reverse]

end Trimming

/-! ### Entries -/

/-- **An entry of a list between commas.** -/
structure IsEntry (text entry : String) : Prop where
  /-- It is not empty. -/
  ne_empty : entry ≠ ""
  /-- No comma is in it. -/
  whole : ',' ∉ entry.toList
  /-- It neither begins nor ends with a blank. -/
  trimmed : IsTrimmed entry.toList
  /-- Blanks stand around it, up to a comma or an end of the text. -/
  stands : ∃ before front back after,
    text.toList = before ++ front ++ entry.toList ++ back ++ after ∧
      (before = [] ∨ ∃ b, before = b ++ [',']) ∧ (after = [] ∨ ∃ a, after = ',' :: a) ∧
      (∀ c ∈ front, isBlank c = true) ∧ ∀ c ∈ back, isBlank c = true

/-- **The entries that are read are the entries of the list.** -/
theorem mem_listEntries_iff {text entry : String} :
    entry ∈ listEntries text ↔ IsEntry text entry := by
  have hcomma : ∀ c : Char, isBlank c = true → c ≠ ',' := by
    rintro c hc rfl
    exact absurd hc (by decide)
  have hnil : entry.toList ≠ [] ↔ entry ≠ "" := String.toList_eq_nil_iff.not
  constructor
  · intro hentry
    simp only [listEntries, List.mem_map, List.mem_filter] at hentry
    obtain ⟨core, ⟨⟨part, hpart, rfl⟩, hne⟩, rfl⟩ := hentry
    have hne : trimChars part ≠ [] := by simpa using hne
    obtain ⟨hwhole, before, after, htext, hbefore, hafter⟩ := mem_splitAll_iff.1 hpart
    obtain ⟨htrimmed, front, back, hsplit, hfront, hback⟩ := (trimChars_eq_iff hne).1 rfl
    refine ⟨hnil.1 (by simpa using hne), fun hc => hwhole ?_, by simpa using htrimmed,
      before, front, back, after, ?_, hbefore, hafter, hfront, hback⟩
    · rw [hsplit]
      rw [String.toList_ofList] at hc
      simp [hc]
    · have hplace := congrArg (fun p => before ++ p ++ after) hsplit
      simpa [htext] using hplace
  · rintro ⟨hne, hwhole, htrimmed, before, front, back, after, htext, hbefore, hafter, hfront,
      hback⟩
    have hne := hnil.2 hne
    have hpart : front ++ entry.toList ++ back ∈ splitAll ',' text.toList := by
      refine mem_splitAll_iff.2 ⟨fun hc => ?_, before, after, by simp [htext], hbefore, hafter⟩
      rcases List.mem_append.1 hc with hc | hc
      · rcases List.mem_append.1 hc with hc | hc
        · exact hcomma _ (hfront _ hc) rfl
        · exact hwhole hc
      · exact hcomma _ (hback _ hc) rfl
    have htrim : trimChars (front ++ entry.toList ++ back) = entry.toList :=
      (trimChars_eq_iff hne).2 ⟨htrimmed, front, back, rfl, hfront, hback⟩
    simp only [listEntries, List.mem_map, List.mem_filter]
    exact ⟨entry.toList, ⟨⟨_, hpart, htrim⟩, by simpa using hne⟩, String.ofList_toList⟩

end Rendezvous
