import Mathlib.Data.List.Induction
import Rendezvous.Proofs.Settings.Environment
import Rendezvous.Proofs.Store.Annals
import Rendezvous.Proofs.Text.Entries
import Rendezvous.Proofs.Text.Numeral

/-!
# Lists of development tokens

The environment lists bearer tokens in one text: entries between commas, and in each of them a token
and the number of its user around the last colon. What an entry grants can be said without the
reader (`IsGrant`), and a list is read exactly if every entry of it grants something
(`exists_readAccessTokens_iff`).

A token may be listed more than once. The grants are put into the tables in the order of the list,
and each takes the place of an earlier one for the same token. So a user goes by a token exactly if
the last entry for it says so (`bearer?_granted_iff`, `isLast_read_iff`), and since nothing that is
asked of the tables changes this (`accessTokens_answer`), it stays so.
-/

namespace Rendezvous

/-! ### The last of a list -/

section Last

variable {α β : Type} {P : α → Prop} {l : List α} {a b : α}

/-- **The last of a list that is such**: nothing behind it is. -/
def IsLast (P : α → Prop) (l : List α) (a : α) : Prop :=
  ∃ before after, l = before ++ a :: after ∧ P a ∧ ∀ b ∈ after, ¬P b

theorem not_isLast_nil : ¬IsLast P [] a := by
  rintro ⟨before, after, h, -⟩
  exact absurd h (by simp)

/-- The last one is the one that was put behind the others, or was the last one before. -/
theorem isLast_concat : IsLast P (l ++ [b]) a ↔ (P b ∧ a = b) ∨ (¬P b ∧ IsLast P l a) := by
  constructor
  · rintro ⟨before, after, h, ha, hafter⟩
    rcases List.eq_nil_or_concat after with rfl | ⟨after, last, rfl⟩
    · obtain ⟨-, hb⟩ := List.append_inj' h rfl
      obtain rfl : b = a := by simpa using hb
      exact Or.inl ⟨ha, rfl⟩
    · have h' : l ++ [b] = (before ++ a :: after) ++ [last] := by simpa using h
      obtain ⟨rfl, hb⟩ := List.append_inj' h' rfl
      obtain rfl : b = last := by simpa using hb
      exact Or.inr ⟨hafter b (by simp), before, after, rfl, ha, fun c hc => hafter c (by simp [hc])⟩
  · rintro (⟨hb, rfl⟩ | ⟨hb, before, after, rfl, ha, hafter⟩)
    · exact ⟨l, [], rfl, hb, by simp⟩
    · refine ⟨before, after ++ [b], by simp, ha, fun c hc => ?_⟩
      rcases List.mem_append.1 hc with hc | hc
      · exact hafter c hc
      · rwa [List.mem_singleton.1 hc]

/-- What is last of a list of images is the image of what is last. -/
theorem isLast_map_iff {f : α → β} {Q : β → Prop} {c : β} :
    IsLast Q (l.map f) c ↔ ∃ a, IsLast (fun a => Q (f a)) l a ∧ f a = c := by
  constructor
  · rintro ⟨before, after, h, hc, hafter⟩
    obtain ⟨front, rest, rfl, rfl, hrest⟩ := List.map_eq_append_iff.1 h
    obtain ⟨a, back, rfl, rfl, rfl⟩ := List.map_eq_cons_iff.1 hrest
    exact ⟨a, ⟨front, back, rfl, hc, fun b hb => hafter (f b) (List.mem_map_of_mem hb)⟩, rfl⟩
  · rintro ⟨a, ⟨before, after, rfl, ha, hafter⟩, rfl⟩
    refine ⟨before.map f, after.map f, by simp, ha, fun c hc => ?_⟩
    obtain ⟨b, hb, rfl⟩ := List.mem_map.1 hc
    exact hafter b hb

end Last

/-! ### The last separator -/

section Separator

variable {α : Type} [BEq α] [LawfulBEq α] {sep : α} {l front back : List α}

theorem splitLast_eq_none_iff : splitLast sep l = none ↔ sep ∉ l := by
  induction l with
  | nil => simp [splitLast]
  | cons a l ih =>
    rw [splitLast]
    cases hl : splitLast sep l with
    | some parts => simpa [hl] using fun _ => ih.not.1 (by simp [hl])
    | none =>
      have hmem : sep ∉ l := ih.1 hl
      by_cases ha : a = sep
      · simp [ha]
      · simp [ha, hmem, Ne.symm ha]

theorem splitLast_append (hback : sep ∉ back) :
    splitLast sep (front ++ sep :: back) = some (front, back) := by
  induction front with
  | nil => simp [splitLast, splitLast_eq_none_iff.2 hback]
  | cons a front ih => simp [splitLast, ih]

/-- **Cutting at the last separator** gives what stands before it and behind it. -/
theorem splitLast_eq_some_iff :
    splitLast sep l = some (front, back) ↔ l = front ++ sep :: back ∧ sep ∉ back := by
  constructor
  · intro h
    have hmem : sep ∈ l.reverse := by
      by_contra hno
      rw [List.mem_reverse] at hno
      exact absurd (h.symm.trans (splitLast_eq_none_iff.2 hno)) (by simp)
    -- the last separator is the first one from behind
    obtain ⟨behind, before, hl, hbehind⟩ := List.eq_append_cons_of_mem hmem
    have hl : l = before.reverse ++ sep :: behind.reverse := by
      simpa using congrArg List.reverse hl
    rw [hl, splitLast_append (by simpa using hbehind)] at h
    obtain ⟨rfl, rfl⟩ : before.reverse = front ∧ behind.reverse = back := by simpa using h
    exact ⟨hl, by simpa using hbehind⟩
  · rintro ⟨rfl, hback⟩
    exact splitLast_append hback

end Separator

/-! ### Reading a list -/

section Reading

variable {env : Environment} {settings : Settings} {text entry token : String} {user : UserId}
  {tokens : List (String × UserId)}

/-- **An entry grants a token to a user**: the token is what stands before the last colon and the
number of the user what stands behind it, both without the blanks around them. -/
def IsGrant (entry token : String) (user : UserId) : Prop :=
  ∃ front back, entry.toList = front ++ ':' :: back ∧ ':' ∉ back ∧
    token = String.ofList (trimChars front) ∧
    Numeral.Writes (String.ofList (trimChars back)) user.toInt

/-- What an entry grants when it is cut at its last colon. -/
theorem isGrant_iff_of_split {front back : List Char}
    (hcut : splitLast ':' entry.toList = some (front, back)) : IsGrant entry token user ↔
      token = String.ofList (trimChars front) ∧
        Numeral.readInt64 (String.ofList (trimChars back)) = some user := by
  rw [Numeral.readInt64_eq_some_iff]
  constructor
  · rintro ⟨front', back', he, hback, htoken, huser⟩
    obtain ⟨rfl, rfl⟩ : front = front' ∧ back = back' := by
      simpa using hcut.symm.trans (splitLast_eq_some_iff.2 ⟨he, hback⟩)
    exact ⟨htoken, huser⟩
  · rintro ⟨htoken, huser⟩
    obtain ⟨he, hback⟩ := splitLast_eq_some_iff.1 hcut
    exact ⟨front, back, he, hback, htoken, huser⟩

/-- **An entry is read** as what it grants. -/
theorem accessToken_eq_ok_iff :
    Settings.accessToken entry = .ok (token, user) ↔ IsGrant entry token user := by
  unfold Settings.accessToken
  cases hcut : splitLast ':' entry.toList with
  | none =>
    have hno := splitLast_eq_none_iff.1 hcut
    refine iff_of_false (by simp) ?_
    rintro ⟨front, back, he, -⟩
    exact hno (he ▸ by simp)
  | some parts =>
    obtain ⟨front, back⟩ := parts
    rw [isGrant_iff_of_split hcut]
    dsimp only
    cases Numeral.readInt64 (String.ofList (trimChars back)) with
    | none => simp
    | some id => simp [eq_comm]

/-- Things that are read one by one, all of them or none. -/
theorem mapM_eq_ok_iff {α β ε : Type} {f : α → Except ε β} {as : List α} {bs : List β} :
    as.mapM f = .ok bs ↔ as.map f = bs.map .ok := by
  induction as generalizing bs with
  | nil => simp [pure, Except.pure, eq_comm]
  | cons a as ih =>
    rw [List.mapM_cons, List.map_cons]
    constructor
    · intro h
      cases ha : f a with
      | error e => exact absurd h (by simp [ha, bind, Except.bind])
      | ok b =>
        cases has : as.mapM f with
        | error e => exact absurd h (by simp [ha, has, bind, Except.bind])
        | ok bs' =>
          have hbs : b :: bs' = bs := by
            simpa [ha, has, bind, Except.bind, pure, Except.pure] using h
          rw [← hbs, List.map_cons, ih.1 has]
    · intro h
      obtain ⟨b, bs', rfl, ha, has⟩ := List.map_eq_cons_iff.1 h.symm
      rw [← ha, ih.2 has.symm]
      rfl

/-- They are all read if each of them is. -/
theorem exists_mapM_eq_ok_iff {α β ε : Type} {f : α → Except ε β} {as : List α} :
    (∃ bs, as.mapM f = .ok bs) ↔ ∀ a ∈ as, ∃ b, f a = .ok b := by
  simp only [mapM_eq_ok_iff]
  constructor
  · rintro ⟨bs, hbs⟩ a ha
    obtain ⟨b, -, hb⟩ := List.mem_map.1 (hbs ▸ List.mem_map_of_mem (f := f) ha)
    exact ⟨b, hb.symm⟩
  · intro h
    induction as with
    | nil => exact ⟨[], rfl⟩
    | cons a as ih =>
      obtain ⟨b, hb⟩ := h a List.mem_cons_self
      obtain ⟨bs, hbs⟩ := ih fun a' ha' => h a' (List.mem_cons_of_mem _ ha')
      exact ⟨b :: bs, by simp [hb, hbs]⟩

/-- **A list is read if every entry of it is a grant.** -/
theorem exists_readAccessTokens_iff : (∃ tokens, Settings.readAccessTokens text = .ok tokens) ↔
    ∀ entry, IsEntry text entry → ∃ token user, IsGrant entry token user := by
  unfold Settings.readAccessTokens
  rw [exists_mapM_eq_ok_iff]
  simp only [mem_listEntries_iff, Prod.exists, accessToken_eq_ok_iff]

/-- **The last entry of a list for a token** grants it to this user. -/
def IsListedFor (text token : String) (user : UserId) : Prop :=
  ∃ entry, IsLast (fun entry => ∃ anybody, IsGrant entry token anybody) (listEntries text) entry ∧
    IsGrant entry token user

/-- **What was read of a list grants a token last** as the list does. -/
theorem isLast_read_iff (h : Settings.readAccessTokens text = .ok tokens) :
    IsLast (fun grant => grant.1 = token) tokens (token, user) ↔ IsListedFor text token user := by
  have hread : (listEntries text).map Settings.accessToken = tokens.map .ok := mapM_eq_ok_iff.1 h
  -- both sides say which of the things that were read is the last grant of the token
  have htokens : IsLast (fun grant => grant.1 = token) tokens (token, user) ↔
      IsLast (fun read => ∃ anybody, read = .ok (token, anybody))
        (tokens.map (Except.ok : _ → Except SettingsError _)) (.ok (token, user)) := by
    have hfor : (fun grant : String × UserId => ∃ anybody, grant = (token, anybody)) =
        fun grant => grant.1 = token := by
      funext ⟨token', user'⟩
      simp
    simp [isLast_map_iff, hfor]
  rw [htokens, ← hread, isLast_map_iff]
  simp only [accessToken_eq_ok_iff]
  rfl

end Reading

/-! ### The table of tokens -/

section Granting

variable {tokens : List (String × UserId)} {token : String} {user : UserId}

/-- The tables when these tokens were granted, one after the other. -/
def granted (tokens : List (String × UserId)) : Records :=
  tokens.foldl (fun t (token, user) => t.grant token user) .empty

/-- **Of two grants of one token the last one stays.** -/
theorem bearer?_granted_iff : (granted tokens).bearer? token = some user ↔
    IsLast (fun grant => grant.1 = token) tokens (token, user) := by
  induction tokens using List.reverseRecOn with
  | nil => exact iff_of_false (by simp [granted, Records.bearer?, Records.empty]) not_isLast_nil
  | append_singleton tokens grant ih =>
    have hgrant : granted (tokens ++ [grant]) = (granted tokens).grant grant.1 grant.2 := by
      simp [granted]
    rw [isLast_concat, ← ih, hgrant, Records.bearer?, Records.grant, Table.get?_insert]
    by_cases htoken : token = grant.1
    · subst htoken
      simp [Prod.ext_iff, eq_comm]
    · simp [htoken, Ne.symm htoken, Records.bearer?]

/-- Nothing that is asked of the tables changes who goes by a token. -/
theorem accessTokens_answer (t : Records) (now : Timestamp) (r : StoreRequest) :
    (t.answer now r).2.accessTokens = t.accessTokens := by
  have heffect := t.answer_effect now r
  generalize t.answer now r = after at heffect ⊢
  cases heffect with
  | marked hquiet chat p =>
    obtain ⟨logs, he, -⟩ := t.markWhere_eq chat p
    show (t.markWhere chat p).2.accessTokens = t.accessTokens
    rw [he]
  | _ => rfl

end Granting

end Rendezvous
