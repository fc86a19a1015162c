import Mathlib.Data.List.Perm.Basic
import Rendezvous.Json.Tagged
import Rendezvous.Proofs.Json.Grammar

/-!
# Texts of objects

A text of an object says which members it has, in their order, and nothing else about it matters:
no two lists of members have a text in common (`Json.ObjectText.unique`), and what is read as a
record is a text of its members (`Json.parse_eq_ok_iff`).

A tagged record is read from such a text too. It is read if the tag is there once, as a string; it
is this string, with the other members (`Json.ObjectText.parseTagged_iff`). What is asked about the
members is which value is the only one under a key, and this stays the same when members change
their places and others come in between (`Json.onlyValue?_of_perm`).
-/

namespace Rendezvous.Json

variable {accept : String → Bool} {fuel : Nat} {s r inside t : Bytes} {first : Bool}
  {name w : String} {v : Value} {ms ms' more held : List (String × Value)}
  {tag tag' : Option String}

/-! ### Objects -/

/-- **The text of an object**: its members in braces, with space around. -/
def ObjectText (s : Bytes) (ms : List (String × Value)) : Prop :=
  ∃ a t b, IsGap a ∧ IsGap b ∧ RecordText (ValueText (nestingLimit - 1)) t ms ∧ s = a ++ (t ++ b)

theorem isEmpty_skipSpace_iff : (skipSpace s).isEmpty = true ↔ IsGap s := by
  rw [List.isEmpty_iff]
  exact List.dropWhile_eq_nil_iff

/-- **A text is over** when nothing but space is left. -/
theorem finish_eq_ok_iff {α : Type} {scan : Scan α} {x : α} :
    finish scan = .ok x ↔ ∃ b, IsGap b ∧ scan = .ok (x, b) := by
  cases scan with
  | error f => exact ⟨nofun, nofun⟩
  | ok result =>
    obtain ⟨y, b⟩ := result
    rw [finish]
    constructor
    · intro h
      split at h
      · next hb => exact ⟨b, isEmpty_skipSpace_iff.1 hb, by rw [Except.ok.inj h]⟩
      · exact absurd h nofun
    · rintro ⟨b', hb, h⟩
      obtain ⟨rfl, rfl⟩ := Prod.mk.inj (Except.ok.inj h)
      rw [if_pos (isEmpty_skipSpace_iff.2 hb)]

/-- Space ends a number. -/
theorem IsGap.ends (h : IsGap s) : Ends s := by
  simpa using Ends.gap h (r := []) nofun

theorem nestingLimit_eq : nestingLimit = nestingLimit - 1 + 1 := rfl

theorem recordText_of_valueText (h : ValueText nestingLimit t (.record ms)) :
    RecordText (ValueText (nestingLimit - 1)) t ms := by
  rw [nestingLimit_eq] at h
  rcases h with h | ⟨items, heq, -⟩ | ⟨ms', heq, h⟩
  · exact absurd h nofun
  · exact absurd heq nofun
  · exact Value.record.inj heq ▸ h

/-- **The texts of objects are what is read as a record.** -/
theorem parse_eq_ok_iff : parse s = .ok (.record ms) ↔ ObjectText s ms := by
  rw [parse, finish_eq_ok_iff]
  constructor
  · rintro ⟨b, hb, h⟩
    obtain ⟨a, t, ha, ht, rfl⟩ := exists_of_valueFrom nestingLimit h
    exact ⟨a, t, b, ha, hb, recordText_of_valueText ht, rfl⟩
  · rintro ⟨a, t, b, ha, hb, ht, rfl⟩
    refine ⟨b, hb, ?_⟩
    have htext : ValueText (nestingLimit - 1 + 1) t (.record ms) := Or.inr (Or.inr ⟨ms, rfl, ht⟩)
    have hread : ReadsAs nestingLimit t (.record ms) := htext.readsAs
    rw [value, valueFrom_gap ha]
    refine hread.read _ b ?_ hb.ends
    simp only [turns, List.length_append]
    omega

/-- **A text is the text of one object only.** -/
theorem ObjectText.unique (h : ObjectText s ms) (h' : ObjectText s ms') : ms = ms' :=
  Value.record.inj (Except.ok.inj ((parse_eq_ok_iff.2 h).symm.trans (parse_eq_ok_iff.2 h')))

/-! ### The only value under a key -/

theorem onlyValue?_eq_some_iff :
    onlyValue? name ms = some v ↔ ms.filter (·.1 == name) = [(name, v)] := by
  unfold onlyValue?
  split
  · next k u h =>
    have hk : k = name := by
      have hmem : (k, u) ∈ ms.filter (·.1 == name) := by simp [h]
      simpa using (List.mem_filter.1 hmem).2
    simp [h, hk]
  · next hother =>
    constructor
    · exact nofun
    · intro h
      exact absurd h (hother name v)

/-- **Places and other members do not matter** for the only value under a key. -/
theorem onlyValue?_of_perm (h : onlyValue? name ms = some v) (hmore : ∀ m ∈ more, m.1 ≠ name)
    (hperm : ms'.Perm (ms ++ more)) : onlyValue? name ms' = some v := by
  rw [onlyValue?_eq_some_iff] at h ⊢
  have hnone : more.filter (·.1 == name) = [] := by
    simpa [List.filter_eq_nil_iff] using hmore
  have hfilter := hperm.filter (·.1 == name)
  rw [List.filter_append, h, hnone, List.append_nil] at hfilter
  exact List.perm_singleton.1 hfilter

/-- The members without the tag. -/
def untagged (ms : List (String × Value)) : List (String × Value) :=
  ms.filter (·.1 != tagKey)

theorem onlyValue?_untagged (hname : name ≠ tagKey) (ms : List (String × Value)) :
    onlyValue? name (untagged ms) = onlyValue? name ms := by
  have hfilter : (untagged ms).filter (·.1 == name) = ms.filter (·.1 == name) := by
    rw [untagged, List.filter_filter]
    refine List.filter_congr fun m _ => ?_
    by_cases hm : m.1 = name
    · simp [hm, hname]
    · simp [hm]
  unfold onlyValue?
  rw [hfilter]

/-! ### Tags -/

/-- **Members bring a tag**, if there is none yet: each under the key of the tag is a string, and
all of them are the tag, so there is one at most. -/
def Tags (tag : Option String) (ms : List (String × Value)) (tag' : Option String) : Prop :=
  ∃ ws : List String, (ms.filter (·.1 == tagKey)).map (·.2) = ws.map Value.text ∧
    tag'.toList = tag.toList ++ ws

theorem tags_nil_iff : Tags tag [] tag' ↔ tag' = tag := by
  constructor
  · rintro ⟨ws, hws, htag⟩
    obtain rfl : ws = [] := by simpa using hws
    rw [List.append_nil] at htag
    cases tag' with
    | none => exact (Option.toList_eq_nil_iff.1 htag.symm).symm
    | some w => exact (Option.toList_eq_singleton_iff.1 htag.symm).symm
  · rintro rfl
    exact ⟨[], rfl, (List.append_nil _).symm⟩

/-- A tag stays. -/
theorem Tags.eq_some (h : Tags (some w) ms tag') : tag' = some w := by
  obtain ⟨ws, -, htag⟩ := h
  cases tag' with
  | none => exact absurd htag nofun
  | some w' => exact congrArg some (List.cons.inj htag).1

/-- The first member is the tag. -/
theorem tags_cons_tag :
    Tags tag ((tagKey, v) :: ms) tag' ↔ ∃ w, tag = none ∧ v = .text w ∧ Tags (some w) ms tag' := by
  constructor
  · rintro ⟨ws, hws, htag⟩
    cases ws with
    | nil => exact absurd hws (by simp)
    | cons w ws =>
      simp only [List.filter_cons, beq_self_eq_true, if_true, List.map_cons, List.cons.injEq] at hws
      cases tag with
      | none => exact ⟨w, rfl, hws.1, ws, hws.2, htag⟩
      | some w' => cases tag' <;> exact absurd htag (by simp)
  · rintro ⟨w, rfl, rfl, ws, hws, htag⟩
    exact ⟨w :: ws, by simp [hws], htag⟩

/-- It is another one. -/
theorem tags_cons_other (hname : name ≠ tagKey) :
    Tags tag ((name, v) :: ms) tag' ↔ Tags tag ms tag' := by
  simp [Tags, hname]

theorem tags_none_iff : Tags none ms (some w) ↔ onlyValue? tagKey ms = some (.text w) := by
  rw [onlyValue?_eq_some_iff]
  constructor
  · rintro ⟨ws, hws, htag⟩
    obtain rfl : [w] = ws := htag
    obtain ⟨m, hm, hmap⟩ := List.map_eq_singleton_iff.1 hws
    have hkey : m ∈ ms.filter (·.1 == tagKey) := by simp [hm]
    rw [hm, ← hmap, ← (by simpa using (List.mem_filter.1 hkey).2 : m.1 = tagKey)]
  · intro h
    exact ⟨[w], by simp [h], rfl⟩

/-! ### The tag is read -/

theorem readTag_eq_ok_iff : readTag accept s = .ok (w, r) ↔
    accept w = true ∧ ∃ a t, IsGap a ∧ StringText t w ∧ s = a ++ (t ++ r) := by
  unfold readTag readText
  constructor
  · intro h
    split at h
    · contradiction
    next w' r' htext =>
    split at htext
    · contradiction
    next b s' hskip =>
    obtain ⟨a, ha, rfl, -⟩ := skipSpace_eq_cons_iff.1 hskip
    split at htext
    · next hb =>
      obtain ⟨t, ht, hs⟩ := string_eq_ok_iff.1 htext
      split at h
      · next haccept =>
        obtain ⟨rfl, rfl⟩ := Prod.mk.inj (Except.ok.inj h)
        exact ⟨haccept, a, t, ha, ht, by rw [hb, hs]⟩
      · contradiction
    · contradiction
  · rintro ⟨haccept, a, t, ha, ht, rfl⟩
    obtain ⟨inner, bytes, rfl, -⟩ := id ht
    have hstring : string (inner ++ [0x22] ++ r) = .ok (w, r) := string_eq_ok_iff.2 ⟨_, ht, rfl⟩
    rw [skipSpace_gap ha, List.cons_append, skipSpace_cons (by decide)]
    simp only [if_true, hstring, haccept]

theorem ValueText.stringText {depth : Nat} (h : ValueText depth t (.text w)) : StringText t w := by
  have hscalar : ScalarText t (.text w) := by
    cases depth with
    | zero => exact h
    | succ depth =>
      rcases h with h | ⟨_, heq, -⟩ | ⟨_, heq, -⟩
      · exact h
      · exact absurd heq nofun
      · exact absurd heq nofun
  cases hscalar with
  | text h => exact h

theorem StringText.valueText (h : StringText t w) (depth : Nat) : ValueText depth t (.text w) :=
  (ScalarText.text h).valueText depth

/-- **The members of a tagged record are read** up to its end, and the tag among them. -/
theorem taggedMembers_parts
    (h : Parts (MemberText (ValueText (nestingLimit - 1))) first inside ms)
    (htags : Tags tag ms tag') (haccept : ∀ w ∈ tag', accept w = true) (hfuel : inside.length + 1 ≤ fuel) (r : Bytes) :
    taggedMembers accept fuel first tag (inside ++ 0x7D :: r) =
      .ok ((tag', untagged ms), 0x7D :: r) := by
  induction h generalizing fuel tag with
  | none hd =>
    obtain ⟨n, rfl⟩ : ∃ n, fuel = n + 1 := ⟨fuel - 1, by omega⟩
    obtain rfl := tags_nil_iff.1 htags
    rw [taggedMembers, nextKey_close hd]
    rfl
  | @one first s t rest m ms hopens hm hrest ih =>
    obtain ⟨name, v⟩ := m
    have hlen := hopens.length_le
    have hmember := hopens.append (0x7D :: r)
    rw [List.append_assoc] at hmember
    obtain ⟨s₁, s₂, c, t', hnext, hkey, hcolon, hc, hv, ht⟩ := hmember.member hm
    simp only [List.length_append] at hlen
    obtain ⟨n, rfl⟩ : ∃ n, fuel = n + 1 := ⟨fuel - 1, by omega⟩
    rw [taggedMembers, hnext]
    dsimp only [bind, Except.bind]
    rw [hkey]
    dsimp only
    by_cases hname : name = tagKey
    · subst hname
      -- there was no tag yet, and this one stays
      obtain ⟨w, rfl, rfl, hrests⟩ := tags_cons_tag.1 htags
      have hw : accept w = true := haccept w hrests.eq_some
      rw [if_pos rfl, if_neg (by simp), hcolon]
      dsimp only
      rw [readTag_eq_ok_iff.2 ⟨hw, c, t', hc, hv.stringText, rfl⟩]
      dsimp only
      rw [ih hrests (by omega)]
      simp [untagged]
    · have hread : value (nestingLimit - 1) (c ++ (t' ++ (rest ++ 0x7D :: r))) =
          .ok (v, rest ++ 0x7D :: r) := by
        rw [value, valueFrom_gap hc]
        refine hv.readsAs.read _ _ ?_ (hrest.ends (Or.inr rfl) r)
        simp only [turns, List.length_append]
        omega
      rw [if_neg hname, hcolon]
      dsimp only
      rw [hread]
      dsimp only
      rw [ih ((tags_cons_other hname).1 htags) (by omega)]
      simp [untagged, hname]

/-- **What is read as the members of a tagged record** are members, and the tag is among them. -/
theorem exists_of_taggedMembers
    (h : taggedMembers accept fuel first tag s = .ok ((tag', held), r)) :
    ∃ inside r' ms, r = 0x7D :: r' ∧ s = inside ++ r ∧
      Parts (MemberText (ValueText (nestingLimit - 1))) first inside ms ∧ Tags tag ms tag' ∧
      held = untagged ms ∧ ∀ w ∈ tag', accept w = true ∨ tag = some w := by
  induction fuel generalizing first s tag held with
  | zero => contradiction
  | succ fuel ih =>
    rw [taggedMembers] at h
    obtain ⟨next, hnext, hpart⟩ := bind_eq_ok_iff.1 h
    rcases exists_of_nextKey hnext with ⟨s', rfl, hopens⟩ | ⟨a, r', rfl, ha, rfl⟩
    · obtain ⟨⟨name, s₂⟩, hkey, hmember⟩ := bind_eq_ok_iff.1 hpart
      dsimp only at hmember
      split at hmember
      · next hname =>
        subst hname
        split at hmember
        · contradiction
        next hnone =>
        obtain ⟨s₃, hcolon, hvalue⟩ := bind_eq_ok_iff.1 hmember
        obtain ⟨⟨w, r₁⟩, hw, hothers⟩ := bind_eq_ok_iff.1 hvalue
        obtain ⟨haccept, a, t, ha, ht, rfl⟩ := readTag_eq_ok_iff.1 hw
        obtain ⟨rest, r', ms, rfl, rfl, hrest, htags, rfl, -⟩ := ih hothers
        obtain ⟨inside, text, rfl, hinside, htext⟩ :=
          exists_of_member hopens hkey hcolon ha (ht.valueText (nestingLimit - 1))
        refine ⟨inside, r', _, rfl, rfl, .one hinside htext hrest,
          tags_cons_tag.2 ⟨w, by simpa using hnone, rfl, htags⟩, by simp [untagged], ?_⟩
        -- the tag in the end is this one, which was accepted
        rintro w' hw'
        obtain rfl := Option.some.inj (htags.eq_some.symm.trans hw')
        exact Or.inl haccept
      · next hname =>
        obtain ⟨s₃, hcolon, hvalue⟩ := bind_eq_ok_iff.1 hmember
        obtain ⟨⟨v, r₁⟩, hv, hothers⟩ := bind_eq_ok_iff.1 hvalue
        obtain ⟨⟨⟨tag₁, held₁⟩, r₂⟩, hms, heq⟩ := bind_eq_ok_iff.1 hothers
        obtain ⟨hfirst, rfl⟩ := Prod.mk.inj (Except.ok.inj heq)
        obtain ⟨rfl, rfl⟩ := Prod.mk.inj hfirst
        obtain ⟨a, t, ha, ht, rfl⟩ := exists_of_valueFrom (nestingLimit - 1) hv
        obtain ⟨rest, r', ms, rfl, rfl, hrest, htags, rfl, haccept⟩ := ih hms
        obtain ⟨inside, text, rfl, hinside, htext⟩ := exists_of_member hopens hkey hcolon ha ht
        exact ⟨inside, r', _, rfl, rfl, .one hinside htext hrest,
          (tags_cons_other hname).2 htags, by simp [untagged, hname], haccept⟩
    · obtain ⟨heq, rfl⟩ := Prod.mk.inj (Except.ok.inj hpart)
      obtain ⟨rfl, rfl⟩ := Prod.mk.inj heq
      exact ⟨a, r', [], rfl, rfl, .none ha, tags_nil_iff.2 rfl, rfl, fun w hw => Or.inr hw⟩

/-! ### Tagged records -/

/-- **What is read as a tagged record from a text that begins an object** is the text of an object,
with the tag among its members. -/
theorem exists_of_parseTagged {payload : Payload} (hbrace : skipSpace s = 0x7B :: r)
    (h : parseTagged accept s = .ok (w, payload)) :
    ∃ ms, ObjectText s ms ∧ accept w = true ∧ onlyValue? tagKey ms = some (.text w) ∧
      payload = .record (untagged ms) := by
  obtain ⟨b, hb, hread⟩ := finish_eq_ok_iff.1 h
  unfold readTagged at hread
  rw [hbrace] at hread
  dsimp only at hread
  rw [if_neg (by decide), if_pos rfl] at hread
  obtain ⟨⟨⟨tag, held⟩, r₁⟩, hmembers, hread⟩ := bind_eq_ok_iff.1 hread
  obtain ⟨inside, r', ms, rfl, rfl, hinside, htags, rfl, haccept⟩ :=
    exists_of_taggedMembers hmembers
  cases tag with
  | none => exact absurd hread nofun
  | some w' =>
    obtain ⟨r₂, hend, hread⟩ := bind_eq_ok_iff.1 hread
    obtain ⟨heq, rfl⟩ := Prod.mk.inj (Except.ok.inj hread)
    obtain ⟨rfl, rfl⟩ := Prod.mk.inj heq
    obtain rfl := Except.ok.inj ((endRecord_cons r').symm.trans hend)
    obtain ⟨a, ha, rfl, -⟩ := skipSpace_eq_cons_iff.1 hbrace
    have hw : accept w' = true := (haccept w' rfl).resolve_right nofun
    exact ⟨ms, ⟨a, _, r', ha, hb, ⟨inside, rfl, hinside⟩, by simp⟩, hw, tags_none_iff.1 htags, rfl⟩

/-- A text of an object begins with its brace. -/
theorem ObjectText.exists_brace (h : ObjectText s ms) : ∃ r, skipSpace s = 0x7B :: r := by
  obtain ⟨a, t, b, ha, -, ⟨inside, rfl, -⟩, rfl⟩ := h
  exact ⟨_, by rw [skipSpace_gap ha, List.cons_append, skipSpace_cons (by decide)]⟩

/-- **A tagged record is read from a text of an object** just if the tag is there once and is
accepted; the other members are what it holds. -/
theorem ObjectText.parseTagged_iff {payload : Payload} (h : ObjectText s ms) :
    parseTagged accept s = .ok (w, payload) ↔
      accept w = true ∧ onlyValue? tagKey ms = some (.text w) ∧
        payload = .record (untagged ms) := by
  constructor
  · intro hread
    obtain ⟨r, hbrace⟩ := h.exists_brace
    obtain ⟨ms', h', hrest⟩ := exists_of_parseTagged hbrace hread
    obtain rfl := h.unique h'
    exact hrest
  · rintro ⟨haccept, htag, rfl⟩
    obtain ⟨a, t, b, ha, hb, ⟨inside, rfl, hinside⟩, rfl⟩ := h
    refine finish_eq_ok_iff.2 ⟨b, hb, ?_⟩
    have hbytes : a ++ (0x7B :: (inside ++ [0x7D]) ++ b) = a ++ 0x7B :: (inside ++ 0x7D :: b) := by
      simp
    have hturns : inside.length + 1 ≤ turns (inside ++ 0x7D :: b) := by
      simp only [turns, List.length_append]
      omega
    have haccepts : ∀ w' ∈ some w, accept w' = true := by
      rintro _ ⟨⟩
      exact haccept
    have hmembers := taggedMembers_parts hinside (tags_none_iff.2 htag) haccepts hturns b
    rw [hbytes, readTagged, skipSpace_gap ha, skipSpace_cons (by decide)]
    dsimp only
    rw [if_neg (by decide), if_pos rfl, hmembers]
    dsimp only [bind, Except.bind]
    rw [endRecord_cons]

end Rendezvous.Json
