import Rendezvous.Json.Value
import Rendezvous.Proofs.Json.Lexemes

/-!
# The grammar of JSON

The texts of values are said apart from their reader. A list and a record are brackets around parts
that are separated by commas (`Json.Parts`): items, or members with a key each. Space may stand
around every part, and around the colon of a member. How deep brackets may still be nested is part
of what is said (`Json.ValueText`), and the induction is on this depth.

The reader reads just these texts: every text of a value is read as the value, whatever ends it
(`Json.ValueText.readsAs`), and what is read as a value is a text of it
(`Json.exists_of_valueFrom`).
-/

namespace Rendezvous.Json

variable {α β : Type} {Body Body' : Bytes → α → Prop} {depth fuel : Nat}
  {a s s' r t text inside : Bytes} {first : Bool} {v : Value}

/-! ### What may be written -/

/-- **A part begins**, behind space if it is the first one, and else behind its comma. -/
def Opens (first : Bool) (s s' : Bytes) : Prop :=
  ∃ d a, IsGap d ∧ IsGap a ∧ s = if first then d ++ s' else d ++ 0x2C :: (a ++ s')

/-- **Parts that are separated by commas**, from the first one on or from behind another one. Space
may stand around each. -/
inductive Parts (Body : Bytes → α → Prop) : Bool → Bytes → List α → Prop where
  /-- No part comes. -/
  | none {first : Bool} {d : Bytes} (hd : IsGap d) : Parts Body first d []
  /-- A part comes, and others behind it. -/
  | one {first : Bool} {s t rest : Bytes} {p : α} {ps : List α} (hopens : Opens first s (t ++ rest))
      (hbody : Body t p) (hrest : Parts Body false rest ps) : Parts Body first s (p :: ps)

/-- **A member of a record**: a key, a colon and a value. -/
def MemberText (Written : Bytes → β → Prop) (text : Bytes) (member : String × β) : Prop :=
  ∃ k b c t, StringText k member.1 ∧ IsGap b ∧ IsGap c ∧ Written t member.2 ∧
    text = k ++ (b ++ 0x3A :: (c ++ t))

/-- **A list**: items in square brackets. -/
def ListText (Written : Bytes → Value → Prop) (text : Bytes) (items : List Value) : Prop :=
  ∃ inside, text = 0x5B :: (inside ++ [0x5D]) ∧ Parts Written true inside items

/-- **A record**: members in braces. -/
def RecordText (Written : Bytes → Value → Prop) (text : Bytes)
    (members : List (String × Value)) : Prop :=
  ∃ inside, text = 0x7B :: (inside ++ [0x7D]) ∧ Parts (MemberText Written) true inside members

/-- **The text of a value without brackets.** -/
inductive ScalarText : Bytes → Value → Prop where
  /-- The absent value. -/
  | null : ScalarText (0x6E :: afterN) .null
  /-- Yes. -/
  | yes : ScalarText (0x74 :: afterT) (.bool true)
  /-- No. -/
  | no : ScalarText (0x66 :: afterF) (.bool false)
  /-- A number without a sign. -/
  | number {t : Bytes} {n : Option Int64} (h : NumberText false t n) : ScalarText t (.number n)
  /-- A number with a minus sign. -/
  | negative {t : Bytes} {n : Option Int64} (h : NumberText true t n) :
      ScalarText (0x2D :: t) (.number n)
  /-- A string. -/
  | text {t : Bytes} {x : String} (h : StringText t x) : ScalarText t (.text x)

/-- **The text of a value** with brackets nested so deep at most. -/
def ValueText : Nat → Bytes → Value → Prop
  | 0, t, v => ScalarText t v
  | depth + 1, t, v => ScalarText t v ∨
    (∃ items, v = .list items ∧ ListText (ValueText depth) t items) ∨
    ∃ members, v = .record members ∧ RecordText (ValueText depth) t members

/-! ### Brackets -/

theorem opens_true (h : IsGap a) (s' : Bytes) : Opens true (a ++ s') s' :=
  ⟨a, [], h, isGap_nil, rfl⟩

theorem opens_false {d : Bytes} (hd : IsGap d) (ha : IsGap a) (s' : Bytes) :
    Opens false (d ++ 0x2C :: (a ++ s')) s' :=
  ⟨d, a, hd, ha, rfl⟩

/-- The first byte of a part that begins, looked for behind space. -/
theorem Opens.skipSpace {b : UInt8} (h : Opens first s (b :: r)) (hb : isSpace b = false) :
    if first then skipSpace s = b :: r
    else ∃ s₁, skipSpace s = 0x2C :: s₁ ∧ Json.skipSpace s₁ = b :: r := by
  obtain ⟨d, a, hd, ha, rfl⟩ := h
  cases first with
  | true =>
    simp only [if_true]
    rw [skipSpace_gap hd, skipSpace_cons hb]
  | false =>
    simp only [Bool.false_eq_true, if_false]
    refine ⟨a ++ b :: r, ?_, ?_⟩
    · rw [skipSpace_gap hd, skipSpace_cons (by decide)]
    · rw [skipSpace_gap ha, skipSpace_cons hb]

/-- A part is found where it begins. -/
theorem Opens.nextItem {b : UInt8} (h : Opens first s (b :: r)) (hb : isSpace b = false)
    (hend : b ≠ 0x5D) : nextItem first s = .ok (.member (b :: r)) := by
  have hskip := h.skipSpace hb
  cases first with
  | true =>
    simp only [if_true] at hskip
    rw [Json.nextItem, hskip]
    simp [hend]
  | false =>
    simp only [Bool.false_eq_true, if_false] at hskip
    obtain ⟨s₁, hcomma, hskip⟩ := hskip
    rw [Json.nextItem, hcomma]
    simp [hskip, hend]

theorem Opens.nextKey (h : Opens first s (0x22 :: r)) :
    nextKey first s = .ok (.member (0x22 :: r)) := by
  have hskip := h.skipSpace (by decide)
  cases first with
  | true =>
    simp only [if_true] at hskip
    rw [Json.nextKey, hskip]
    rfl
  | false =>
    simp only [Bool.false_eq_true, if_false] at hskip
    obtain ⟨s₁, hcomma, hskip⟩ := hskip
    rw [Json.nextKey, hcomma]
    simp [hskip]

theorem nextItem_close (ha : IsGap a) (r : Bytes) :
    nextItem first (a ++ 0x5D :: r) = .ok (.close (0x5D :: r)) := by
  rw [nextItem, skipSpace_gap ha, skipSpace_cons (by decide)]
  rfl

theorem nextKey_close (ha : IsGap a) (r : Bytes) :
    nextKey first (a ++ 0x7D :: r) = .ok (.close (0x7D :: r)) := by
  rw [nextKey, skipSpace_gap ha, skipSpace_cons (by decide)]
  rfl

/-- **Where a part of a list is found, it begins**; and where the end is found, it is. -/
theorem exists_of_nextItem {next : Next} (h : nextItem first s = .ok next) :
    (∃ s', next = .member s' ∧ Opens first s s') ∨
      ∃ a r, next = .close (0x5D :: r) ∧ IsGap a ∧ s = a ++ 0x5D :: r := by
  unfold nextItem at h
  split at h
  · contradiction
  · next b bytes hskip =>
    obtain ⟨d, hd, rfl, hb⟩ := skipSpace_eq_cons_iff.1 hskip
    split at h
    · next hend =>
      subst hend
      exact Or.inr ⟨d, bytes, (Except.ok.inj h).symm, hd, rfl⟩
    split at h
    · next hfirst =>
      subst hfirst
      exact Or.inl ⟨_, (Except.ok.inj h).symm, opens_true hd _⟩
    · next hfirst =>
      obtain rfl := Bool.eq_false_iff.2 hfirst
      split at h
      · next hcomma =>
        subst hcomma
        split at h
        · contradiction
        · next c rest hskip' =>
          obtain ⟨a, ha, rfl, hc⟩ := skipSpace_eq_cons_iff.1 hskip'
          split at h
          · contradiction
          · exact Or.inl ⟨_, (Except.ok.inj h).symm, opens_false hd ha _⟩
      · contradiction

/-- Where a key is found, it begins; and where the end of a record is found, it is. -/
theorem exists_of_nextKey {next : Next} (h : nextKey first s = .ok next) :
    (∃ s', next = .member s' ∧ Opens first s s') ∨
      ∃ a r, next = .close (0x7D :: r) ∧ IsGap a ∧ s = a ++ 0x7D :: r := by
  unfold nextKey at h
  split at h
  · contradiction
  · next b bytes hskip =>
    obtain ⟨d, hd, rfl, hb⟩ := skipSpace_eq_cons_iff.1 hskip
    split at h
    · next hend =>
      subst hend
      exact Or.inr ⟨d, bytes, (Except.ok.inj h).symm, hd, rfl⟩
    split at h
    · next hfirst =>
      subst hfirst
      split at h
      · exact Or.inl ⟨_, (Except.ok.inj h).symm, opens_true hd _⟩
      · contradiction
    · next hfirst =>
      obtain rfl := Bool.eq_false_iff.2 hfirst
      split at h
      · next hcomma =>
        subst hcomma
        split at h
        · contradiction
        · next c rest hskip' =>
          obtain ⟨a, ha, rfl, hc⟩ := skipSpace_eq_cons_iff.1 hskip'
          split at h
          · exact Or.inl ⟨_, (Except.ok.inj h).symm, opens_false hd ha _⟩
          · contradiction
      · contradiction

theorem colon_eq_ok_iff : colon s = .ok r ↔ ∃ b, IsGap b ∧ s = b ++ 0x3A :: r := by
  unfold colon
  constructor
  · intro h
    split at h
    · contradiction
    · next c bytes hskip =>
      obtain ⟨b, hb, rfl, -⟩ := skipSpace_eq_cons_iff.1 hskip
      split at h
      · next hc =>
        obtain rfl := Except.ok.inj h
        exact ⟨b, hb, hc ▸ rfl⟩
      · contradiction
  · rintro ⟨b, hb, rfl⟩
    rw [skipSpace_gap hb, skipSpace_cons (by decide)]
    rfl

/-- The closing byte of a bracket. -/
theorem endList_cons (r : Bytes) : endList (0x5D :: r) = .ok r := by
  rw [endList, skipSpace_cons (by decide)]
  rfl

theorem endRecord_cons (r : Bytes) : endRecord (0x7D :: r) = .ok r := by
  rw [endRecord, skipSpace_cons (by decide)]
  rfl

/-- Space in front of a value is passed over. -/
theorem valueFrom_gap (ha : IsGap a) (fuel depth : Nat) (s : Bytes) :
    valueFrom fuel depth (a ++ s) = valueFrom fuel depth s := by
  cases fuel with
  | zero => rfl
  | succ fuel => rw [valueFrom, valueFrom, skipSpace_gap ha]

/-- **Space ends a number**, if what comes behind it does. -/
theorem Ends.gap (ha : IsGap a) (hr : Ends r) : Ends (a ++ r) := by
  cases a with
  | nil => exact hr
  | cons b a =>
    have hb : isSpace b = true := ha b List.mem_cons_self
    rintro _ ⟨⟩
    simp only [isSpace, Bool.or_eq_true, beq_iff_eq] at hb
    rcases hb with ((rfl | rfl) | rfl) | rfl <;> decide

/-! ### Turns -/

/-- **A text is read as a value** inside brackets that leave so many levels, in the turns that its
own bytes are worth, whatever comes behind it. -/
structure ReadsAs (depth : Nat) (text : Bytes) (v : Value) : Prop where
  /-- It begins at once, and not with the end of a list. -/
  starts : ∃ b bytes, text = b :: bytes ∧ isSpace b = false ∧ b ≠ 0x5D
  /-- It is read. -/
  read : ∀ fuel r, turns text ≤ fuel → Ends r → valueFrom fuel depth (text ++ r) = .ok (v, r)

/-- There is always a turn left for the first byte. -/
theorem exists_turn (h : turns text ≤ fuel) : ∃ n, fuel = n + 1 ∧ 2 * text.length + 1 ≤ n := by
  simp only [turns] at h
  exact ⟨fuel - 1, by omega, by omega⟩

/-! ### Parts are read -/

theorem Opens.append (h : Opens first s s') (r : Bytes) : Opens first (s ++ r) (s' ++ r) := by
  obtain ⟨d, a, hd, ha, rfl⟩ := h
  refine ⟨d, a, hd, ha, ?_⟩
  cases first <;> simp

theorem Opens.length_le (h : Opens first s s') :
    s'.length + (if first then 0 else 1) ≤ s.length := by
  obtain ⟨d, a, -, -, rfl⟩ := h
  cases first
  · simp
    omega
  · simp

/-- A comma or a closing bracket ends a number. -/
theorem ends_cons {c : UInt8} (hc : c = 0x2C ∨ c = 0x5D ∨ c = 0x7D) (r : Bytes) :
    Ends (c :: r) := by
  rintro _ ⟨⟩
  rcases hc with rfl | rfl | rfl <;> decide

/-- What comes behind a part ends a number. -/
theorem Parts.ends {c : UInt8} {ps : List α} (h : Parts Body false inside ps)
    (hc : c = 0x5D ∨ c = 0x7D) (r : Bytes) : Ends (inside ++ c :: r) := by
  cases h with
  | none hd => exact Ends.gap hd (ends_cons (Or.inr hc) r)
  | one hopens =>
    obtain ⟨d, a, hd, -, rfl⟩ := hopens
    simp only [Bool.false_eq_true, if_false, List.append_assoc, List.cons_append]
    exact Ends.gap hd (ends_cons (Or.inl rfl) _)

theorem Parts.imp {ps : List α} (himp : ∀ t p, Body t p → Body' t p) (h : Parts Body first s ps) :
    Parts Body' first s ps := by
  induction h with
  | none hd => exact .none hd
  | one hopens hbody _ ih => exact .one hopens (himp _ _ hbody) ih

theorem MemberText.imp {Written Written' : Bytes → β → Prop} {member : String × β}
    (himp : ∀ t v, Written t v → Written' t v) (h : MemberText Written t member) :
    MemberText Written' t member := by
  obtain ⟨k, b, c, t, hk, hb, hc, ht, rfl⟩ := h
  exact ⟨k, b, c, t, hk, hb, hc, himp _ _ ht, rfl⟩

/-- A member that begins is found, with its key and its colon. -/
theorem Opens.member {Written : Bytes → β → Prop} {member : String × β}
    (h : Opens first s (t ++ r)) (hm : MemberText Written t member) :
    ∃ s₁ s₂ c t', Json.nextKey first s = .ok (.member s₁) ∧ key s₁ = .ok (member.1, s₂) ∧
      colon s₂ = .ok (c ++ (t' ++ r)) ∧ IsGap c ∧ Written t' member.2 ∧ t'.length < t.length := by
  obtain ⟨k, b, c, t', hk, hb, hc, ht, rfl⟩ := hm
  have hnext : Json.nextKey first s = .ok (.member (k ++ (b ++ 0x3A :: (c ++ (t' ++ r))))) := by
    obtain ⟨inner, bytes, rfl, -⟩ := id hk
    simp only [List.append_assoc, List.cons_append] at h ⊢
    exact h.nextKey
  refine ⟨_, _, c, t', hnext, key_eq_ok_iff.2 ⟨k, hk, rfl⟩, colon_eq_ok_iff.2 ⟨b, hb, rfl⟩, hc, ht,
    ?_⟩
  simp only [List.length_append, List.length_cons]
  omega

/-- **The items of a list are read** up to its end. -/
theorem itemsFrom_parts {vs : List Value} (h : Parts (ReadsAs depth) first inside vs)
    (hfuel : 2 * inside.length + 3 ≤ fuel) (r : Bytes) :
    itemsFrom fuel depth first (inside ++ 0x5D :: r) = .ok (vs, 0x5D :: r) := by
  induction h generalizing fuel with
  | none hd =>
    obtain ⟨n, rfl⟩ : ∃ n, fuel = n + 1 := ⟨fuel - 1, by omega⟩
    rw [itemsFrom, nextItem_close hd]
    rfl
  | @one first s t rest v vs hopens hv hrest ih =>
    -- two turns for each byte: the item takes its own ones, and there is one left to look for it
    obtain ⟨b, bytes, rfl, hspace, hend⟩ := hv.starts
    have hlen := hopens.length_le
    simp only [List.length_append, List.length_cons] at hlen
    obtain ⟨n, rfl⟩ : ∃ n, fuel = n + 1 := ⟨fuel - 1, by omega⟩
    have hnext : nextItem first (s ++ 0x5D :: r) =
        .ok (.member (b :: bytes ++ (rest ++ 0x5D :: r))) := by
      have hitem := hopens.append (0x5D :: r)
      rw [List.append_assoc] at hitem
      exact hitem.nextItem hspace hend
    have hread : valueFrom n depth (b :: bytes ++ (rest ++ 0x5D :: r)) =
        .ok (v, rest ++ 0x5D :: r) :=
      hv.read n _ (by simp only [turns, List.length_cons]; omega) (hrest.ends (Or.inl rfl) r)
    rw [itemsFrom, hnext]
    dsimp only [bind, Except.bind]
    rw [hread]
    dsimp only
    rw [ih (by omega)]

/-- **The members of a record are read** up to its end. -/
theorem membersFrom_parts {ms : List (String × Value)}
    (h : Parts (MemberText (ReadsAs depth)) first inside ms)
    (hfuel : 2 * inside.length + 3 ≤ fuel) (r : Bytes) :
    membersFrom fuel depth first (inside ++ 0x7D :: r) = .ok (ms, 0x7D :: r) := by
  induction h generalizing fuel with
  | none hd =>
    obtain ⟨n, rfl⟩ : ∃ n, fuel = n + 1 := ⟨fuel - 1, by omega⟩
    rw [membersFrom, nextKey_close hd]
    rfl
  | @one first s t rest m ms hopens hm hrest ih =>
    have hlen := hopens.length_le
    have hmember := hopens.append (0x7D :: r)
    rw [List.append_assoc] at hmember
    obtain ⟨s₁, s₂, c, t', hnext, hkey, hcolon, hc, hv, ht⟩ := hmember.member hm
    simp only [List.length_append] at hlen
    obtain ⟨n, rfl⟩ : ∃ n, fuel = n + 1 := ⟨fuel - 1, by omega⟩
    have hread : valueFrom n depth (c ++ (t' ++ (rest ++ 0x7D :: r))) =
        .ok (m.2, rest ++ 0x7D :: r) := by
      rw [valueFrom_gap hc]
      exact hv.read n _ (by simp only [turns]; omega) (hrest.ends (Or.inr rfl) r)
    rw [membersFrom, hnext]
    dsimp only [bind, Except.bind]
    rw [hkey]
    dsimp only
    rw [hcolon]
    dsimp only
    rw [hread]
    dsimp only
    rw [ih (by omega)]

/-! ### Every text of a value is read -/

/-- A value that begins with a digit is a number. -/
theorem valueFrom_digit {b : UInt8} (hb : isDigit b = true) (fuel depth : Nat) (r : Bytes) :
    valueFrom (fuel + 1) depth (b :: r) =
      (number false (b :: r)).map fun (n, rest) => (.number n, rest) := by
  have hne : ∀ c : UInt8, isDigit c = false → b ≠ c := fun _ => ne_of_isDigit hb
  rw [valueFrom, skipSpace_cons (isSpace_of_isDigit hb)]
  dsimp only
  rw [if_neg (hne 0x6E (by decide)), if_neg (hne 0x74 (by decide)), if_neg (hne 0x66 (by decide)),
    if_neg (hne 0x2D (by decide)), if_pos hb]

/-- **The text of a value without brackets is read.** -/
theorem ScalarText.readsAs (h : ScalarText t v) (depth : Nat) : ReadsAs depth t v := by
  cases h with
  | null =>
    refine ⟨⟨0x6E, _, rfl, by decide, by decide⟩, fun fuel r hfuel _ => ?_⟩
    obtain ⟨n, rfl, -⟩ := exists_turn hfuel
    rfl
  | yes =>
    refine ⟨⟨0x74, _, rfl, by decide, by decide⟩, fun fuel r hfuel _ => ?_⟩
    obtain ⟨n, rfl, -⟩ := exists_turn hfuel
    rfl
  | no =>
    refine ⟨⟨0x66, _, rfl, by decide, by decide⟩, fun fuel r hfuel _ => ?_⟩
    obtain ⟨n, rfl, -⟩ := exists_turn hfuel
    rfl
  | number h =>
    obtain ⟨b, t, rfl, hb⟩ := h.exists_digit
    refine ⟨⟨b, t, rfl, isSpace_of_isDigit hb, ne_of_isDigit hb (by decide)⟩,
      fun fuel r hfuel hr => ?_⟩
    obtain ⟨n, rfl, -⟩ := exists_turn hfuel
    rw [List.cons_append, valueFrom_digit hb, ← List.cons_append, h.number hr]
    rfl
  | @negative t n h =>
    refine ⟨⟨0x2D, t, rfl, by decide, by decide⟩, fun fuel r hfuel hr => ?_⟩
    obtain ⟨n, rfl, -⟩ := exists_turn hfuel
    rw [List.cons_append, valueFrom, skipSpace_cons (by decide)]
    simp only [h.number hr]
    rfl
  | @text t x h =>
    obtain ⟨inner, bytes, rfl, -⟩ := id h
    refine ⟨⟨0x22, _, rfl, by decide, by decide⟩, fun fuel r hfuel _ => ?_⟩
    obtain ⟨n, rfl, -⟩ := exists_turn hfuel
    have hstring : string (inner ++ [0x22] ++ r) = .ok (x, r) := string_eq_ok_iff.2 ⟨_, h, rfl⟩
    rw [List.cons_append, valueFrom, skipSpace_cons (by decide)]
    simp only [hstring]
    rfl

theorem ListText.readsAs {items : List Value} (h : ListText (ReadsAs depth) t items) :
    ReadsAs (depth + 1) t (.list items) := by
  obtain ⟨inside, rfl, h⟩ := h
  refine ⟨⟨0x5B, _, rfl, by decide, by decide⟩, fun fuel r hfuel _ => ?_⟩
  obtain ⟨n, rfl, hn⟩ := exists_turn hfuel
  simp only [List.length_append, List.length_cons, List.length_nil] at hn
  have hbytes : 0x5B :: (inside ++ [0x5D]) ++ r = 0x5B :: (inside ++ 0x5D :: r) := by simp
  rw [hbytes, valueFrom, skipSpace_cons (by decide)]
  simp only [itemsFrom_parts h (by omega : 2 * inside.length + 3 ≤ n)]
  rfl

theorem RecordText.readsAs {members : List (String × Value)}
    (h : RecordText (ReadsAs depth) t members) : ReadsAs (depth + 1) t (.record members) := by
  obtain ⟨inside, rfl, h⟩ := h
  refine ⟨⟨0x7B, _, rfl, by decide, by decide⟩, fun fuel r hfuel _ => ?_⟩
  obtain ⟨n, rfl, hn⟩ := exists_turn hfuel
  simp only [List.length_append, List.length_cons, List.length_nil] at hn
  have hbytes : 0x7B :: (inside ++ [0x7D]) ++ r = 0x7B :: (inside ++ 0x7D :: r) := by simp
  rw [hbytes, valueFrom, skipSpace_cons (by decide)]
  simp only [membersFrom_parts h (by omega : 2 * inside.length + 3 ≤ n)]
  rfl

/-- **Every text of a value is read** as the value, with as many levels of brackets left as it is
said with. -/
theorem ValueText.readsAs (h : ValueText depth t v) : ReadsAs depth t v := by
  induction depth generalizing t v with
  | zero => exact ScalarText.readsAs h 0
  | succ depth ih =>
    rcases h with h | ⟨items, rfl, inside, rfl, h⟩ | ⟨members, rfl, inside, rfl, h⟩
    · exact h.readsAs (depth + 1)
    · exact ListText.readsAs ⟨inside, rfl, h.imp fun _ _ => ih⟩
    · exact RecordText.readsAs ⟨inside, rfl, h.imp fun _ _ => MemberText.imp fun _ _ => ih⟩

/-! ### What is read is the text of a value -/

theorem eq_append_of_word {es : Bytes} (h : word es s = .ok r) : s = es ++ r := by
  induction es generalizing s with
  | nil => exact Except.ok.inj h
  | cons e es ih =>
    cases s with
    | nil => exact absurd h nofun
    | cons b s =>
      rw [word] at h
      split at h
      · next hb => rw [hb, ih h, List.cons_append]
      · exact absurd h nofun

/-- What is read as a value inside brackets is a text of it, behind space perhaps. -/
def Sound (depth : Nat) : Prop :=
  ∀ {fuel : Nat} {s r : Bytes} {v : Value}, valueFrom fuel depth s = .ok (v, r) →
    ∃ a t, IsGap a ∧ ValueText depth t v ∧ s = a ++ (t ++ r)

theorem IsGap.append {d : Bytes} (hd : IsGap d) (ha : IsGap a) : IsGap (d ++ a) := by
  intro b hb
  exact (List.mem_append.1 hb).elim (hd b) (ha b)

/-- What a part that begins is followed by is followed by it as a whole. -/
theorem Opens.exists_inside (h : Opens first s (a ++ (s' ++ r))) (ha : IsGap a) :
    ∃ inside, s = inside ++ r ∧ Opens first inside s' := by
  obtain ⟨d, c, hd, hc, rfl⟩ := h
  cases first with
  | true => exact ⟨d ++ (a ++ s'), by simp, by simpa using opens_true (hd.append ha) s'⟩
  | false =>
    exact ⟨d ++ 0x2C :: (c ++ (a ++ s')), by simp, by simpa using opens_false hd (hc.append ha) s'⟩

/-- **What is read as items** are parts of this kind, up to the closing byte. -/
theorem exists_of_itemsFrom {vs : List Value} (hdepth : Sound depth)
    (h : itemsFrom fuel depth first s = .ok (vs, r)) :
    ∃ inside r', r = 0x5D :: r' ∧ s = inside ++ r ∧ Parts (ValueText depth) first inside vs := by
  induction fuel generalizing first s vs with
  | zero => exact absurd h nofun
  | succ fuel ih =>
    rw [itemsFrom] at h
    obtain ⟨next, hnext, hread⟩ := bind_eq_ok_iff.1 h
    rcases exists_of_nextItem hnext with ⟨s', rfl, hopens⟩ | ⟨a, r', rfl, ha, rfl⟩
    · obtain ⟨⟨v, r₁⟩, hv, hread⟩ := bind_eq_ok_iff.1 hread
      obtain ⟨⟨vs, r₂⟩, hvs, hread⟩ := bind_eq_ok_iff.1 hread
      obtain ⟨rfl, rfl⟩ := Prod.mk.inj (Except.ok.inj hread)
      obtain ⟨a, t, ha, ht, rfl⟩ := hdepth hv
      obtain ⟨rest, r', rfl, rfl, hrest⟩ := ih hvs
      rw [← List.append_assoc t] at hopens
      obtain ⟨inside, rfl, hinside⟩ := hopens.exists_inside ha
      exact ⟨inside, r', rfl, rfl, .one hinside ht hrest⟩
    · obtain ⟨rfl, rfl⟩ := Prod.mk.inj (Except.ok.inj hread)
      exact ⟨a, r', rfl, rfl, .none ha⟩

/-- A key, a colon and a value that are read, one after another, are a member. -/
theorem exists_of_member {name : String} {s₁ s₂ rest : Bytes} {Written : Bytes → Value → Prop}
    (hopens : Opens first s s₁) (hkey : key s₁ = .ok (name, s₂))
    (hcolon : colon s₂ = .ok (a ++ (t ++ (rest ++ r)))) (ha : IsGap a) (ht : Written t v) :
    ∃ inside text, s = inside ++ r ∧ Opens first inside (text ++ rest) ∧
      MemberText Written text (name, v) := by
  obtain ⟨k, hk, rfl⟩ := key_eq_ok_iff.1 hkey
  obtain ⟨b, hb, rfl⟩ := colon_eq_ok_iff.1 hcolon
  have hbytes : k ++ (b ++ 0x3A :: (a ++ (t ++ (rest ++ r)))) =
      [] ++ ((k ++ (b ++ 0x3A :: (a ++ t)) ++ rest) ++ r) := by simp
  rw [hbytes] at hopens
  obtain ⟨inside, rfl, hinside⟩ := hopens.exists_inside isGap_nil
  exact ⟨inside, _, rfl, hinside, k, b, a, t, hk, hb, ha, ht, rfl⟩

/-- **What is read as members** are parts of this kind, up to the closing byte. -/
theorem exists_of_membersFrom {ms : List (String × Value)} (hdepth : Sound depth)
    (h : membersFrom fuel depth first s = .ok (ms, r)) :
    ∃ inside r', r = 0x7D :: r' ∧ s = inside ++ r ∧
      Parts (MemberText (ValueText depth)) first inside ms := by
  induction fuel generalizing first s ms with
  | zero => exact absurd h nofun
  | succ fuel ih =>
    rw [membersFrom] at h
    obtain ⟨next, hnext, hread⟩ := bind_eq_ok_iff.1 h
    rcases exists_of_nextKey hnext with ⟨s', rfl, hopens⟩ | ⟨a, r', rfl, ha, rfl⟩
    · obtain ⟨⟨name, s₂⟩, hkey, hread⟩ := bind_eq_ok_iff.1 hread
      obtain ⟨s₃, hcolon, hread⟩ := bind_eq_ok_iff.1 hread
      obtain ⟨⟨v, r₁⟩, hv, hread⟩ := bind_eq_ok_iff.1 hread
      obtain ⟨⟨ms, r₂⟩, hms, hread⟩ := bind_eq_ok_iff.1 hread
      obtain ⟨rfl, rfl⟩ := Prod.mk.inj (Except.ok.inj hread)
      obtain ⟨a, t, ha, ht, rfl⟩ := hdepth hv
      obtain ⟨rest, r', rfl, rfl, hrest⟩ := ih hms
      obtain ⟨inside, text, rfl, hinside, hmember⟩ := exists_of_member hopens hkey hcolon ha ht
      exact ⟨inside, r', rfl, rfl, .one hinside hmember hrest⟩
    · obtain ⟨rfl, rfl⟩ := Prod.mk.inj (Except.ok.inj hread)
      exact ⟨a, r', rfl, rfl, .none ha⟩

theorem ScalarText.valueText (h : ScalarText t v) (depth : Nat) : ValueText depth t v := by
  cases depth with
  | zero => exact h
  | succ depth => exact Or.inl h

/-- **A value stands in front**: a text of it, and behind it what is left. -/
def Leads (depth : Nat) (s : Bytes) (v : Value) (r : Bytes) : Prop :=
  ∃ t, ValueText depth t v ∧ s = t ++ r

theorem leads_word {c : UInt8} {es : Bytes} {w : Value} (hw : ScalarText (c :: es) w)
    (h : (word es s).map (w, ·) = .ok (v, r)) : Leads depth (c :: s) v r := by
  obtain ⟨r', hword, heq⟩ := map_eq_ok_iff.1 h
  obtain ⟨rfl, rfl⟩ := Prod.mk.inj heq
  exact ⟨_, hw.valueText depth, by rw [eq_append_of_word hword, List.cons_append]⟩

theorem leads_number
    (h : (number false s).map (fun (n, rest) => (Value.number n, rest)) = .ok (v, r)) :
    Leads depth s v r := by
  obtain ⟨⟨n, r'⟩, hnumber, heq⟩ := map_eq_ok_iff.1 h
  obtain ⟨rfl, rfl⟩ := Prod.mk.inj heq
  obtain ⟨t, ht, hs⟩ := exists_of_number hnumber
  exact ⟨t, (ScalarText.number ht).valueText depth, hs⟩

theorem leads_negative
    (h : (number true s).map (fun (n, rest) => (Value.number n, rest)) = .ok (v, r)) :
    Leads depth (0x2D :: s) v r := by
  obtain ⟨⟨n, r'⟩, hnumber, heq⟩ := map_eq_ok_iff.1 h
  obtain ⟨rfl, rfl⟩ := Prod.mk.inj heq
  obtain ⟨t, ht, rfl⟩ := exists_of_number hnumber
  exact ⟨_, (ScalarText.negative ht).valueText depth, rfl⟩

theorem leads_text (h : (string s).map (fun (x, rest) => (Value.text x, rest)) = .ok (v, r)) :
    Leads depth (0x22 :: s) v r := by
  obtain ⟨⟨x, r'⟩, hstring, heq⟩ := map_eq_ok_iff.1 h
  obtain ⟨rfl, rfl⟩ := Prod.mk.inj heq
  obtain ⟨t, ht, hs⟩ := string_eq_ok_iff.1 hstring
  exact ⟨t, (ScalarText.text ht).valueText depth, hs⟩

theorem leads_list {items : List Value} {s' : Bytes} (hdepth : Sound depth)
    (hitems : itemsFrom fuel depth true s = .ok (items, s')) (hend : endList s' = .ok r) :
    Leads (depth + 1) (0x5B :: s) (.list items) r := by
  obtain ⟨inside, r', rfl, rfl, hinside⟩ := exists_of_itemsFrom hdepth hitems
  obtain rfl := Except.ok.inj ((endList_cons r').symm.trans hend)
  exact ⟨_, Or.inr (Or.inl ⟨items, rfl, inside, rfl, hinside⟩), by simp⟩

theorem leads_record {members : List (String × Value)} {s' : Bytes} (hdepth : Sound depth)
    (hmembers : membersFrom fuel depth true s = .ok (members, s')) (hend : endRecord s' = .ok r) :
    Leads (depth + 1) (0x7B :: s) (.record members) r := by
  obtain ⟨inside, r', rfl, rfl, hinside⟩ := exists_of_membersFrom hdepth hmembers
  obtain rfl := Except.ok.inj ((endRecord_cons r').symm.trans hend)
  exact ⟨_, Or.inr (Or.inr ⟨members, rfl, inside, rfl, hinside⟩), by simp⟩

/-- What is read as a value is the text of it, if this is so one level further inside. -/
theorem sound_of_pred (hpred : ∀ d, depth = d + 1 → Sound d) : Sound depth := by
  intro fuel s r v h
  cases fuel with
  | zero => contradiction
  | succ fuel =>
    rw [valueFrom] at h
    split at h
    · contradiction
    next b s hskip =>
    obtain ⟨a, ha, rfl, -⟩ := skipSpace_eq_cons_iff.1 hskip
    -- the first byte that is no space says of which kind the value is
    suffices hleads : Leads depth (b :: s) v r by
      obtain ⟨t, ht, hs⟩ := hleads
      exact ⟨a, t, ha, ht, by rw [hs]⟩
    split at h
    · next hb => exact hb ▸ leads_word .null h
    split at h
    · next hb => exact hb ▸ leads_word .yes h
    split at h
    · next hb => exact hb ▸ leads_word .no h
    split at h
    · next hb => exact hb ▸ leads_negative h
    split at h
    · exact leads_number h
    split at h
    · next hb => exact hb ▸ leads_text h
    split at h
    · next hb =>
      subst hb
      cases depth with
      | zero => contradiction
      | succ depth =>
        obtain ⟨⟨items, s'⟩, hitems, hrest⟩ := bind_eq_ok_iff.1 h
        obtain ⟨r', hend, heq⟩ := bind_eq_ok_iff.1 hrest
        obtain ⟨rfl, rfl⟩ := Prod.mk.inj (Except.ok.inj heq)
        exact leads_list (hpred depth rfl) hitems hend
    split at h
    · next hb =>
      subst hb
      cases depth with
      | zero => contradiction
      | succ depth =>
        obtain ⟨⟨members, s'⟩, hmembers, hrest⟩ := bind_eq_ok_iff.1 h
        obtain ⟨r', hend, heq⟩ := bind_eq_ok_iff.1 hrest
        obtain ⟨rfl, rfl⟩ := Prod.mk.inj (Except.ok.inj heq)
        exact leads_record (hpred depth rfl) hmembers hend
    · contradiction

/-- **What is read as a value is the text of it**, behind space perhaps. -/
theorem exists_of_valueFrom (depth : Nat) : Sound depth := by
  induction depth with
  | zero => exact sound_of_pred fun d h => absurd h.symm (Nat.succ_ne_zero d)
  | succ depth ih =>
    refine sound_of_pred ?_
    rintro _ ⟨⟩
    exact ih

/-- **The texts of a value are what is read as the value.** -/
theorem readsAs_iff : ReadsAs depth t v ↔ ValueText depth t v := by
  constructor
  · intro h
    obtain ⟨b, bytes, rfl, hspace, -⟩ := h.starts
    have hread := h.read _ [] (Nat.le_refl _) nofun
    obtain ⟨a, t, ha, ht, hbytes⟩ := exists_of_valueFrom depth hread
    -- the text does not begin with space, so there is no gap
    cases a with
    | nil =>
      rw [List.nil_append, List.append_nil, List.append_nil] at hbytes
      rwa [hbytes]
    | cons c a =>
      obtain ⟨rfl, -⟩ := List.cons.inj hbytes
      exact absurd (ha b List.mem_cons_self) (by simp [hspace])
  · exact ValueText.readsAs

end Rendezvous.Json
