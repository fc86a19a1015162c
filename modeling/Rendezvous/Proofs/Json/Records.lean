import Rendezvous.Json.Record
import Rendezvous.Proofs.Json.Tagged

/-!
# Records that are written

A record is read by its shape: each member is looked up by its key and put into a draft. A draft is
filled in by members when each of them is read by the field of its name, which the draft has not yet
(`Json.Shape.Fills`). The text of such members is read as the record of this draft
(`Json.Shape.parse_writeRecord`).

What is true of the draft that holds nothing, and stays true when any field is read, is true of the
draft of every record that is read, be its text an object or a list (`Json.Shape.exists_draft`).
-/

namespace Rendezvous.Json

variable {α β σ : Type} {text r : Bytes}

/-! ### Readers -/

/-- **A reader reads a text back**, whatever ends it. -/
def ReadsBack (read : Bytes → Scan β) (text : Bytes) (v : β) : Prop :=
  ∀ r, Ends r → read (text ++ r) = .ok (v, r)

theorem readsBack_integer (n : Int64) :
    ReadsBack readInteger (Utf8.encode (writeInteger n)) n := by
  intro r hr
  obtain ⟨t, ht, h⟩ | h := numberText_writeInteger n
  · rw [ht, List.cons_append, readInteger, skipSpace_cons (by decide)]
    dsimp only
    rw [if_pos rfl, h.number hr]
    rfl
  · obtain ⟨b, t, ht, hdigit⟩ := h.exists_digit
    have hread := h.number hr
    rw [ht, List.cons_append] at hread ⊢
    rw [readInteger, skipSpace_cons (isSpace_of_isDigit hdigit)]
    dsimp only
    rw [if_neg (ne_of_isDigit hdigit (by decide)), if_pos hdigit, hread]
    rfl

/-- What is written of an integer begins at once, and not like the absent value. -/
theorem writeInteger_starts (n : Int64) :
    ∃ b bytes, Utf8.encode (writeInteger n) = b :: bytes ∧ isSpace b = false ∧ b ≠ 0x6E := by
  obtain ⟨t, ht, -⟩ | h := numberText_writeInteger n
  · exact ⟨0x2D, t, ht, by decide, by decide⟩
  · obtain ⟨b, t, ht, hdigit⟩ := h.exists_digit
    exact ⟨b, t, ht, isSpace_of_isDigit hdigit, ne_of_isDigit hdigit (by decide)⟩

theorem readsBack_text (s : String) : ReadsBack readText (Utf8.encode (writeText s)) s :=
  fun r _ => readText_writeText s r

theorem readsBack_flag (b : Bool) : ReadsBack readFlag (Utf8.encode (writeFlag b)) b := by
  intro r _
  cases b with
  | true => rfl
  | false => rfl

theorem readsBack_choice {choices : List (String × β)} {word : String} {v : β}
    (h : choices.lookup word = some v) :
    ReadsBack (readChoice choices) (Utf8.encode (writeText word)) v := by
  intro r _
  rw [encode_writeText, List.cons_append, readChoice, skipSpace_cons (by decide)]
  dsimp only
  rw [if_pos rfl, List.append_assoc, List.singleton_append, string_insideQuotes]
  simp only [readChoice.choose, h]

/-- **A value that may be absent is read back**, if no value begins like the absent one. -/
theorem readsBack_option {read : Bytes → Scan β} {write : β → String} {o : Option β}
    (h : ∀ v ∈ o, ReadsBack read (Utf8.encode (write v)) v ∧
      ∃ b bytes, Utf8.encode (write v) = b :: bytes ∧ isSpace b = false ∧ b ≠ 0x6E) :
    ReadsBack (readOption read) (Utf8.encode (writeOption write o)) o := by
  intro r hr
  cases o with
  | none =>
    have hnull : Utf8.encode (writeOption write none) = 0x6E :: afterN := by
      show Utf8.encode "null" = _
      decide
    rw [hnull]
    rfl
  | some v =>
    obtain ⟨hread, b, bytes, hbytes, hspace, hne⟩ := h v rfl
    have hback := hread r hr
    show readOption read (Utf8.encode (write v) ++ r) = .ok (some v, r)
    rw [hbytes, List.cons_append] at hback ⊢
    rw [readOption, skipSpace_cons hspace]
    dsimp only
    rw [if_neg hne, hback]
    rfl

/-- What is read of a value that may be absent is read by the reader of the value. -/
theorem exists_read_of_readOption {read : Bytes → Scan β} {s : Bytes} {v : β}
    (h : readOption read s = .ok (some v, r)) : ∃ s', read s' = .ok (v, r) := by
  unfold readOption at h
  split at h
  · split at h
    · obtain ⟨_, -, heq⟩ := map_eq_ok_iff.1 h
      exact absurd (Prod.mk.inj heq).1 nofun
    · obtain ⟨⟨v', r'⟩, hread, heq⟩ := map_eq_ok_iff.1 h
      obtain ⟨hv, rfl⟩ := Prod.mk.inj heq
      exact ⟨_, Option.some.inj hv ▸ hread⟩
  · obtain ⟨⟨v', r'⟩, hread, heq⟩ := map_eq_ok_iff.1 h
    obtain ⟨hv, rfl⟩ := Prod.mk.inj heq
    exact ⟨_, Option.some.inj hv ▸ hread⟩

/-! ### Fields -/

namespace Field

variable {name : String} {read : Bytes → Scan β} {get : σ → Option β} {set : σ → β → σ}
  {mayEndBefore : Bool} {P : σ → Prop}

/-- **A field keeps what holds of a draft** when it is read into it. -/
def Keeps (P : σ → Prop) (field : Field σ) : Prop :=
  ∀ d s d' r, P d → field.read d s = .ok (d', r) → P d'

theorem keeps_of (h : ∀ d v s r, P d → read s = .ok (v, r) → P (set d v)) :
    (Field.of name read get set mayEndBefore).Keeps P := by
  intro d s d' r hd hread
  obtain ⟨⟨v, r'⟩, hv, heq⟩ := map_eq_ok_iff.1 hread
  obtain ⟨rfl, -⟩ := Prod.mk.inj heq
  exact h d v s r' hd hv

/-- A field that has nothing to do with it keeps it. -/
theorem keeps_untouched (h : ∀ d v, P d → P (set d v)) :
    (Field.of name read get set mayEndBefore).Keeps P :=
  keeps_of fun d v _ _ hd _ => h d v hd

end Field

/-- A field is filled in by what its reader reads back. -/
theorem ReadsBack.field {read : Bytes → Scan β} {v : β} (h : ReadsBack read text v)
    (name : String) (get : σ → Option β) (set : σ → β → σ) (mayEndBefore : Bool) (d : σ) (r : Bytes)
    (hr : Ends r) :
    (Field.of name read get set mayEndBefore).read d (text ++ r) = .ok (set d v, r) := by
  show (read (text ++ r)).map _ = _
  rw [h r hr]
  rfl

/-! ### Members -/

/-- What stands in front of a member. -/
def lead (first : Bool) : Bytes :=
  if first then [] else [0x2C]

/-- Texts with commas between them, and one in front unless the first one is the first of all. -/
def separated (first : Bool) (texts : List Bytes) : Bytes :=
  if first then [0x2C].intercalate texts else tail texts

theorem separated_false (texts : List Bytes) : separated false texts = tail texts := rfl

theorem separated_cons (first : Bool) (text : Bytes) (texts : List Bytes) :
    separated first (text :: texts) = lead first ++ (text ++ tail texts) := by
  cases first with
  | true => exact intercalate_cons text texts
  | false => rfl

/-- There are no more texts than bytes. -/
theorem length_le_separated {texts : List Bytes} (h : ∀ text ∈ texts, text ≠ []) (first : Bool) :
    texts.length ≤ (separated first texts).length := by
  induction texts generalizing first with
  | nil => exact Nat.zero_le _
  | cons text texts ih =>
    obtain ⟨htext, htexts⟩ := List.forall_mem_cons.1 h
    have hpos := List.length_pos_iff.2 htext
    have htail := ih htexts false
    rw [separated_false] at htail
    rw [separated_cons]
    simp only [List.length_append, List.length_cons]
    omega

/-- What comes behind a member ends a number. -/
theorem ends_tail (texts : List Bytes) (r : Bytes) : Ends (tail texts ++ 0x7D :: r) := by
  cases texts with
  | nil => exact ends_cons (by decide) r
  | cons text texts => exact ends_cons (by decide) _

/-- The next key stands behind its comma, and the first one at once. -/
theorem nextKey_lead (first : Bool) (name : String) (r : Bytes) :
    nextKey first (lead first ++ (Utf8.encode (writeText name) ++ r)) =
      .ok (.member (Utf8.encode (writeText name) ++ r)) := by
  have hopens : Opens first (lead first ++ (Utf8.encode (writeText name) ++ r))
      (Utf8.encode (writeText name) ++ r) := by
    cases first with
    | true => exact opens_true isGap_nil _
    | false => exact opens_false isGap_nil isGap_nil _
  rw [encode_writeText, List.cons_append] at hopens ⊢
  exact hopens.nextKey

namespace Shape

variable {shape : Shape σ α} {d d' : σ} {fuel : Nat} {members : List (String × Bytes)}

/-- **A draft is filled in by members**: each has the key of a field that the draft has not yet, and
this field is read from it. -/
inductive Fills (shape : Shape σ α) : σ → List (String × Bytes) → σ → Prop where
  /-- Nothing is filled in. -/
  | nil (d : σ) : Fills shape d [] d
  /-- One field, and then others. -/
  | cons {d d' d'' : σ} {name : String} {text : Bytes} {members : List (String × Bytes)}
      {field : Field σ} (hfind : shape.fields.find? (·.name == name) = some field)
      (hset : field.isSet d = false)
      (hread : ∀ r, Ends r → field.read d (text ++ r) = .ok (d', r))
      (hrest : Fills shape d' members d'') : Fills shape d ((name, text) :: members) d''

/-- **The members of a record are read**, from the first one or from behind it. -/
theorem Fills.readMembers_eq (h : Fills shape d members d') (hfuel : members.length + 1 ≤ fuel)
    (first : Bool) (r : Bytes) :
    shape.readMembers fuel first d (separated first (members.map memberBytes) ++ 0x7D :: r) =
      .ok (d', 0x7D :: r) := by
  induction h generalizing fuel first with
  | nil d =>
    obtain ⟨n, rfl⟩ : ∃ n, fuel = n + 1 := ⟨fuel - 1, by omega⟩
    cases first <;> rfl
  | @cons d d₁ d₂ name text members field hfind hset hread _ ih =>
    simp only [List.length_cons] at hfuel
    obtain ⟨n, rfl⟩ : ∃ n, fuel = n + 1 := ⟨fuel - 1, by omega⟩
    have hbytes : separated first (((name, text) :: members).map memberBytes) ++ 0x7D :: r =
        lead first ++ (Utf8.encode (writeText name) ++
          0x3A :: (text ++ (tail (members.map memberBytes) ++ 0x7D :: r))) := by
      simp [separated_cons, memberBytes]
    have hrest : shape.readMembers n false d₁ (tail (members.map memberBytes) ++ 0x7D :: r) =
        .ok (d₂, 0x7D :: r) := ih (by omega) false
    have hcolon : ∀ s : Bytes, colon (0x3A :: s) = .ok s :=
      fun s => colon_eq_ok_iff.2 ⟨[], isGap_nil, rfl⟩
    rw [hbytes, readMembers, nextKey_lead]
    dsimp only [bind, Except.bind]
    rw [key_eq_ok_iff.2 ⟨_, stringText_writeText name, rfl⟩]
    dsimp only
    rw [hfind]
    dsimp only
    rw [if_neg (by simp [hset]), hcolon]
    dsimp only
    rw [hread _ (ends_tail _ _)]
    dsimp only
    rw [hrest]

/-- **A record that is written is read** as what its members fill in. -/
theorem parse_writeRecord {members : List (String × String)} {v : α}
    (h : Fills shape shape.blank (members.map fun m => (m.1, Utf8.encode m.2)) d)
    (hcomplete : shape.complete d = some v) :
    shape.parse (Utf8.encode (writeRecord members)) = .ok v := by
  obtain ⟨inside, hinside⟩ : ∃ inside, inside =
      separated true ((members.map fun m => (m.1, Utf8.encode m.2)).map memberBytes) ++ [0x7D] :=
    ⟨_, rfl⟩
  have hbytes : Utf8.encode (writeRecord members) = 0x7B :: inside := by
    rw [encode_writeRecord, hinside, List.map_map]
    rfl
  have hturns : (members.map fun m => (m.1, Utf8.encode m.2)).length + 1 ≤ turns inside := by
    have hlength : ((members.map fun m => (m.1, Utf8.encode m.2)).map memberBytes).length ≤
        (separated true ((members.map fun m => (m.1, Utf8.encode m.2)).map memberBytes)).length :=
      length_le_separated (fun text htext => by
        obtain ⟨member, -, rfl⟩ := List.mem_map.1 htext
        simp [memberBytes]) true
    rw [List.length_map] at hlength
    rw [hinside, turns, List.length_append]
    omega
  have hread : shape.readMembers (turns inside) true shape.blank inside = .ok (d, [0x7D]) := by
    generalize turns inside = fuel at hturns
    rw [hinside]
    exact h.readMembers_eq hturns true []
  rw [hbytes, parse, read, skipSpace_cons (by decide)]
  dsimp only
  rw [if_neg (by decide), if_pos rfl, hread]
  dsimp only [bind, Except.bind]
  rw [conclude, hcomplete]
  rfl

/-! ### Drafts -/

/-- **What holds of drafts whatever is read**: of the one that holds nothing, and of what any field
makes of one of which it holds. -/
structure Kept (shape : Shape σ α) (P : σ → Prop) : Prop where
  /-- It holds when nothing is read. -/
  blank : P shape.blank
  /-- It holds after one more field. -/
  read : ∀ field ∈ shape.fields, field.Keeps P

variable {P : σ → Prop} {s : Bytes} {first : Bool}

theorem Kept.readSequence (h : Kept shape P) {fields : List (Field σ)}
    (hfields : ∀ field ∈ fields, field ∈ shape.fields) (hd : P d)
    (hread : Shape.readSequence fields first d s = .ok (d', r)) : P d' := by
  induction fields generalizing first d s with
  | nil =>
    obtain ⟨rfl, -⟩ := Prod.mk.inj (Except.ok.inj hread)
    exact hd
  | cons field fields ih =>
    have hrest := fun field hfield => hfields field (List.mem_cons_of_mem _ hfield)
    rw [Shape.readSequence] at hread
    obtain ⟨next, -, hread⟩ := bind_eq_ok_iff.1 hread
    cases next with
    | close rest =>
      dsimp only at hread
      split at hread
      · exact ih hrest hd hread
      · exact absurd hread nofun
    | member s =>
      obtain ⟨⟨d₁, s₁⟩, hfield, hread⟩ := bind_eq_ok_iff.1 hread
      exact ih hrest (h.read field (hfields field List.mem_cons_self) _ _ _ _ hd hfield) hread

theorem Kept.readMembers (h : Kept shape P) (hd : P d)
    (hread : shape.readMembers fuel first d s = .ok (d', r)) : P d' := by
  induction fuel generalizing first d s with
  | zero => exact absurd hread nofun
  | succ fuel ih =>
    rw [Shape.readMembers] at hread
    obtain ⟨next, -, hread⟩ := bind_eq_ok_iff.1 hread
    cases next with
    | close rest =>
      obtain ⟨rfl, -⟩ := Prod.mk.inj (Except.ok.inj hread)
      exact hd
    | member s =>
      obtain ⟨⟨name, s₁⟩, -, hread⟩ := bind_eq_ok_iff.1 hread
      dsimp only at hread
      split at hread
      · next field hfind =>
        split at hread
        · exact absurd hread nofun
        · obtain ⟨s₂, -, hread⟩ := bind_eq_ok_iff.1 hread
          obtain ⟨⟨d₁, s₃⟩, hfield, hread⟩ := bind_eq_ok_iff.1 hread
          exact ih (h.read field (List.mem_of_find?_eq_some hfind) _ _ _ _ hd hfield) hread
      · obtain ⟨s₂, -, hread⟩ := bind_eq_ok_iff.1 hread
        obtain ⟨s₃, -, hread⟩ := bind_eq_ok_iff.1 hread
        exact ih hd hread

theorem conclude_eq_ok_iff {v : α} : shape.conclude d = .ok v ↔ shape.complete d = some v := by
  unfold conclude
  cases shape.complete d <;> simp

/-- **What is kept holds of the draft of a record that is read.** -/
theorem Kept.exists_draft {v : α} (h : Kept shape P) (hparse : shape.parse s = .ok v) :
    ∃ d, P d ∧ shape.complete d = some v := by
  obtain ⟨rest, hread⟩ : ∃ rest, shape.read s = .ok (v, rest) := by
    unfold parse finish at hparse
    split at hparse
    · contradiction
    · next a rest hread =>
      split at hparse
      · exact ⟨rest, Except.ok.inj hparse ▸ hread⟩
      · contradiction
  unfold Shape.read at hread
  split at hread
  · contradiction
  · next b bytes _ =>
    split at hread
    · obtain ⟨⟨d, s₁⟩, hsequence, hread⟩ := bind_eq_ok_iff.1 hread
      obtain ⟨a, hconclude, hread⟩ := bind_eq_ok_iff.1 hread
      obtain ⟨s₂, -, hread⟩ := bind_eq_ok_iff.1 hread
      obtain ⟨rfl, -⟩ := Prod.mk.inj (Except.ok.inj hread)
      exact ⟨d, h.readSequence (fun _ hfield => hfield) h.blank hsequence,
        conclude_eq_ok_iff.1 hconclude⟩
    split at hread
    · obtain ⟨⟨d, s₁⟩, hmembers, hread⟩ := bind_eq_ok_iff.1 hread
      obtain ⟨a, hconclude, hread⟩ := bind_eq_ok_iff.1 hread
      obtain ⟨s₂, -, hread⟩ := bind_eq_ok_iff.1 hread
      obtain ⟨rfl, -⟩ := Prod.mk.inj (Except.ok.inj hread)
      exact ⟨d, h.readMembers h.blank hmembers, conclude_eq_ok_iff.1 hconclude⟩
    · contradiction

end Shape

end Rendezvous.Json
