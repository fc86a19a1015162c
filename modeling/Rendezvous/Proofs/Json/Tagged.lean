import Mathlib.Data.List.Forall2
import Rendezvous.Json.Writer
import Rendezvous.Proofs.Json.Objects

/-!
# Tagged records that are written

What the writer writes are texts of the grammar: strings, integers, lists and records
(`Json.objectText_writeRecord`). They are therefore read as what was written, a tagged record as its
tag and the values of its members (`Json.parseTagged_writeRecord`).

Items and members are written with a comma in front of each but the first one, and nothing else
stands between them (`Json.parts_intercalate`). So whatever members objects have can be written as
another object, in any order (`Json.ObjectText.exists_text`).
-/

namespace Rendezvous.Json

variable {α : Type} {Body : Bytes → α → Prop} {depth : Nat} {text : Bytes} {v : Value}

/-! ### Values -/

theorem readsAs_text (depth : Nat) (s : String) :
    ReadsAs depth (Utf8.encode (writeText s)) (.text s) :=
  readsAs_iff.2 ((stringText_writeText s).valueText depth)

theorem scalarText_writeInteger (k : Int64) :
    ScalarText (Utf8.encode (writeInteger k)) (.number (some k)) := by
  obtain ⟨t, ht, h⟩ | h := numberText_writeInteger k
  · rw [ht]
    exact .negative h
  · exact .number h

theorem readsAs_integer (depth : Nat) (k : Int64) :
    ReadsAs depth (Utf8.encode (writeInteger k)) (.number (some k)) :=
  (scalarText_writeInteger k).readsAs depth

/-! ### Lists -/

/-- Everything but the first one, each with its comma. -/
def tail (texts : List Bytes) : Bytes :=
  texts.flatMap fun text => 0x2C :: text

theorem intercalate_cons (text : Bytes) (texts : List Bytes) :
    [0x2C].intercalate (text :: texts) = text ++ tail texts := by
  induction texts generalizing text with
  | nil => simp [tail]
  | cons next texts ih =>
    rw [List.intercalate_cons_cons, ih]
    simp [tail]

theorem parts_tail {texts : List Bytes} {ps : List α} (h : List.Forall₂ Body texts ps) :
    Parts Body false (tail texts) ps := by
  induction h with
  | nil => exact .none isGap_nil
  | @cons text p texts ps hp _ ih =>
    have hopens : Opens false (tail (text :: texts)) (text ++ tail texts) := by
      rw [tail, List.flatMap_cons]
      exact opens_false isGap_nil isGap_nil _
    exact .one hopens hp ih

/-- **Parts with commas between them** are parts of a text. -/
theorem parts_intercalate {texts : List Bytes} {ps : List α} (h : List.Forall₂ Body texts ps) :
    Parts Body true ([0x2C].intercalate texts) ps := by
  cases h with
  | nil => exact .none isGap_nil
  | @cons text p texts ps hp hrest =>
    rw [intercalate_cons]
    exact .one (opens_true isGap_nil _) hp (parts_tail hrest)

theorem Parts.exists_text {first : Bool} {s : Bytes} {ps : List α} (h : Parts Body first s ps) :
    ∀ p ∈ ps, ∃ t, Body t p := by
  induction h with
  | none => exact nofun
  | one _ hbody _ ih => exact List.forall_mem_cons.2 ⟨⟨_, hbody⟩, ih⟩

/-- What has texts can be written one after another. -/
theorem exists_parts {ps : List α} (h : ∀ p ∈ ps, ∃ t, Body t p) :
    ∃ inside, Parts Body true inside ps := by
  suffices htexts : ∃ texts, List.Forall₂ Body texts ps by
    obtain ⟨texts, htexts⟩ := htexts
    exact ⟨_, parts_intercalate htexts⟩
  induction ps with
  | nil => exact ⟨[], .nil⟩
  | cons p ps ih =>
    obtain ⟨⟨t, ht⟩, hrest⟩ := List.forall_mem_cons.1 h
    obtain ⟨texts, htexts⟩ := ih hrest
    exact ⟨t :: texts, .cons ht htexts⟩

/-- **Members of objects are members of another one**, in any order. -/
theorem ObjectText.exists_text {s s' : Bytes} {ms ms' more : List (String × Value)}
    (h : ObjectText s ms) (hmore : ObjectText s' more) (hmem : ∀ m ∈ ms', m ∈ ms ∨ m ∈ more) :
    ∃ t, ObjectText t ms' := by
  obtain ⟨_, _, _, -, -, ⟨_, -, hparts⟩, -⟩ := h
  obtain ⟨_, _, _, -, -, ⟨_, -, hothers⟩, -⟩ := hmore
  obtain ⟨inside, hinside⟩ := exists_parts fun m hm =>
    (hmem m hm).elim (hparts.exists_text m) (hothers.exists_text m)
  exact ⟨_, [], _, [], isGap_nil, isGap_nil, ⟨inside, rfl, hinside⟩, rfl⟩

/-- **A list that is written is read**, one level further inside. -/
theorem readsAs_list {texts : List Bytes} {vs : List Value}
    (h : List.Forall₂ (ReadsAs depth) texts vs) :
    ReadsAs (depth + 1) (0x5B :: ([0x2C].intercalate texts ++ [0x5D])) (.list vs) :=
  ListText.readsAs ⟨_, rfl, parts_intercalate h⟩

theorem encode_writeList {β : Type} (write : β → String) (items : List β) :
    Utf8.encode (writeList write items) =
      0x5B :: ([0x2C].intercalate (items.map fun a => Utf8.encode (write a)) ++ [0x5D]) := by
  have hopen : Utf8.encode "[" = [0x5B] := by decide
  have hclose : Utf8.encode "]" = [0x5D] := by decide
  have hcomma : Utf8.encode "," = [0x2C] := by decide
  rw [writeList, Utf8.encode_append, Utf8.encode_append, Utf8.encode_intercalate, hopen, hclose,
    hcomma, List.map_map]
  rfl

/-! ### Records -/

/-- A member of a record as it is written. -/
def memberBytes (member : String × Bytes) : Bytes :=
  Utf8.encode (writeText member.1) ++ 0x3A :: member.2

theorem memberText_memberBytes {β : Type} {Written : Bytes → β → Prop} {name : String} {b : β}
    (h : Written text b) : MemberText Written (memberBytes (name, text)) (name, b) :=
  ⟨_, [], [], text, stringText_writeText name, isGap_nil, isGap_nil, h, rfl⟩

theorem encode_writeRecord (members : List (String × String)) :
    Utf8.encode (writeRecord members) =
      0x7B :: ([0x2C].intercalate
        (members.map fun m => memberBytes (m.1, Utf8.encode m.2)) ++ [0x7D]) := by
  have hopen : Utf8.encode "\x7b" = [0x7B] := by decide
  have hclose : Utf8.encode "\x7d" = [0x7D] := by decide
  have hcomma : Utf8.encode "," = [0x2C] := by decide
  have hcolon : Utf8.encode ":" = [0x3A] := by decide
  have hrecord : writeRecord members =
      "\x7b" ++ ",".intercalate (members.map fun m => writeText m.1 ++ ":" ++ m.2) ++ "\x7d" := rfl
  have hmembers : (members.map fun m => writeText m.1 ++ ":" ++ m.2).map Utf8.encode =
      members.map fun m => memberBytes (m.1, Utf8.encode m.2) := by
    rw [List.map_map]
    refine List.map_congr_left fun m _ => ?_
    simp [memberBytes, hcolon]
  rw [hrecord, Utf8.encode_append, Utf8.encode_append, Utf8.encode_intercalate, hopen, hclose,
    hcomma, hmembers]
  rfl

/-- **A member is read** as what it holds under its key, which is not the one of the tag. -/
structure MemberReadsAs (member : String × Bytes) (held : String × Value) : Prop where
  /-- The key is the same. -/
  key_eq : member.1 = held.1
  /-- It is not the one of the tag. -/
  ne_tag : held.1 ≠ tagKey
  /-- The text is read as the value, inside the record. -/
  readsAs : ReadsAs (nestingLimit - 1) member.2 held.2

theorem MemberReadsAs.memberText {member : String × Bytes} {held : String × Value}
    (h : MemberReadsAs member held) :
    MemberText (ValueText (nestingLimit - 1)) (memberBytes member) held := by
  obtain ⟨name, text⟩ := member
  obtain ⟨rfl, -, hread⟩ := h
  exact memberText_memberBytes (readsAs_iff.1 hread)

/-- **A tagged record that is written is the text of an object**: its tag, and what its members
hold. -/
theorem objectText_writeRecord (kind : String) {members : List (String × String)}
    {held : List (String × Value)}
    (h : List.Forall₂ MemberReadsAs (members.map fun m => (m.1, Utf8.encode m.2)) held) :
    ObjectText (Utf8.encode (writeRecord ((tagKey, writeText kind) :: members)))
      ((tagKey, .text kind) :: held) := by
  have htag : MemberText (ValueText (nestingLimit - 1))
      (memberBytes (tagKey, Utf8.encode (writeText kind))) (tagKey, .text kind) :=
    memberText_memberBytes ((stringText_writeText kind).valueText _)
  have hmembers : List.Forall₂ (MemberText (ValueText (nestingLimit - 1)))
      (members.map fun m => memberBytes (m.1, Utf8.encode m.2)) held := by
    rw [List.forall₂_map_left_iff] at h ⊢
    exact h.imp fun _ _ => MemberReadsAs.memberText
  have hrecord : RecordText (ValueText (nestingLimit - 1))
      (Utf8.encode (writeRecord ((tagKey, writeText kind) :: members)))
      ((tagKey, .text kind) :: held) :=
    ⟨_, encode_writeRecord _, parts_intercalate (.cons htag hmembers)⟩
  exact ⟨[], _, [], isGap_nil, isGap_nil, hrecord, by simp⟩

/-- What a tagged record holds beside its tag does not have the key of it. -/
theorem ne_tag_of_readsAs {texts : List (String × Bytes)} {held : List (String × Value)}
    (h : List.Forall₂ MemberReadsAs texts held) : ∀ m ∈ held, m.1 ≠ tagKey := by
  induction h with
  | nil => exact nofun
  | cons hm _ ih => exact List.forall_mem_cons.2 ⟨hm.ne_tag, ih⟩

/-- **A tagged record that is written is read**, as its tag and as what its members hold. -/
theorem parseTagged_writeRecord {accept : String → Bool} {kind : String}
    {members : List (String × String)} {held : List (String × Value)}
    (haccept : accept kind = true)
    (h : List.Forall₂ MemberReadsAs (members.map fun m => (m.1, Utf8.encode m.2)) held) :
    parseTagged accept (Utf8.encode (writeRecord ((tagKey, writeText kind) :: members))) =
      .ok (kind, .record held) := by
  have hkeys := ne_tag_of_readsAs h
  have htag : onlyValue? tagKey ((tagKey, .text kind) :: held) = some (.text kind) := by
    rw [onlyValue?_eq_some_iff]
    simpa [List.filter_eq_nil_iff] using hkeys
  have hheld : untagged ((tagKey, .text kind) :: held) = held := by
    simpa [untagged, List.filter_eq_self] using hkeys
  refine (objectText_writeRecord kind h).parseTagged_iff.2 ⟨haccept, htag, ?_⟩
  rw [hheld]

end Rendezvous.Json
