import Mathlib.Tactic.SplitIfs
import Rendezvous.Proofs.Json.Tagged
import Rendezvous.Wire.Notice

/-!
# Notices on the wire

A notice is written as a tagged record, and read from many texts: the tag may stand anywhere, other
members may stand between its own, and it may be a list. What is written is one of these texts, and
it is read as the same notice (`Notice.decode_encode`). Beside the text there is what the members of
a notice hold (`Notice.held`); that the text is read as this is a matter of JSON
(`Notice.members_readAs`), and that this is the notice is a matter of its kind
(`Notice.ofTagged?_held`).
-/

namespace Rendezvous.Notice

open Json

/-- An integer as a value. -/
def integer (n : Int64) : Value :=
  .number (some n)

/-- **What the members of a notice hold.** -/
def held : Notice → List (String × Value)
  | .message id chat user content =>
    [("id", integer id), ("chat_id", integer chat), ("user_id", integer user),
      ("content", .text content)]
  | .paired chat user content =>
    [("chat_id", integer chat), ("user_id", integer user), ("content", .text content)]
  | .typing chat user => [("chat_id", integer chat), ("user_id", integer user)]
  | .delivered chat user received =>
    [("chat_id", integer chat), ("user_id", integer user), ("message_id", integer received)]
  | .readChat chat user => [("chat_id", integer chat), ("user_id", integer user)]
  | .readMessages chat user messages =>
    [("chat_id", integer chat), ("user_id", integer user),
      ("message_id", .list (messages.map integer))]

/-! ### The text of a notice -/

/-- A list of integers is read as their values. -/
theorem readsAs_integers (depth : Nat) (ns : List Int64) :
    ReadsAs (depth + 1) (Utf8.encode (writeList writeInteger ns)) (.list (ns.map integer)) := by
  rw [encode_writeList]
  refine readsAs_list ?_
  induction ns with
  | nil => exact .nil
  | cons n ns ih => exact .cons (readsAs_integer depth n) ih

/-- **The members of a notice are read** as what they hold. -/
theorem members_readAs (n : Notice) :
    List.Forall₂ MemberReadsAs (n.members.map fun m => (m.1, Utf8.encode m.2)) n.held := by
  have hinteger : ∀ (name : String) (k : Int64), name ≠ tagKey →
      MemberReadsAs (name, Utf8.encode (writeInteger k)) (name, integer k) :=
    fun name k hname => ⟨rfl, hname, readsAs_integer _ k⟩
  have htext : ∀ (name s : String), name ≠ tagKey →
      MemberReadsAs (name, Utf8.encode (writeText s)) (name, .text s) :=
    fun name s hname => ⟨rfl, hname, readsAs_text _ s⟩
  have hid : ("id" : String) ≠ tagKey := by decide
  have hchat : ("chat_id" : String) ≠ tagKey := by decide
  have huser : ("user_id" : String) ≠ tagKey := by decide
  have hmessage : ("message_id" : String) ≠ tagKey := by decide
  have hcontent : ("content" : String) ≠ tagKey := by decide
  cases n with
  | message id chat user content =>
    exact .cons (hinteger _ _ hid) (.cons (hinteger _ _ hchat)
      (.cons (hinteger _ _ huser) (.cons (htext _ _ hcontent) .nil)))
  | paired chat user content =>
    exact .cons (hinteger _ _ hchat) (.cons (hinteger _ _ huser)
      (.cons (htext _ _ hcontent) .nil))
  | typing chat user => exact .cons (hinteger _ _ hchat) (.cons (hinteger _ _ huser) .nil)
  | delivered chat user received =>
    exact .cons (hinteger _ _ hchat) (.cons (hinteger _ _ huser)
      (.cons (hinteger _ _ hmessage) .nil))
  | readChat chat user => exact .cons (hinteger _ _ hchat) (.cons (hinteger _ _ huser) .nil)
  | readMessages chat user messages =>
    exact .cons (hinteger _ _ hchat) (.cons (hinteger _ _ huser)
      (.cons ⟨rfl, hmessage, readsAs_integers _ messages⟩ .nil))

/-! ### The notice of a text -/

theorem integers?_map (ns : List Int64) : integers? (ns.map integer) = some ns := by
  induction ns with
  | nil => rfl
  | cons n ns ih =>
    unfold integers? at ih ⊢
    rw [List.map_cons, List.mapM_cons, ih]
    rfl

/-- **What the members of a notice hold is the notice**, under the word for its kind. -/
theorem ofTagged?_held (n : Notice) : ofTagged? n.kind (.record n.held) = some n := by
  cases n with
  | readMessages chat user messages =>
    have harguments : (Payload.record (held (.readMessages chat user messages))).arguments
        ["chat_id", "user_id", "message_id"] =
        some [integer chat, integer user, .list (messages.map integer)] := rfl
    simp [ofTagged?, kind, harguments, integer, integers?_map]
  | _ => rfl

theorem kind_mem_kinds (n : Notice) : kinds.contains n.kind = true := by
  cases n <;> simp [kinds, kind]

/-- **A notice that is written is read.** -/
theorem decode_encode (n : Notice) : decode (Utf8.encode n.encode) = .ok n := by
  have hparse : parseTagged kinds.contains (Utf8.encode n.encode) = .ok (n.kind, .record n.held) :=
    parseTagged_writeRecord n.kind_mem_kinds n.members_readAs
  simp only [decode, hparse, ofTagged?_held]

/-- The tag of a text is the word for the kind of its notice. -/
theorem kind_of_ofTagged? {tag : String} {payload : Payload} {n : Notice}
    (h : ofTagged? tag payload = some n) : n.kind = tag := by
  unfold ofTagged? at h
  split_ifs at h with htag htag htag htag htag htag
  all_goals subst htag
  all_goals split at h
  -- of other values nothing is read; of the right ones it is a notice of the kind of the tag
  all_goals first
    | contradiction
    | obtain rfl := Option.some.inj h
      rfl
    | obtain ⟨ids, -, rfl⟩ := Option.map_eq_some_iff.1 h
      rfl

/-- **A text that is read carries the word for the kind** of the notice that it writes. -/
theorem exists_payload {s : Bytes} {n : Notice} (h : decode s = .ok n) :
    ∃ payload, parseTagged kinds.contains s = .ok (n.kind, payload) := by
  unfold decode at h
  split at h
  · exact absurd h (by simp)
  · next tag payload hparse =>
    split at h
    · next n' hn =>
      obtain rfl := Except.ok.inj h
      exact ⟨payload, kind_of_ofTagged? hn ▸ hparse⟩
    · exact absurd h (by simp)

/-- Each kind has a word of its own. -/
theorem ctorIdx_eq_of_kind_eq {n n' : Notice} (h : n.kind = n'.kind) : n.ctorIdx = n'.ctorIdx := by
  cases n <;> cases n' <;> first | rfl | exact absurd h (by simp [kind])

/-! ### Nothing is lost -/

/-- **Nothing is lost on the wire.** -/
structure Lossless : Prop where
  /-- What is written of a notice is read as this notice. -/
  decode_encode : ∀ n : Notice, decode (Utf8.encode n.encode) = .ok n
  /-- Two notices are written differently. -/
  injective : Function.Injective encode
  /-- The tag of a text that is read is the word for the kind of the notice. -/
  tag : ∀ (s : Bytes) (n : Notice), decode s = .ok n →
    ∃ payload, parseTagged kinds.contains s = .ok (n.kind, payload)
  /-- Notices with the same word are of the same kind. -/
  kinds_apart : ∀ n n' : Notice, n.kind = n'.kind → n.ctorIdx = n'.ctorIdx
  /-- However a text writes a notice: what is written of this notice is read as the same notice,
  and written as the same text again. -/
  settled : ∀ (s : Bytes) (n : Notice), decode s = .ok n →
    ∃ n', decode (Utf8.encode n.encode) = .ok n' ∧ n' = n ∧ n'.encode = n.encode

/-- **The text of a notice is as good as the notice.** -/
theorem lossless : Lossless where
  decode_encode := decode_encode
  injective n n' h := by
    have hread : decode (Utf8.encode n.encode) = decode (Utf8.encode n'.encode) := by rw [h]
    rw [Notice.decode_encode, Notice.decode_encode] at hread
    exact Except.ok.inj hread
  tag _ _ := exists_payload
  kinds_apart _ _ := ctorIdx_eq_of_kind_eq
  settled s n _ := ⟨n, n.decode_encode, rfl, rfl⟩

end Rendezvous.Notice
