import Rendezvous.Channel.Reader
import Rendezvous.Proofs.Json.Objects
import Rendezvous.Proofs.Wire.Notices

/-!
# Signals on the wire

A signal is what the members of its object say (`Signal.IsSaidBy`), and how the object is written
makes no difference (`Signal.decode_eq_ok_iff`). Members may change their places, and others may
come in between, as long as they have none of the keys that the signal is read from
(`Signal.IsSaidBy.of_perm`).

What a connection passes on is therefore the same, too. It goes to the user that the signal names,
and what it tells there (`Signal.Tells`) names as the user the one to whom the connection belongs; a
member with such a key is one of those that make no difference (`Signal.unmistakable`).
-/

namespace Rendezvous

open Json

namespace Signal

variable {s s' : Bytes} {w : String} {ms ms' more : List (String × Value)} {f : Signal}

/-! ### What members say -/

/-- The keys that a signal is read from. -/
def keys : Signal → List String
  | .typing .. => [tagKey, "chat_id", "receiver_id"]
  | .delivered .. => [tagKey, "chat_id", "receiver_id", "message_id"]
  | .unknown => [tagKey]

/-- **A member holds an integer** of 64 bits, and no other member has its key. -/
def Holds (ms : List (String × Value)) (name : String) (n : Int64) : Prop :=
  onlyValue? name ms = some (.number (some n))

/-- **The members of an object say a signal.** The word for its kind is there once, and so are its
integers; any other word says a signal that is not known. -/
def IsSaidBy : Signal → List (String × Value) → Prop
  | .typing chat receiver, ms =>
    onlyValue? tagKey ms = some (.text "typing") ∧ Holds ms "chat_id" chat ∧
      Holds ms "receiver_id" receiver
  | .delivered chat receiver message, ms =>
    onlyValue? tagKey ms = some (.text "delivered") ∧ Holds ms "chat_id" chat ∧
      Holds ms "receiver_id" receiver ∧ Holds ms "message_id" message
  | .unknown, ms =>
    ∃ w, onlyValue? tagKey ms = some (.text w) ∧ w ≠ "typing" ∧ w ≠ "delivered"

/-- **Places and other members do not matter** for the signal that members say. -/
theorem IsSaidBy.of_perm (h : f.IsSaidBy ms) (hmore : ∀ m ∈ more, m.1 ∉ f.keys)
    (hperm : ms'.Perm (ms ++ more)) : f.IsSaidBy ms' := by
  have hkey : ∀ {name v}, name ∈ f.keys → onlyValue? name ms = some v →
      onlyValue? name ms' = some v :=
    fun hname hv => onlyValue?_of_perm hv (fun m hm heq => hmore m hm (heq ▸ hname)) hperm
  cases f with
  | typing chat receiver =>
    obtain ⟨htag, hchat, hreceiver⟩ := h
    exact ⟨hkey (by simp [keys]) htag, hkey (by simp [keys]) hchat, hkey (by simp [keys]) hreceiver⟩
  | delivered chat receiver message =>
    obtain ⟨htag, hchat, hreceiver, hmessage⟩ := h
    exact ⟨hkey (by simp [keys]) htag, hkey (by simp [keys]) hchat, hkey (by simp [keys]) hreceiver,
      hkey (by simp [keys]) hmessage⟩
  | unknown =>
    obtain ⟨w, htag, hw⟩ := h
    exact ⟨w, hkey (by simp [keys]) htag, hw⟩

/-! ### What is read -/

/-- A list is read item by item. -/
theorem mapM_eq_some_iff {α β : Type} {read : α → Option β} {as : List α} {bs : List β} :
    as.mapM read = some bs ↔ List.Forall₂ (fun a b => read a = some b) as bs := by
  induction as generalizing bs with
  | nil => cases bs <;> simp
  | cons a as ih =>
    rw [List.mapM_cons]
    constructor
    · intro h
      obtain ⟨b, hb, h⟩ := Option.bind_eq_some_iff.1 h
      obtain ⟨bs', hbs, h⟩ := Option.bind_eq_some_iff.1 h
      obtain rfl := Option.some.inj h
      exact .cons hb (ih.1 hbs)
    · rintro (_ | ⟨hb, hbs⟩)
      simp [hb, ih.2 hbs]

theorem integers?_eq_some_iff {values : List Value} {ns : List Int64} :
    integers? values = some ns ↔ values = ns.map Notice.integer := by
  rw [integers?, mapM_eq_some_iff, ← List.forall₂_eq_eq_eq, List.forall₂_map_right_iff]
  refine iff_of_eq (congrArg (List.Forall₂ · values ns) ?_)
  funext v n
  cases v <;> simp [Notice.integer]

/-- **The integers of some members**, each under its key. -/
theorem integers?_arguments {names : List String} {ns : List Int64} :
    ((Payload.record ms).arguments names).bind integers? = some ns ↔
      List.Forall₂ (Holds ms) names ns := by
  have hholds : List.Forall₂ (fun name v => onlyValue? name ms = some v) names
      (ns.map Notice.integer) ↔ List.Forall₂ (Holds ms) names ns := List.forall₂_map_right_iff
  rw [← hholds, Option.bind_eq_some_iff, Payload.arguments]
  simp only [mapM_eq_some_iff, integers?_eq_some_iff]
  constructor
  · rintro ⟨_, hvalues, rfl⟩
    exact hvalues
  · intro hvalues
    exact ⟨_, hvalues, rfl⟩

theorem ofTagged?_typing : ofTagged? "typing" (.record ms) = some f ↔
    ∃ chat receiver, f = .typing chat receiver ∧ Holds ms "chat_id" chat ∧
      Holds ms "receiver_id" receiver := by
  unfold ofTagged?
  rw [if_pos rfl]
  constructor
  · intro h
    split at h
    · next chat receiver hintegers =>
      obtain ⟨hchat, hreceiver⟩ := by simpa using integers?_arguments.1 hintegers
      exact ⟨chat, receiver, (Option.some.inj h).symm, hchat, hreceiver⟩
    · exact absurd h nofun
  · rintro ⟨chat, receiver, rfl, hchat, hreceiver⟩
    rw [integers?_arguments.2 (.cons hchat (.cons hreceiver .nil))]

theorem ofTagged?_delivered : ofTagged? "delivered" (.record ms) = some f ↔
    ∃ chat receiver message, f = .delivered chat receiver message ∧ Holds ms "chat_id" chat ∧
      Holds ms "receiver_id" receiver ∧ Holds ms "message_id" message := by
  unfold ofTagged?
  rw [if_neg (by decide), if_pos rfl]
  constructor
  · intro h
    split at h
    · next chat receiver message hintegers =>
      obtain ⟨hchat, hreceiver, hmessage⟩ := by simpa using integers?_arguments.1 hintegers
      exact ⟨chat, receiver, message, (Option.some.inj h).symm, hchat, hreceiver, hmessage⟩
    · exact absurd h nofun
  · rintro ⟨chat, receiver, message, rfl, hchat, hreceiver, hmessage⟩
    rw [integers?_arguments.2 (.cons hchat (.cons hreceiver (.cons hmessage .nil)))]

theorem ofTagged?_other (htyping : w ≠ "typing") (hdelivered : w ≠ "delivered") :
    ofTagged? w (.record ms) = some f ↔ f = .unknown := by
  have hvacant : (Payload.record ms).isVacant = true := rfl
  rw [ofTagged?, if_neg htyping, if_neg hdelivered, if_pos hvacant, Option.some.injEq, eq_comm]

theorem holds_untagged {name : String} {n : Int64} (hname : name ≠ tagKey) :
    Holds (untagged ms) name n ↔ Holds ms name n := by
  rw [Holds, Holds, onlyValue?_untagged hname]

/-- What a tagged record is read as. -/
theorem ofTagged?_eq_some_iff (h : onlyValue? tagKey ms = some (.text w)) :
    ofTagged? w (.record (untagged ms)) = some f ↔ f.IsSaidBy ms := by
  have hchat : "chat_id" ≠ tagKey := by decide
  have hreceiver : "receiver_id" ≠ tagKey := by decide
  have hmessage : "message_id" ≠ tagKey := by decide
  by_cases htyping : w = "typing"
  · subst htyping
    rw [ofTagged?_typing]
    cases f <;> simp [IsSaidBy, holds_untagged, *]
  by_cases hdelivered : w = "delivered"
  · subst hdelivered
    rw [ofTagged?_delivered]
    cases f <;> simp [IsSaidBy, holds_untagged, *]
  · rw [ofTagged?_other htyping hdelivered]
    cases f <;> simp [IsSaidBy, *]

/-- What is said is said under one word. -/
theorem IsSaidBy.exists_tag (h : f.IsSaidBy ms) : ∃ w, onlyValue? tagKey ms = some (.text w) := by
  cases f with
  | typing chat receiver => exact ⟨_, h.1⟩
  | delivered chat receiver message => exact ⟨_, h.1⟩
  | unknown => exact ⟨_, h.choose_spec.1⟩

/-- **The signal that is read from a text of an object is the one that its members say.** -/
theorem decode_eq_ok_iff (h : ObjectText s ms) : decode s = .ok f ↔ f.IsSaidBy ms := by
  constructor
  · intro hread
    unfold decode at hread
    split at hread
    · exact absurd hread nofun
    next w payload hparse =>
    obtain ⟨-, htag, rfl⟩ := h.parseTagged_iff.1 hparse
    split at hread
    · next f' hf =>
      obtain rfl := Except.ok.inj hread
      exact (ofTagged?_eq_some_iff htag).1 hf
    · exact absurd hread nofun
  · intro hsaid
    obtain ⟨w, htag⟩ := hsaid.exists_tag
    have hparse : parseTagged (fun _ => true) s = .ok (w, .record (untagged ms)) :=
      h.parseTagged_iff.2 ⟨rfl, htag, rfl⟩
    simp only [decode, hparse, (ofTagged?_eq_some_iff htag).2 hsaid]

-- Another key than those of the signal says nothing, wherever it stands.
example : decode (Utf8.encode
    " \x7b \"user_id\": 7,\n\"receiver_id\" :2,\"type\":\"typing\", \"chat_id\":1\x7d") =
      .ok (.typing 1 2) := by
  decide +kernel

/-! ### What is passed on -/

/-- What a connection does about such a message is a matter of its content. -/
theorem react_of_content {m : Inbound} (hm : m.content? = some s) (sender : UserId) :
    Reader.react sender m = Reader.reactToContent sender s := by
  cases m with
  | text content => rw [← Option.some.inj hm, Reader.react]
  | binary content => rw [← Option.some.inj hm, Reader.react]
  | _ => exact absurd hm nofun

/-- Two contents that are read as the same signal are the same to a connection. -/
theorem reactToContent_congr (h : decode s = .ok f) (h' : decode s' = .ok f) (sender : UserId) :
    Reader.reactToContent sender s' = Reader.reactToContent sender s := by
  rw [Reader.reactToContent, Reader.reactToContent, h, h']

theorem reactToContent_unknown (h : decode s = .ok .unknown) (sender : UserId) :
    Reader.reactToContent sender s = .ignore := by
  simp only [Reader.reactToContent, h, relay]

/-- A signal that is for a user is passed on to that user. -/
theorem reactToContent_of_relay (h : decode s = .ok f) {sender receiver : UserId} {notice : Notice}
    (hrelay : f.relay sender = some (receiver, notice)) :
    Reader.reactToContent sender s = .relay receiver notice := by
  simp only [Reader.reactToContent, h, hrelay]

/-- **The user of a notice**, as its text says. -/
def NamesUser (notice : Notice) (user : UserId) : Prop :=
  ∃ ms, ObjectText (Utf8.encode notice.encode) ms ∧ Holds ms "user_id" user

/-- **The text of a notice tells** something of a kind, and of what it tells it. -/
def Tells (notice : Notice) (kind : String) (named : List (String × Int64)) : Prop :=
  ∃ ms, ObjectText (Utf8.encode notice.encode) ms ∧ onlyValue? tagKey ms = some (.text kind) ∧
    ∀ member ∈ named, Holds ms member.1 member.2

theorem tells_typing (chat : ChatId) (user : UserId) :
    Tells (.typing chat user) "typing" [("chat_id", chat), ("user_id", user)] := by
  refine ⟨_, objectText_writeRecord _ (Notice.members_readAs _), rfl, ?_⟩
  simp only [List.forall_mem_cons]
  exact ⟨rfl, rfl, nofun⟩

theorem tells_delivered (chat : ChatId) (user : UserId) (message : MessageId) :
    Tells (.delivered chat user message) "delivered"
      [("chat_id", chat), ("user_id", user), ("message_id", message)] := by
  refine ⟨_, objectText_writeRecord _ (Notice.members_readAs _), rfl, ?_⟩
  simp only [List.forall_mem_cons]
  exact ⟨rfl, rfl, rfl, nofun⟩

/-- **What is passed on names its sender.** -/
theorem namesUser_of_relay {sender receiver : UserId} {notice : Notice}
    (h : f.relay sender = some (receiver, notice)) : NamesUser notice sender := by
  refine ⟨_, objectText_writeRecord notice.kind notice.members_readAs, ?_⟩
  cases f with
  | typing chat receiver =>
    obtain ⟨rfl, rfl⟩ := Prod.mk.inj (Option.some.inj h)
    rfl
  | delivered chat receiver message =>
    obtain ⟨rfl, rfl⟩ := Prod.mk.inj (Option.some.inj h)
    rfl
  | unknown => exact absurd h nofun

/-- Nothing is passed on but signals. -/
theorem exists_of_react {sender receiver : UserId} {m : Inbound} {notice : Notice}
    (h : Reader.react sender m = .relay receiver notice) :
    ∃ f : Signal, f.relay sender = some (receiver, notice) := by
  have hcontent : ∀ content : Bytes,
      Reader.reactToContent sender content = .relay receiver notice →
        ∃ f : Signal, f.relay sender = some (receiver, notice) := by
    intro content h
    unfold Reader.reactToContent at h
    split at h
    · exact absurd h nofun
    next f _ =>
    split at h
    · next hrelay =>
      obtain ⟨rfl, rfl⟩ := Reader.Reaction.relay.inj h
      exact ⟨f, hrelay⟩
    · exact absurd h nofun
  cases m with
  | text content => exact hcontent content h
  | binary content => exact hcontent content h
  | _ => exact absurd h nofun

/-! ### However it is written -/

/-- **A signal is the same however it is written, and does not say who sends it.** -/
structure Unmistakable : Prop where
  /-- A text that begins with a brace and is read is the text of an object, -/
  object : ∀ (s r : Bytes) (f : Signal), skipSpace s = 0x7B :: r → decode s = .ok f →
    ∃ ms, ObjectText s ms
  /-- and of one object only. -/
  unique : ∀ (s : Bytes) (ms ms' : List (String × Value)), ObjectText s ms → ObjectText s ms' →
    ms = ms'
  /-- Members of objects can be written as one object, in any order. -/
  written : ∀ (s s' : Bytes) (ms ms' more : List (String × Value)), ObjectText s ms →
    ObjectText s' more → (∀ m ∈ ms', m ∈ ms ∨ m ∈ more) → ∃ t, ObjectText t ms'
  /-- The text of an object is read as the signal that its members say, and not at all if they say
  none. -/
  said : ∀ (s : Bytes) (ms : List (String × Value)) (f : Signal), ObjectText s ms →
    (decode s = .ok f ↔ f.IsSaidBy ms)
  /-- A text of an object with the same members in any order, and with any others that have none of
  the keys of the signal, is read as the same signal. A connection does the same about both. -/
  same : ∀ (s s' : Bytes) (ms ms' more : List (String × Value)) (f : Signal),
    ObjectText s ms → ObjectText s' ms' → decode s = .ok f → (∀ m ∈ more, m.1 ∉ f.keys) →
    ms'.Perm (ms ++ more) →
      decode s' = .ok f ∧
        ∀ (sender : UserId) (m m' : Inbound), m.content? = some s → m'.content? = some s' →
          Reader.react sender m' = Reader.react sender m
  /-- A typing signal is passed on to the user that it names. What this user is told is that the one
  to whom the connection belongs is typing in the chat. -/
  typing : ∀ (s : Bytes) (ms : List (String × Value)) (chat : ChatId) (sender receiver : UserId)
    (m : Inbound), ObjectText s ms → (Signal.typing chat receiver).IsSaidBy ms →
    m.content? = some s →
      Reader.react sender m = .relay receiver (.typing chat sender) ∧
        Tells (.typing chat sender) "typing" [("chat_id", chat), ("user_id", sender)]
  /-- So is a signal of delivery, with the message that has arrived. -/
  delivered : ∀ (s : Bytes) (ms : List (String × Value)) (chat : ChatId) (sender receiver : UserId)
    (message : MessageId) (m : Inbound), ObjectText s ms →
    (Signal.delivered chat receiver message).IsSaidBy ms → m.content? = some s →
      Reader.react sender m = .relay receiver (.delivered chat sender message) ∧
        Tells (.delivered chat sender message) "delivered"
          [("chat_id", chat), ("user_id", sender), ("message_id", message)]
  /-- What a connection passes on names as the user the one to whom the connection belongs. -/
  sender : ∀ (sender receiver : UserId) (m : Inbound) (notice : Notice),
    Reader.react sender m = .relay receiver notice → NamesUser notice sender
  /-- A signal of any other kind is read whatever else its object holds, and goes nowhere. -/
  ignored : ∀ (s : Bytes) (ms : List (String × Value)) (w : String), ObjectText s ms →
    onlyValue? tagKey ms = some (.text w) → w ≠ "typing" → w ≠ "delivered" →
      decode s = .ok .unknown ∧
        ∀ (sender : UserId) (m : Inbound), m.content? = some s → Reader.react sender m = .ignore

/-- **Only what its members say matters about a signal.** -/
theorem unmistakable : Unmistakable where
  object s r f hbrace h := by
    unfold decode at h
    split at h
    · exact absurd h nofun
    next hparse =>
    obtain ⟨ms, hms, -⟩ := exists_of_parseTagged hbrace hparse
    exact ⟨ms, hms⟩
  unique s ms ms' h h' := h.unique h'
  written s s' ms ms' more h hmore hmem := h.exists_text hmore hmem
  said s ms f h := decode_eq_ok_iff h
  same s s' ms ms' more f h h' hread hmore hperm := by
    have hread' : decode s' = .ok f :=
      (decode_eq_ok_iff h').2 (((decode_eq_ok_iff h).1 hread).of_perm hmore hperm)
    refine ⟨hread', fun sender m m' hm hm' => ?_⟩
    rw [react_of_content hm, react_of_content hm', reactToContent_congr hread hread']
  typing s ms chat sender receiver m h hsaid hm := by
    rw [react_of_content hm]
    exact ⟨reactToContent_of_relay ((decode_eq_ok_iff h).2 hsaid) rfl, tells_typing chat sender⟩
  delivered s ms chat sender receiver message m h hsaid hm := by
    rw [react_of_content hm]
    exact ⟨reactToContent_of_relay ((decode_eq_ok_iff h).2 hsaid) rfl,
      tells_delivered chat sender message⟩
  sender _ _ _ _ h := by
    obtain ⟨f, hrelay⟩ := exists_of_react h
    exact namesUser_of_relay hrelay
  ignored s ms w h htag htyping hdelivered := by
    have hread : decode s = .ok .unknown :=
      (decode_eq_ok_iff h).2 ⟨w, htag, htyping, hdelivered⟩
    refine ⟨hread, fun sender m hm => ?_⟩
    rw [react_of_content hm, reactToContent_unknown hread]

end Signal

end Rendezvous
