import Rendezvous.Proofs.Json.Records
import Rendezvous.Proofs.Time.Timestamps
import Rendezvous.Wire.Record

/-!
# Stored records on the wire

Chats, summaries of chats, messages and swipes are written with all their fields, and read from many
texts. A kind of record *survives* (`Wire.Survives`) when what is written of a record is read as
this record, and when this is so of every record that was read, be the text from elsewhere. All four
kinds do (`Wire.recordsSurvive`).

Numbers, texts and words are always read back. A point in time is read back if it is civil, and a
record that is read holds no other (`Timestamp.IsCivil`).
-/

namespace Rendezvous

open Json

/-- **A point in time of a year of four digits, and in no leap second.** -/
structure Timestamp.IsOrdinary (t : Timestamp) : Prop where
  /-- The year. -/
  year : 0 ≤ (CivilDate.ofDays (t.second / secondsPerDay)).year ∧
    (CivilDate.ofDays (t.second / secondsPerDay)).year ≤ 9999
  /-- The part of the second is less than a second. -/
  nano : t.nano < nanosPerSecond

/-- The last nanosecond of a leap day. -/
example : Timestamp.IsOrdinary ⟨1709251199, 999999999⟩ := ⟨by decide, by decide⟩

theorem Timestamp.IsOrdinary.isCivil {t : Timestamp} (h : t.IsOrdinary) : t.IsCivil := by
  refine ⟨?_, Or.inl h.nano⟩
  have hyear := h.year
  simp only [isDatable, Bool.and_eq_true, decide_eq_true_eq]
  omega

/-! ### Fields -/

theorem readsBack_timestamp {t : Timestamp} (h : t.IsCivil) :
    ReadsBack readTimestamp (Utf8.encode (writeTimestamp t)) t := by
  intro r _
  rw [readTimestamp, writeTimestamp, readText_writeText]
  dsimp only
  rw [Timestamp.read_write h]

theorem readsBack_authorship (kind : Authorship) :
    ReadsBack Authorship.read (Utf8.encode kind.encode) kind := by
  cases kind <;> exact readsBack_choice rfl

theorem readsBack_decision (action : Decision) :
    ReadsBack Decision.read (Utf8.encode action.encode) action := by
  cases action <;> exact readsBack_choice rfl

/-- A point in time that is read from a string is civil. -/
theorem isCivil_of_readTimestamp {s r : Bytes} {t : Timestamp} (h : readTimestamp s = .ok (t, r)) :
    t.IsCivil := by
  unfold readTimestamp at h
  split at h
  · exact absurd h nofun
  · split at h
    · next hread =>
      obtain ⟨rfl, -⟩ := Prod.mk.inj (Except.ok.inj h)
      exact Timestamp.isCivil_of_read hread
    · exact absurd h nofun

namespace Chat

theorem decode_encode {chat : Chat} (h : chat.createdAt.IsCivil) :
    decode (Utf8.encode chat.encode) = .ok chat :=
  Shape.parse_writeRecord
    (.cons rfl rfl ((readsBack_integer _).field _ _ _ _ _)
      (.cons rfl rfl ((readsBack_integer _).field _ _ _ _ _)
        (.cons rfl rfl ((readsBack_integer _).field _ _ _ _ _)
          (.cons rfl rfl ((readsBack_timestamp h).field _ _ _ _ _) (.nil _))))) rfl

/-- A draft of a chat holds only civil points in time. -/
theorem kept : shape.Kept fun d => ∀ t ∈ d.createdAt, t.IsCivil where
  blank := nofun
  read := by
    simp only [shape, List.forall_mem_cons]
    refine ⟨Field.keeps_untouched fun _ _ h => h, Field.keeps_untouched fun _ _ h => h,
      Field.keeps_untouched fun _ _ h => h, Field.keeps_of ?_, nofun⟩
    rintro d v s r - hread t ⟨⟩
    exact isCivil_of_readTimestamp hread

theorem isCivil_of_decode {s : Bytes} {chat : Chat} (h : decode s = .ok chat) :
    chat.createdAt.IsCivil := by
  obtain ⟨d, hd, hcomplete⟩ := kept.exists_draft h
  simp only [shape, bind, Option.bind_eq_some_iff] at hcomplete
  obtain ⟨id, -, user1, -, user2, -, createdAt, hcreatedAt, hchat⟩ := hcomplete
  obtain rfl := Option.some.inj hchat
  exact hd createdAt hcreatedAt

end Chat

namespace ChatView

theorem decode_encode {c : ChatView} (h : c.createdAt.IsCivil)
    (hlast : ∀ t ∈ c.lastAt, t.IsCivil) : decode (Utf8.encode c.encode) = .ok c := by
  have hcontent : ReadsBack (readOption readText)
      (Utf8.encode (writeOption writeText c.lastContent)) c.lastContent :=
    readsBack_option fun s _ => ⟨readsBack_text s, _, _, encode_writeText s, by decide, by decide⟩
  have hlastAt : ReadsBack (readOption readTimestamp)
      (Utf8.encode (writeOption writeTimestamp c.lastAt)) c.lastAt :=
    readsBack_option fun t ht =>
      ⟨readsBack_timestamp (hlast t ht), _, _, encode_writeText t.write, by decide, by decide⟩
  have hsender : ReadsBack (readOption readInteger)
      (Utf8.encode (writeOption writeInteger c.lastSender)) c.lastSender :=
    readsBack_option fun n _ => ⟨readsBack_integer n, writeInteger_starts n⟩
  exact Shape.parse_writeRecord
    (.cons rfl rfl ((readsBack_integer _).field _ _ _ _ _)
      (.cons rfl rfl ((readsBack_integer _).field _ _ _ _ _)
        (.cons rfl rfl ((readsBack_timestamp h).field _ _ _ _ _)
          (.cons rfl rfl (hcontent.field _ _ _ _ _)
            (.cons rfl rfl (hlastAt.field _ _ _ _ _)
              (.cons rfl rfl (hsender.field _ _ _ _ _)
                (.cons rfl rfl ((readsBack_integer _).field _ _ _ _ _) (.nil _)))))))) rfl

/-- A draft of a summary holds only civil points in time. -/
theorem kept : shape.Kept fun d =>
    (∀ t ∈ d.createdAt, t.IsCivil) ∧ ∀ t ∈ d.lastAt.join, t.IsCivil where
  blank := ⟨nofun, nofun⟩
  read := by
    simp only [shape, List.forall_mem_cons]
    refine ⟨Field.keeps_untouched fun _ _ h => h, Field.keeps_untouched fun _ _ h => h,
      Field.keeps_of ?_, Field.keeps_untouched fun _ _ h => h, Field.keeps_of ?_,
      Field.keeps_untouched fun _ _ h => h, Field.keeps_untouched fun _ _ h => h, nofun⟩
    · rintro d v s r ⟨-, hlast⟩ hread
      refine ⟨?_, hlast⟩
      rintro t ⟨⟩
      exact isCivil_of_readTimestamp hread
    · rintro d v s r ⟨hcreated, -⟩ hread
      refine ⟨hcreated, ?_⟩
      rintro t ⟨⟩
      obtain ⟨s', hread'⟩ := exists_read_of_readOption hread
      exact isCivil_of_readTimestamp hread'

theorem isCivil_of_decode {s : Bytes} {c : ChatView} (h : decode s = .ok c) :
    c.createdAt.IsCivil ∧ ∀ t ∈ c.lastAt, t.IsCivil := by
  obtain ⟨d, ⟨hd, hlast⟩, hcomplete⟩ := kept.exists_draft h
  simp only [shape, bind, Option.bind_eq_some_iff] at hcomplete
  obtain ⟨id, -, other, -, createdAt, hcreatedAt, unread, -, hview⟩ := hcomplete
  obtain rfl := Option.some.inj hview
  exact ⟨hd createdAt hcreatedAt, hlast⟩

end ChatView

namespace Message

theorem decode_encode {m : Message} (h : m.createdAt.IsCivil) :
    decode (Utf8.encode m.encode) = .ok m :=
  Shape.parse_writeRecord
    (.cons rfl rfl ((readsBack_integer _).field _ _ _ _ _)
      (.cons rfl rfl ((readsBack_integer _).field _ _ _ _ _)
        (.cons rfl rfl ((readsBack_integer _).field _ _ _ _ _)
          (.cons rfl rfl ((readsBack_integer _).field _ _ _ _ _)
            (.cons rfl rfl ((readsBack_text _).field _ _ _ _ _)
              (.cons rfl rfl ((readsBack_authorship _).field _ _ _ _ _)
                (.cons rfl rfl ((readsBack_flag _).field _ _ _ _ _)
                  (.cons rfl rfl ((readsBack_timestamp h).field _ _ _ _ _) (.nil _))))))))) rfl

/-- A draft of a message holds only civil points in time. -/
theorem kept : shape.Kept fun d => ∀ t ∈ d.createdAt, t.IsCivil where
  blank := nofun
  read := by
    simp only [shape, List.forall_mem_cons]
    refine ⟨Field.keeps_untouched fun _ _ h => h, Field.keeps_untouched fun _ _ h => h,
      Field.keeps_untouched fun _ _ h => h, Field.keeps_untouched fun _ _ h => h,
      Field.keeps_untouched fun _ _ h => h, Field.keeps_untouched fun _ _ h => h,
      Field.keeps_untouched fun _ _ h => h, Field.keeps_of ?_, nofun⟩
    rintro d v s r - hread t ⟨⟩
    exact isCivil_of_readTimestamp hread

theorem isCivil_of_decode {s : Bytes} {m : Message} (h : decode s = .ok m) :
    m.createdAt.IsCivil := by
  obtain ⟨d, hd, hcomplete⟩ := kept.exists_draft h
  simp only [shape, bind, Option.bind_eq_some_iff] at hcomplete
  obtain ⟨id, -, chat, -, sender, -, receiver, -, content, -, kind, -, isRead, -, createdAt,
    hcreatedAt, hmessage⟩ := hcomplete
  obtain rfl := Option.some.inj hmessage
  exact hd createdAt hcreatedAt

end Message

namespace Swipe

theorem decode_encode {swipe : Swipe} (h : swipe.createdAt.IsCivil) :
    decode (Utf8.encode swipe.encode) = .ok swipe :=
  Shape.parse_writeRecord
    (.cons rfl rfl ((readsBack_integer _).field _ _ _ _ _)
      (.cons rfl rfl ((readsBack_integer _).field _ _ _ _ _)
        (.cons rfl rfl ((readsBack_decision _).field _ _ _ _ _)
          (.cons rfl rfl ((readsBack_timestamp h).field _ _ _ _ _) (.nil _))))) rfl

/-- A draft of a swipe holds only civil points in time. -/
theorem kept : shape.Kept fun d => ∀ t ∈ d.createdAt, t.IsCivil where
  blank := nofun
  read := by
    simp only [shape, List.forall_mem_cons]
    refine ⟨Field.keeps_untouched fun _ _ h => h, Field.keeps_untouched fun _ _ h => h,
      Field.keeps_untouched fun _ _ h => h, Field.keeps_of ?_, nofun⟩
    rintro d v s r - hread t ⟨⟩
    exact isCivil_of_readTimestamp hread

theorem isCivil_of_decode {s : Bytes} {swipe : Swipe} (h : decode s = .ok swipe) :
    swipe.createdAt.IsCivil := by
  obtain ⟨d, hd, hcomplete⟩ := kept.exists_draft h
  simp only [shape, bind, Option.bind_eq_some_iff] at hcomplete
  obtain ⟨user, -, target, -, action, -, createdAt, hcreatedAt, hswipe⟩ := hcomplete
  obtain rfl := Option.some.inj hswipe
  exact hd createdAt hcreatedAt

end Swipe

/-! ### All kinds of records -/

/-- **A kind of record on the wire**: how it is written and read, and the points in time in it. -/
structure Wire (α : Type) where
  /-- The text of a record. -/
  encode : α → String
  /-- The record that a text writes. -/
  decode : Bytes → Except Fault α
  /-- The points in time in a record. -/
  moments : α → List Timestamp

namespace Wire

/-- Chats. -/
def chats : Wire Chat := ⟨Chat.encode, Chat.decode, fun c => [c.createdAt]⟩

/-- Chats as a user sees them. -/
def summaries : Wire ChatView :=
  ⟨ChatView.encode, ChatView.decode, fun c => c.createdAt :: c.lastAt.toList⟩

/-- Messages. -/
def messages : Wire Message := ⟨Message.encode, Message.decode, fun m => [m.createdAt]⟩

/-- Decisions about users. -/
def swipes : Wire Swipe := ⟨Swipe.encode, Swipe.decode, fun s => [s.createdAt]⟩

/-- **Records of a kind survive** the wire. -/
structure Survives {α : Type} (w : Wire α) : Prop where
  /-- A record of ordinary points in time is read from what is written of it. -/
  back : ∀ v, (∀ t ∈ w.moments v, t.IsOrdinary) → w.decode (Utf8.encode (w.encode v)) = .ok v
  /-- Every record that was read is read from what is written of it. -/
  again : ∀ s v, w.decode s = .ok v → w.decode (Utf8.encode (w.encode v)) = .ok v
  /-- What is written of a record that was read is written of the record that is read from it. -/
  stable : ∀ s v, w.decode s = .ok v →
    (w.decode (Utf8.encode (w.encode v))).map w.encode = .ok (w.encode v)

/-- Records survive when those of civil points in time do, and no others are read. -/
theorem survives_of_civil {α : Type} {encode : α → String} {decode : Bytes → Except Fault α}
    {moments : α → List Timestamp}
    (hback : ∀ v, (∀ t ∈ moments v, t.IsCivil) → decode (Utf8.encode (encode v)) = .ok v)
    (hread : ∀ s v, decode s = .ok v → ∀ t ∈ moments v, t.IsCivil) :
    Survives ⟨encode, decode, moments⟩ where
  back := fun v h => hback v fun t ht => (h t ht).isCivil
  again := fun s v h => hback v (hread s v h)
  stable := fun s v h => by
    dsimp only
    rw [hback v (hread s v h)]
    rfl

theorem chats_survive : chats.Survives := by
  refine survives_of_civil (fun chat h => ?_) fun s chat h t ht => ?_
  · exact Chat.decode_encode (h chat.createdAt (List.mem_singleton_self _))
  · obtain rfl := List.mem_singleton.1 ht
    exact Chat.isCivil_of_decode h

theorem summaries_survive : summaries.Survives := by
  refine survives_of_civil (fun c h => ?_) fun s c h t ht => ?_
  · exact ChatView.decode_encode (h c.createdAt List.mem_cons_self) fun t ht =>
      h t (List.mem_cons_of_mem _ (Option.mem_toList.2 ht))
  · obtain ⟨hcreated, hlast⟩ := ChatView.isCivil_of_decode h
    rcases List.mem_cons.1 ht with rfl | ht
    · exact hcreated
    · exact hlast t (Option.mem_toList.1 ht)

theorem messages_survive : messages.Survives := by
  refine survives_of_civil (fun m h => ?_) fun s m h t ht => ?_
  · exact Message.decode_encode (h m.createdAt (List.mem_singleton_self _))
  · obtain rfl := List.mem_singleton.1 ht
    exact Message.isCivil_of_decode h

theorem swipes_survive : swipes.Survives := by
  refine survives_of_civil (fun swipe h => ?_) fun s swipe h t ht => ?_
  · exact Swipe.decode_encode (h swipe.createdAt (List.mem_singleton_self _))
  · obtain rfl := List.mem_singleton.1 ht
    exact Swipe.isCivil_of_decode h

/-- **Stored records survive the wire**: chats, summaries of chats, messages and swipes. -/
theorem recordsSurvive :
    chats.Survives ∧ summaries.Survives ∧ messages.Survives ∧ swipes.Survives :=
  ⟨chats_survive, summaries_survive, messages_survive, swipes_survive⟩

end Wire

end Rendezvous
