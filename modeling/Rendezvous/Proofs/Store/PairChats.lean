import Mathlib.Data.List.Basic
import Mathlib.Data.List.Induction
import Rendezvous.Proofs.Store.Chronicle

/-!
# One chat for a pair

The chat of two users is asked for in two ways, in order to write or because of a match, and by
either of the two. Whoever asks first opens it, and everybody who asks for it later is told the same
chat (`Annals.one_chat_per_pair`). This is so in every history, hence also if many ask at once.

## What carries it

The table of the pairs says everything that was ever replied about a pair. A pair without a chat was
never asked for, and a pair with one was told of it in all replies, in the first one as of a new
chat (`Annals.repliesAbout_cases`). That different pairs have different chats, and that a chat can
be looked up under its number, is how the tables fit together, and holds as long as the numbers
last.
-/

namespace Rendezvous

/-- What was replied about the chat of a pair, if the request was for it. -/
def StoreReply.about? (p : UserId × UserId) :
    StoreReply → Option (Except StoreError (ChatId × Bool))
  | ⟨.openChat a b, answer⟩ => if orderedPair a b = p then some answer else none
  | ⟨.openMatch a b _, answer⟩ => if orderedPair a b = p then some answer else none
  | _ => none

namespace Records

variable {t : Records} {now : Timestamp} {p : UserId × UserId}

/-- A request that opens no chat for a pair leaves the pair as it is. -/
theorem get?_chatOfPair_of_not_opened {r : StoreRequest}
    (h : ∀ id, r.opened? (t.answer now r).1 ≠ some (p, id)) :
    (t.answer now r).2.chatOfPair.get? p = t.chatOfPair.get? p :=
  Option.ext fun id => (t.get?_chatOfPair_answer now r).trans (or_iff_left (h id))

/-- **The chat of a pair is found or opened**, and is its chat from then on. -/
def Tells (t : Records) (p : UserId × UserId)
    (out : Except StoreError (ChatId × Bool) × Records) : Prop :=
  (∃ id, t.chatOfPair.get? p = some id ∧ out.1 = .ok (id, false) ∧
    out.2.chatOfPair.get? p = some id) ∨
  (t.chatOfPair.get? p = none ∧ ∃ id, out.1 = .ok (id, true) ∧
    out.2.chatOfPair.get? p = some id)

theorem tells_openChat {a b : UserId} (hne : a ≠ b) :
    t.Tells (orderedPair a b) (t.openChat now a b) := by
  rcases t.openChat_cases now a b with ⟨he, -⟩ | ⟨-, id, hid, ho⟩ | ⟨-, hnew, ho⟩
  · exact absurd he hne
  · exact Or.inl ⟨id, hid, by rw [ho], by rw [ho, hid]⟩
  · refine Or.inr ⟨hnew, t.lastChat + 1, by rw [ho], ?_⟩
    rw [ho]
    exact (get?_chatOfPair_filed hnew).2 (Or.inr ⟨rfl, rfl⟩)

theorem tells_openMatch {a b : UserId} {content : String} (hne : a ≠ b) :
    t.Tells (orderedPair a b) (t.openMatch now a b content) := by
  rcases t.openMatch_cases now a b content with ⟨he, -⟩ | ⟨-, id, hid, ho⟩ | ⟨-, hnew, ho⟩
  · exact absurd he hne
  · exact Or.inl ⟨id, hid, by rw [ho], by rw [ho, hid]⟩
  · refine Or.inr ⟨hnew, t.lastChat + 1, by rw [ho], ?_⟩
    rw [ho, chatOfPair_stored]
    exact (get?_chatOfPair_filed hnew).2 (Or.inr ⟨rfl, rfl⟩)

/-- **What a request has to do with a pair**: nothing, or it is for the chat of the pair, which is
found or opened. -/
theorem about?_cases (t : Records) (now : Timestamp) (r : StoreRequest) (hp : p.1 ≠ p.2) :
    (StoreReply.about? p ⟨r, (t.answer now r).1⟩ = none ∧
      (t.answer now r).2.chatOfPair.get? p = t.chatOfPair.get? p) ∨
    ∃ told, StoreReply.about? p ⟨r, (t.answer now r).1⟩ = some told ∧
      t.Tells p (told, (t.answer now r).2) := by
  cases r with
  | openChat a b =>
    by_cases hab : orderedPair a b = p
    · subst hab
      exact Or.inr ⟨_, if_pos rfl, tells_openChat fun e => hp (orderedPair_fst_eq_snd.2 e)⟩
    · refine Or.inl ⟨if_neg hab, get?_chatOfPair_of_not_opened fun id ho => hab ?_⟩
      exact (StoreRequest.opened?_openChat.1 ho).1.symm
  | openMatch a b content =>
    by_cases hab : orderedPair a b = p
    · subst hab
      exact Or.inr ⟨_, if_pos rfl, tells_openMatch fun e => hp (orderedPair_fst_eq_snd.2 e)⟩
    · refine Or.inl ⟨if_neg hab, get?_chatOfPair_of_not_opened fun id ho => hab ?_⟩
      exact (StoreRequest.opened?_openMatch.1 ho).1.symm
  | _ =>
    refine Or.inl ⟨rfl, get?_chatOfPair_of_not_opened fun id ho => ?_⟩
    simp [StoreRequest.opened?] at ho

end Records

namespace Annals

variable {events : List StoreEvent} {p : UserId × UserId} {a b : UserId} {id : ChatId}

/-- What was replied about the chat of a pair, in its order. -/
def repliesAbout (a : Annals) (p : UserId × UserId) (events : List StoreEvent) :
    List (Except StoreError (ChatId × Bool)) :=
  (a.replies events).filterMap (·.about? p)

theorem repliesAbout_concat (a : Annals) (p : UserId × UserId) (events : List StoreEvent)
    (e : StoreEvent) :
    a.repliesAbout p (events ++ [e]) =
      a.repliesAbout p events ++ (((a.through events).reply? e).bind (·.about? p)).toList := by
  unfold repliesAbout
  rw [replies_concat, List.filterMap_append]
  cases (a.through events).reply? e with
  | none => rfl
  | some r => cases h : r.about? p <;> simp [h]

/-- **The table of the pairs knows what was replied**: a pair without a chat was never asked for,
and of the chat that a pair has it was told in every reply, in the first one as of a new chat. -/
theorem repliesAbout_cases (hp : p.1 ≠ p.2) (events : List StoreEvent) :
    (empty.repliesAbout p events = [] ∧
      (empty.through events).records.chatOfPair.get? p = none) ∨
    ∃ id n, empty.repliesAbout p events = .ok (id, true) :: List.replicate n (.ok (id, false)) ∧
      (empty.through events).records.chatOfPair.get? p = some id := by
  induction events using List.reverseRecOn with
  | nil => exact Or.inl ⟨rfl, rfl⟩
  | append_singleton events e ih =>
    rw [repliesAbout_concat, through_concat]
    cases e with
    | granted token user =>
      rw [reply?, Option.bind_none, Option.toList_none, List.append_nil]
      exact ih
    | asked d =>
      rw [reply?, Option.bind_some, answer_fst]
      rcases Records.about?_cases (empty.through events).records d.now d.request hp with
        ⟨hnone, hsame⟩ | ⟨told, htold, hcases⟩
      · rw [hnone, Option.toList_none, List.append_nil]
        refine ih.imp (fun ⟨hnil, hget⟩ => ⟨hnil, hsame.trans hget⟩) ?_
        rintro ⟨id, n, heq, hget⟩
        exact ⟨id, n, heq, hsame.trans hget⟩
      · rw [htold, Option.toList_some]
        refine Or.inr ?_
        -- whether the chat is found or opened goes with whether the pair was asked for before
        rcases hcases with ⟨id, hget, rfl, hafter⟩ | ⟨hget, id, rfl, hafter⟩
        · rcases ih with ⟨-, hno⟩ | ⟨id', n, heq, hget'⟩
          · exact absurd (hget.symm.trans hno) (by simp)
          · obtain rfl : id = id' := Option.some.inj (hget.symm.trans hget')
            exact ⟨id, n + 1, by rw [heq, List.replicate_succ', List.cons_append], hafter⟩
        · rcases ih with ⟨hnil, -⟩ | ⟨id', n, -, hget'⟩
          · exact ⟨id, 0, by rw [hnil]; rfl, hafter⟩
          · exact absurd (hget.symm.trans hget') (by simp)

/-- A pair has the chat of which it was told. -/
theorem get?_chatOfPair_of_mem (hp : p.1 ≠ p.2) {made : Bool}
    (h : .ok (id, made) ∈ empty.repliesAbout p events) :
    (empty.through events).records.chatOfPair.get? p = some id := by
  rcases repliesAbout_cases hp events with ⟨hnil, -⟩ | ⟨id', n, heq, hget⟩
  · rw [hnil] at h
    exact absurd h List.not_mem_nil
  · have hid : id = id' := by
      rw [heq] at h
      rcases List.mem_cons.1 h with h | h
      · exact (Prod.mk.inj (Except.ok.inj h)).1
      · exact (Prod.mk.inj (Except.ok.inj (List.eq_of_mem_replicate h))).1
    rw [hid, hget]

/-- **A pair has one chat.** What is said of the numbers of chats is for as long as these last. -/
structure OneChatPerPair (events : List StoreEvent) : Prop where
  /-- The first reply about the chat of a pair is that it was opened, and all others are that it is
  there; every reply names the same chat. -/
  one_creator : ∀ a b, a ≠ b → empty.repliesAbout (orderedPair a b) events = [] ∨
    ∃ id n, empty.repliesAbout (orderedPair a b) events =
      .ok (id, true) :: List.replicate n (.ok (id, false))
  /-- Different pairs are told of different chats. -/
  different : (empty.through events).HasRoom → ∀ a b c d id made made', a ≠ b → c ≠ d →
    .ok (id, made) ∈ empty.repliesAbout (orderedPair a b) events →
    .ok (id, made') ∈ empty.repliesAbout (orderedPair c d) events →
    (a = c ∧ b = d) ∨ (a = d ∧ b = c)
  /-- Whoever looks for the chat of which a pair was told finds it under its number, with the lesser
  user first. -/
  found : (empty.through events).HasRoom → ∀ a b id made, a ≠ b →
    .ok (id, made) ∈ empty.repliesAbout (orderedPair a b) events → ∀ now,
    (orderedPair a b).1 < (orderedPair a b).2 ∧
      ∃ since, ((empty.through events).answer now (.chat id)).1 =
        .ok (some ⟨id, (orderedPair a b).1, (orderedPair a b).2, since⟩)

/-- **In every history, a pair has one chat**, opened for the first who asked for it. -/
theorem one_chat_per_pair (events : List StoreEvent) : OneChatPerPair events where
  one_creator a b hne := by
    have hp : (orderedPair a b).1 ≠ (orderedPair a b).2 := fun e => hne (orderedPair_fst_eq_snd.1 e)
    refine (repliesAbout_cases hp events).imp And.left ?_
    rintro ⟨id, n, heq, -⟩
    exact ⟨id, n, heq⟩
  different hroom a b c d id made made' hab hcd h h' := by
    have hsound := (kept_through hroom).sound
    have hget := get?_chatOfPair_of_mem (fun e => hab (orderedPair_fst_eq_snd.1 e)) h
    have hget' := get?_chatOfPair_of_mem (fun e => hcd (orderedPair_fst_eq_snd.1 e)) h'
    obtain ⟨-, since, hchat⟩ := hsound.chat_of_pair _ _ _ hget
    obtain ⟨-, since', hchat'⟩ := hsound.chat_of_pair _ _ _ hget'
    -- the chat of this number is that of both pairs
    rw [hchat, Option.some.injEq, Chat.mk.injEq] at hchat'
    exact orderedPair_eq_iff.1 (Prod.ext hchat'.2.1 hchat'.2.2.1)
  found hroom a b id made hne h now := by
    have hget := get?_chatOfPair_of_mem (fun e => hne (orderedPair_fst_eq_snd.1 e)) h
    obtain ⟨hlt, since, hchat⟩ := (kept_through hroom).sound.chat_of_pair _ _ _ hget
    exact ⟨hlt, since, congrArg Except.ok hchat⟩

/-- The chat of two users is asked for by either of them, also because of a match. -/
example : empty.repliesAbout (2, 4) [.asked ⟨⟨0, 0⟩, .openChat 4 2⟩, .asked ⟨⟨1, 0⟩, .openChat 4 9⟩,
    .asked ⟨⟨2, 0⟩, .openMatch 2 4 "hello"⟩, .asked ⟨⟨3, 0⟩, .openChat 2 4⟩] =
      [.ok (1, true), .ok (1, false), .ok (1, false)] := by
  decide

end Annals

end Rendezvous
