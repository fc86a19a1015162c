import Mathlib.Data.List.Basic
import Mathlib.Data.List.Induction
import Rendezvous.Proofs.Store.Permanence

/-!
# What has happened at the store

Whoever uses the store asks it one thing after another, and gets replies. Now and then somebody is
given a bearer token as well. A *history* is a list of all this in its order, whoever has done it
and on whose behalf: since the store does each thing as a whole, any number of users at once come to
some history.

`Annals.through` is what a history leads to, and `Annals.replies` is what was replied in its course.
Later modules relate the two: the replies that were given to each other, and to what the tables hold
in the end.

## Logs

A log goes on behind what stood in it. Some of that may be marked read, and nothing else of it
changes (`Records.Continues`). A message that comes in gets the number after the last one, so that,
as long as the numbers last, it is greater than any number that was given out in any log
(`Annals.continues_through`).
-/

namespace Rendezvous

/-- What happens at the store. -/
inductive StoreEvent where
  /-- A request is answered. -/
  | asked (deed : Deed)
  /-- A bearer token is given to a user. -/
  | granted (token : String) (user : UserId)

/-- A request with the reply to it. -/
structure StoreReply where
  /-- What was asked. -/
  request : StoreRequest
  /-- What was replied. -/
  answer : Except StoreError request.Answer

namespace Annals

variable {a : Annals} {e : StoreEvent} {events later : List StoreEvent}

/-! ### Histories -/

/-- The annals after something has happened. -/
def happen (a : Annals) : StoreEvent → Annals
  | .asked d => (a.answer d.now d.request).2
  | .granted token user => { a with records := a.records.grant token user }

/-- The reply, if something was asked. -/
def reply? (a : Annals) : StoreEvent → Option StoreReply
  | .asked d => some ⟨d.request, (a.answer d.now d.request).1⟩
  | .granted .. => none

/-- The annals after a history. -/
def through (a : Annals) (events : List StoreEvent) : Annals :=
  events.foldl happen a

/-- What is replied in the course of a history. -/
def replies (a : Annals) : List StoreEvent → List StoreReply
  | [] => []
  | e :: rest => (a.reply? e).toList ++ (a.happen e).replies rest

/-- The counts have nothing to do with the reply. -/
@[simp] theorem answer_fst (a : Annals) (now : Timestamp) (r : StoreRequest) :
    (a.answer now r).1 = (a.records.answer now r).1 := rfl

@[simp] theorem through_nil (a : Annals) : a.through [] = a := rfl

@[simp] theorem through_cons (a : Annals) (e : StoreEvent) (events : List StoreEvent) :
    a.through (e :: events) = (a.happen e).through events := rfl

theorem through_append (a : Annals) (events later : List StoreEvent) :
    a.through (events ++ later) = (a.through events).through later :=
  List.foldl_append

theorem through_concat (a : Annals) (events : List StoreEvent) (e : StoreEvent) :
    a.through (events ++ [e]) = (a.through events).happen e :=
  through_append a events [e]

theorem replies_concat (a : Annals) (events : List StoreEvent) (e : StoreEvent) :
    a.replies (events ++ [e]) = a.replies events ++ ((a.through events).reply? e).toList := by
  induction events generalizing a with
  | nil => simp [replies]
  | cons e' events ih => simp [replies, ih]

/-- What lasts afterwards has lasted before. -/
theorem HasRoom.of_happen (h : (a.happen e).HasRoom) : a.HasRoom := by
  cases e with
  | asked d => exact HasRoom.of_answer h
  | granted token user => exact h

theorem HasRoom.of_through (h : (a.through events).HasRoom) : a.HasRoom := by
  induction events generalizing a with
  | nil => exact h
  | cons e events ih => exact (ih h).of_happen

/-- No numbers are given back. -/
theorem stored_le_happen (a : Annals) (e : StoreEvent) : a.stored ≤ (a.happen e).stored := by
  cases e with
  | asked d => exact Nat.le_add_right ..
  | granted token user => exact Nat.le_refl _

/-- Bearer tokens have nothing to do with how the tables fit together. -/
theorem Kept.grant (h : a.Kept) (token : String) (user : UserId) :
    (a.happen (.granted token user)).Kept :=
  ⟨{ h.sound with }, h.chats, h.messages⟩

/-- **Whatever happens keeps the invariant**, as long as the numbers last. -/
theorem Kept.happen (h : a.Kept) (hroom : (a.happen e).HasRoom) : (a.happen e).Kept := by
  cases e with
  | asked d => exact h.answer d.request hroom
  | granted token user => exact h.grant token user

theorem Kept.through (h : a.Kept) (hroom : (a.through events).HasRoom) :
    (a.through events).Kept := by
  induction events generalizing a with
  | nil => exact h
  | cons e events ih => exact ih (h.happen (HasRoom.of_through hroom)) hroom

/-- **The invariant holds after any history**, as long as the numbers last. -/
theorem kept_through (hroom : (empty.through events).HasRoom) : (empty.through events).Kept :=
  kept_empty.through hroom

end Annals

/-! ### Logs that go on -/

namespace Records

variable {t t' t'' : Records} {now : Timestamp} {new new' : MessageId → Prop}

/-- **The logs go on**: each begins with what stood in it, at most marked read, and behind that
there are only messages with new numbers. -/
def Continues (new : MessageId → Prop) (t t' : Records) : Prop :=
  ∀ id, ∃ p rest, t'.log id = (t.log id).map (marked p) ++ rest ∧ ∀ m ∈ rest, new m.id

theorem continues_of_log (h : ∀ id, t'.log id = t.log id) : t.Continues new t' :=
  fun id => ⟨fun _ => false, [], by rw [h, map_marked_false, List.append_nil], by simp⟩

theorem Continues.mono (h : t.Continues new t') (hnew : ∀ n, new n → new' n) :
    t.Continues new' t' := by
  intro id
  obtain ⟨p, rest, hlog, hrest⟩ := h id
  exact ⟨p, rest, hlog, fun m hm => hnew m.id (hrest m hm)⟩

theorem Continues.trans (h : t.Continues new t') (h' : t'.Continues new t'') :
    t.Continues new t'' := by
  intro id
  obtain ⟨p, rest, hlog, hrest⟩ := h id
  obtain ⟨q, rest', hlog', hrest'⟩ := h' id
  refine ⟨fun m => p m || q (marked p m), rest.map (marked q) ++ rest', ?_, ?_⟩
  · simp [hlog', hlog, marked_marked]
  · intro m hm
    rcases List.mem_append.1 hm with hm | hm
    · obtain ⟨m', hm', rfl⟩ := List.mem_map.1 hm
      exact hrest m' hm'
    · exact hrest' m hm

/-- A message stays, and so does everything that it says. -/
theorem Continues.mem (h : t.Continues new t') {id : ChatId} {m : Message} (hm : m ∈ t.log id) :
    ∃ p, marked p m ∈ t'.log id := by
  obtain ⟨p, rest, hlog, -⟩ := h id
  exact ⟨p, hlog ▸ List.mem_append_left _ (List.mem_map_of_mem hm)⟩

theorem continues_stored (m : PendingMessage) :
    t.Continues (· = t.lastMessage + 1) (t.stored now m) := by
  intro id
  rw [log_stored]
  split
  · next he =>
    subst he
    exact ⟨fun _ => false, [t.nextMessage now m], by rw [map_marked_false], by simp [nextMessage]⟩
  · exact ⟨fun _ => false, [], by rw [map_marked_false, List.append_nil], by simp⟩

theorem continues_markWhere (chat : ChatId) (p : Message → Bool) :
    t.Continues new (t.markWhere chat p).2 := by
  intro id
  rcases log_markWhere_cases (t := t) chat id p with he | ⟨q, he⟩ <;> rw [he]
  · exact ⟨fun _ => false, [], by rw [map_marked_false, List.append_nil], by simp⟩
  · exact ⟨q, [], by rw [List.append_nil], by simp⟩

/-- **Every request lets the logs go on**, and a message comes in with the next number, if the
answer says so. -/
theorem continues_answer (t : Records) (now : Timestamp) (r : StoreRequest) :
    t.Continues (fun n => n = t.lastMessage + 1 ∧ r.messagesStored (t.answer now r).1 = 1)
      (t.answer now r).2 := by
  have heffect := t.answer_effect now r
  generalize t.answer now r = out at heffect ⊢
  cases heffect with
  | marked hquiet chat p => exact continues_markWhere chat p
  | @matched a b content hne hnew =>
    have hlog : ∀ id, (t.filed now (orderedPair a b)).log id = t.log id := fun _ => rfl
    exact (continues_of_log hlog).trans ((continues_stored _).mono fun n hn => ⟨hn, rfl⟩)
  | appended hchat hne hof => exact (continues_stored _).mono fun n hn => ⟨hn, rfl⟩
  | _ => exact continues_of_log fun _ => rfl

end Records

namespace Annals

variable {a : Annals} {e : StoreEvent} {events : List StoreEvent}

theorem continues_happen (a : Annals) (e : StoreEvent) :
    a.records.Continues
      (fun n => n = a.records.lastMessage + 1 ∧ (a.happen e).stored = a.stored + 1)
      (a.happen e).records := by
  cases e with
  | asked d =>
    exact (a.records.continues_answer d.now d.request).mono fun n ⟨hn, hone⟩ =>
      ⟨hn, congrArg (a.stored + ·) hone⟩
  | granted token user => exact Records.continues_of_log fun _ => rfl

/-- **Through any history the tables only grow**, as long as the numbers last. -/
theorem Kept.extends_through (h : a.Kept) (hroom : (a.through events).HasRoom) :
    a.records.Extends (a.through events).records := by
  induction events generalizing a with
  | nil => exact .refl _
  | cons e events ih =>
    have hnow : (a.happen e).HasRoom := HasRoom.of_through hroom
    refine Records.Extends.trans ?_ (ih (h.happen hnow) hroom)
    cases e with
    | asked d => exact h.answer_extends d.request hnow
    | granted token user => exact ⟨fun _ _ hc => hc, (Records.Extends.refl _).log⟩

/-- The logs go on through any history. -/
theorem continues_through (a : Annals) (events : List StoreEvent) :
    a.records.Continues (fun _ => True) (a.through events).records := by
  induction events generalizing a with
  | nil => exact Records.continues_of_log fun _ => rfl
  | cons e events ih => exact ((continues_happen a e).mono fun _ _ => trivial).trans (ih _)

/-- **The numbers of new messages are new**: greater than as many as were stored before. -/
theorem Kept.continues_through (h : a.Kept) (hroom : (a.through events).HasRoom) :
    a.records.Continues (fun n => (a.stored : Int) < n.toInt) (a.through events).records := by
  induction events generalizing a with
  | nil => exact Records.continues_of_log fun _ => rfl
  | cons e events ih =>
    have hnow : (a.happen e).HasRoom := HasRoom.of_through hroom
    have hlater := ih (h.happen hnow) hroom
    have hle := a.stored_le_happen e
    refine ((a.continues_happen e).mono ?_).trans (hlater.mono fun n hn => by omega)
    rintro n ⟨rfl, hone⟩
    have hlt : a.stored + 1 < 2 ^ 63 := hone ▸ hnow.2
    rw [toInt_add_one h.messages hlt]
    omega

/-- The numbers of the messages that there are say that they were stored before. -/
theorem Kept.toInt_le (h : a.Kept) {id : ChatId} {m : Message} (hm : m ∈ a.records.log id) :
    m.id.toInt ≤ a.stored := by
  rw [← h.messages]
  exact Int64.le_iff_toInt_le.1 (h.sound.message_range id m hm).2

end Annals

end Rendezvous
