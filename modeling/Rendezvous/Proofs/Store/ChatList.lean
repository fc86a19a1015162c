import Mathlib.Data.List.Sort
import Rendezvous.Proofs.Store.Soundness

/-!
# The list of chats

A user sees the chats in which the user takes part, the latest news first, and of equally late ones
the greater number. The numbers of chats are all different, so this order leaves nothing open: what
the list shows depends only on which chats of the user there are and on what stands in their logs,
and not on the order in which the tables keep them (`Records.chatsOf_congr`).
-/

namespace Rendezvous.Records

variable {t t' : Records} {user : UserId}

/-! ### The order -/

/-- **The order of the list** compares the seconds of the latest news, then the nanoseconds, then
the numbers of the chats. -/
theorem precedes_iff {a b : ChatView} :
    chatsOf.precedes a b = true ↔ b.newsAt.second < a.newsAt.second ∨
      (b.newsAt.second = a.newsAt.second ∧ (b.newsAt.nano < a.newsAt.nano ∨
        (b.newsAt.nano = a.newsAt.nano ∧ b.id.toInt ≤ a.id.toInt))) := by
  simp only [chatsOf.precedes, Timestamp.before, Bool.or_eq_true, Bool.and_eq_true,
    Bool.not_eq_true', Bool.or_eq_false_iff, Bool.and_eq_false_iff, decide_eq_true_eq,
    decide_eq_false_iff_not, beq_iff_eq, beq_eq_false_iff_ne, Int64.le_iff_toInt_le]
  omega

theorem precedes_trans (a b c : ChatView) (h : chatsOf.precedes a b = true)
    (h' : chatsOf.precedes b c = true) : chatsOf.precedes a c = true := by
  rw [precedes_iff] at h h' ⊢
  omega

theorem precedes_total (a b : ChatView) :
    (chatsOf.precedes a b || chatsOf.precedes b a) = true := by
  rw [Bool.or_eq_true, precedes_iff, precedes_iff]
  omega

/-- Two chats of which each may come before the other have the same number. -/
theorem id_eq_of_precedes {a b : ChatView} (h : chatsOf.precedes a b = true)
    (h' : chatsOf.precedes b a = true) : a.id = b.id := by
  rw [precedes_iff] at h h'
  exact Int64.toInt_inj.1 (by omega)

/-! ### What the list shows -/

/-- A chat is kept under its own number. -/
theorem Sound.id_eq (h : t.Sound) {id : ChatId} {chat : Chat} (hc : t.chats.get? id = some chat) :
    chat.id = id := by
  obtain ⟨-, since, hc'⟩ := h.chat_of_pair _ _ _ (h.pair_of_chat id chat hc)
  rw [hc] at hc'
  exact congrArg Chat.id (Option.some.inj hc')

theorem mem_values {chat : Chat} : chat ∈ t.chats.values ↔ ∃ id, t.chats.get? id = some chat := by
  simp [Table.values, ← Table.mem_entries]

/-- What a user sees of a chat has the number of the chat, and the user takes part in it. -/
theorem summary?_eq_some {chat : Chat} {v : ChatView} (h : t.summary? user chat = some v) :
    v.id = chat.id ∧ chat.hasMember user = true := by
  obtain ⟨other, hother, rfl⟩ := Option.map_eq_some_iff.1 h
  refine ⟨rfl, ?_⟩
  rw [← Chat.isSome_other?, hother]
  rfl

/-- What a user sees of a chat depends only on its log. -/
theorem summary?_congr {chat : Chat} (h : t.log chat.id = t'.log chat.id) :
    t.summary? user chat = t'.summary? user chat := by
  unfold summary?
  rw [h]

/-- No number comes twice among the chats that a user sees. -/
theorem Sound.pairwise_views (h : t.Sound) (user : UserId) :
    (t.chats.values.filterMap (t.summary? user)).Pairwise fun a b => a.id ≠ b.id := by
  have hvalues : t.chats.values.Pairwise fun c c' => c.id ≠ c'.id := by
    refine List.pairwise_map.2 ((List.pairwise_map.1 t.chats.distinct).imp_of_mem ?_)
    intro e e' he he' hne
    rwa [h.id_eq (Table.mem_entries.1 he), h.id_eq (Table.mem_entries.1 he')]
  refine hvalues.filterMap _ ?_
  intro c c' hne v hv v' hv'
  rwa [(summary?_eq_some hv).1, (summary?_eq_some hv').1]

/-- A user sees the same of two tables that have the same chats of the user, with the same logs. -/
theorem mem_views_congr (h : t.Sound)
    (hchat : ∀ id chat, chat.hasMember user = true →
      (t.chats.get? id = some chat ↔ t'.chats.get? id = some chat))
    (hlog : ∀ id chat, t.chats.get? id = some chat → chat.hasMember user = true →
      t.log id = t'.log id) (v : ChatView) :
    v ∈ t.chats.values.filterMap (t.summary? user) ↔
      v ∈ t'.chats.values.filterMap (t'.summary? user) := by
  have hsummary : ∀ {id chat}, t.chats.get? id = some chat → chat.hasMember user = true →
      t.summary? user chat = t'.summary? user chat := by
    intro id chat hc huser
    have he := hlog id chat hc huser
    rw [← h.id_eq hc] at he
    exact summary?_congr he
  simp only [List.mem_filterMap, mem_values]
  constructor
  · rintro ⟨chat, ⟨id, hc⟩, hv⟩
    have huser := (summary?_eq_some hv).2
    exact ⟨chat, ⟨id, (hchat id chat huser).1 hc⟩, (hsummary hc huser).symm.trans hv⟩
  · rintro ⟨chat, ⟨id, hc'⟩, hv⟩
    have huser := (summary?_eq_some hv).2
    have hc := (hchat id chat huser).2 hc'
    exact ⟨chat, ⟨id, hc⟩, (hsummary hc huser).trans hv⟩

/-- **The list of chats is determined** by the chats of the user and their logs. -/
theorem chatsOf_congr (h : t.Sound) (h' : t'.Sound)
    (hchat : ∀ id chat, chat.hasMember user = true →
      (t.chats.get? id = some chat ↔ t'.chats.get? id = some chat))
    (hlog : ∀ id chat, t.chats.get? id = some chat → chat.hasMember user = true →
      t.log id = t'.log id) :
    t.chatsOf user = t'.chatsOf user := by
  have hmem := mem_views_congr h hchat hlog
  have hperm : (t.chats.values.filterMap (t.summary? user)).Perm
      (t'.chats.values.filterMap (t'.summary? user)) := by
    refine (List.perm_ext_iff_of_nodup ?_ ?_).2 hmem
    · exact (h.pairwise_views user).imp fun hne he => hne (congrArg ChatView.id he)
    · exact (h'.pairwise_views user).imp fun hne he => hne (congrArg ChatView.id he)
  -- two lists of the same chats in this order are the same
  unfold chatsOf
  refine List.Perm.eq_of_pairwise ?_ (List.pairwise_mergeSort precedes_trans precedes_total _)
    (List.pairwise_mergeSort precedes_trans precedes_total _)
    ((List.mergeSort_perm _ _).trans (hperm.trans (List.mergeSort_perm _ _).symm))
  intro a b ha hb hab hba
  rw [List.mem_mergeSort] at ha hb
  have hids : ((t.chats.values.filterMap (t.summary? user)).map (·.id)).Nodup :=
    List.pairwise_map.2 (h.pairwise_views user)
  exact List.inj_on_of_nodup_map hids ha ((hmem b).2 hb) (id_eq_of_precedes hab hba)

end Rendezvous.Records
