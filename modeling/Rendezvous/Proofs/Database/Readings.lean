import Mathlib.Data.List.Basic
import Mathlib.Data.List.Sort
import Rendezvous.Proofs.Database.Queries
import Rendezvous.Proofs.Store.Pages
import Rendezvous.Proofs.Store.ReadMarks

/-!
# Reading in the process and in the database

Two stores answer what a service is asked, the tables in the process and the database. They come to
a page of a chat in different ways. The tables cut it out of a log that is in order. The database
has one table of all messages in no order at all; it looks for those of the chat, puts them in order
from the far end, stops when there are enough, and the service turns them round. They come to the
messages that are marked read in different ways, too, and the database names these in whatever order
it comes across them. Nobody can tell the difference (`Database.reads_agree`): as long as the same
messages are there, the same is replied, and the same messages are there afterwards.

Both have the same messages if the rows of the database are those of all logs, in any order
(`Records.messages`). Then its rows of one chat are those of the log (`Records.Sound.rows_of_chat`),
and messages in order that are those of a log are the log (`Ascending.eq_of_perm`).
-/

namespace Rendezvous

/-! ### Messages in order -/

variable {l l' : List Message}

/-- **The same messages in order** are the same list. -/
theorem Ascending.eq_of_perm (h : Ascending l) (hperm : l'.Perm l)
    (hsorted : l'.Pairwise fun m m' => m.id ≤ m'.id) : l' = l := by
  have hnodup : (l.map (·.id)).Nodup := List.pairwise_map.2 (h.imp Int64.ne_of_lt)
  refine hperm.eq_of_pairwise (fun m m' hm hm' hle hle' => ?_) hsorted (h.imp Int64.le_of_lt)
  exact List.inj_on_of_nodup_map hnodup (hperm.subset hm) hm' (Int64.le_antisymm hle hle')

namespace Records

variable {t : Records} {chat : ChatId} {p : Message → Bool}

/-! ### The messages of all chats -/

/-- **The messages of all chats** are those of one chat and those of the others. -/
theorem Sound.messages_perm (h : t.Sound) (chat : ChatId) :
    ∃ others, t.messages.Perm (t.log chat ++ others) ∧ (∀ m ∈ others, m.chat ≠ chat) ∧
      ∀ log, ({ t with logs := t.logs.insert chat log } : Records).messages.Perm
        (log ++ others) := by
  refine ⟨(t.logs.erase chat).values.flatten, ?_, fun m hm => ?_, fun log => ?_⟩
  · cases hl : t.logs.get? chat with
    | none => simpa [messages, log, hl] using ((Table.values_erase_perm hl).flatten).symm
    | some l => simpa [messages, log, hl] using (Table.values_perm hl).flatten
  · obtain ⟨l, hl, hm⟩ := List.mem_flatten.1 hm
    obtain ⟨⟨id, l'⟩, hentry, rfl⟩ := List.mem_map.1 hl
    have hget := Table.mem_entries.1 hentry
    -- the log is that of another chat, since the one of this chat is taken out
    have hne : id ≠ chat := by
      rintro rfl
      exact absurd hget (by simp)
    rw [Table.get?_erase_of_ne _ hne] at hget
    rw [(h.message_home id m (by simpa [Records.log, hget] using hm)).1]
    exact hne
  · simpa [messages] using (t.logs.values_insert_perm chat log).flatten

/-- **The rows of a chat** among those of all chats are those of its log. -/
theorem Sound.rows_of_chat (h : t.Sound) (chat : ChatId) (p : Message → Bool) :
    (t.messages.filter fun m => m.chat == chat && p m).Perm ((t.log chat).filter p) := by
  obtain ⟨others, hperm, hothers, -⟩ := h.messages_perm chat
  have hlog : (t.log chat).filter (fun m => m.chat == chat && p m) = (t.log chat).filter p := by
    refine List.filter_congr fun m hm => ?_
    simp [(h.message_home chat m hm).1]
  have hnone : others.filter (fun m => m.chat == chat && p m) = [] := by
    refine List.filter_eq_nil_iff.2 fun m hm => ?_
    simp [hothers m hm]
  have hfilter := hperm.filter fun m => m.chat == chat && p m
  rwa [List.filter_append, hlog, hnone, List.append_nil] at hfilter

/-- **Marking messages of a chat** is marking them among the messages of all chats. -/
theorem Sound.messages_markWhere (h : t.Sound) (chat : ChatId) (p : Message → Bool) :
    (t.markWhere chat p).2.messages.Perm
      (t.messages.map (marked fun m => m.chat == chat && p m)) := by
  obtain ⟨others, hperm, hothers, hinsert⟩ := h.messages_perm chat
  have hrest : others.map (marked fun m => m.chat == chat && p m) = others := by
    refine (List.map_congr_left fun m hm => ?_).trans (List.map_id _)
    have hchat : (m.chat == chat) = false := beq_false_of_ne (hothers m hm)
    simp [marked, hchat]
  have hlog : (t.log chat).map (marked fun m => m.chat == chat && p m) =
      (t.log chat).map (marked p) := by
    refine List.map_congr_left fun m hm => ?_
    simp [marked, (h.message_home chat m hm).1]
  have hall := hperm.map (marked fun m => m.chat == chat && p m)
  rw [List.map_append, hrest, hlog] at hall
  refine List.Perm.trans ?_ hall.symm
  unfold Records.markWhere
  cases hl : t.logs.get? chat with
  | none => simpa [log, hl] using hperm
  | some l => simpa only [log, hl, marked_eq, Option.getD_some] using hinsert (l.map (marked p))

end Records

namespace Database

variable {σ : Type} {partner : Dialogue.Partner σ} {table : σ → List Message} {s : σ}
  {t : Records}

/-! ### Exchanges -/

/-- What an exchange comes to with a partner, and how the partner goes on. -/
def Exchange.outcome {α : Type} (partner : Dialogue.Partner σ) (x : Exchange α) (s : σ) :
    Except StoreError α × σ :=
  (ExceptT.run x).run partner s

namespace Exchange

variable {α β : Type}

/-- One exchange after another. -/
theorem outcome_bind {x : Exchange α} {f : α → Exchange β} {a : α} {s' : σ}
    (hx : outcome partner x s = (.ok a, s')) :
    outcome partner (x >>= f) s = outcome partner (f a) s' := by
  unfold outcome at hx ⊢
  rw [ExceptT.run_bind, Dialogue.run_bind, hx]

/-- A statement that is answered. -/
theorem outcome_perform {q : Statement} {y : Yield} (hy : (partner (.statement q) s).1 = some y) :
    outcome partner (perform q) s = (.ok y, (partner (.statement q) s).2) := by
  unfold outcome perform Dialogue.send
  simp [ExceptT.mk, ExceptT.run, Dialogue.run, hy]

/-- Rows that are read. -/
theorem outcome_all {read : Row → Reading α} {q : Statement} {y : Yield} {as : List α}
    (hy : (partner (.statement q) s).1 = some y) (hread : y.rows.mapM read = .ok as) :
    outcome partner (all read q) s = (.ok as, (partner (.statement q) s).2) := by
  unfold all
  rw [outcome_bind (outcome_perform hy), hread]
  rfl

theorem outcome_count {q : Statement} {y : Yield} (hy : (partner (.statement q) s).1 = some y) :
    outcome partner (count q) s = (.ok y.touched, (partner (.statement q) s).2) := by
  unfold count
  rw [outcome_bind (outcome_perform hy)]
  rfl

end Exchange

theorem mapM_readMessage (rows : List Message) :
    (rows.map messageRow).mapM readMessage = .ok rows := by
  induction rows with
  | nil => rfl
  | cons m rows ih => simp [List.mapM_cons, readMessage_messageRow, ih]; rfl

theorem mapM_firstInteger (ids : List Int64) :
    (ids.map fun id => [Cell.integer id]).mapM firstInteger = .ok ids := by
  induction ids with
  | nil => rfl
  | cons id ids ih =>
    simp [List.mapM_cons, firstInteger, readFirst, Cell.readInteger] at ih ⊢
    simp [ih]; rfl

/-! ### Pages -/

/-- A message that a page from this cursor may hold. -/
def covers (c : Cursor) (m : Message) : Bool :=
  match c with
  | .latest => true
  | .before id => m.id < id
  | .after id => id < m.id

/-- The conditions of a page. -/
theorem meets_paging (chat : ChatId) (r : PageSpec) (m : Message) :
    meets (paging r.cursor).conditions (pagingParameters chat r) m =
      (m.chat == chat && covers r.cursor m) := by
  unfold pagingParameters
  cases r.cursor <;>
    simp [paging, meets, Condition.holds, Condition.relates, Column.cell, covers]

/-- The size of a page as a parameter. -/
theorem toInt_limit (n : UInt32) : (Int64.ofNat n.toNat).toInt = n.toNat :=
  Int64.toInt_ofNat_of_lt (Nat.lt_trans n.toNat_lt (by decide))

theorem limit_pagingParameters (chat : ChatId) (r : PageSpec) :
    (pagingParameters chat r)[(paging r.cursor).limit]? =
      some (.integer (Int64.ofNat r.limit.toNat)) := by
  unfold pagingParameters
  cases r.cursor <;> rfl

theorem fits_paging (chat : ChatId) (r : PageSpec) :
    (paging r.cursor).fits (pagingParameters chat r) = true := by
  have hlimit : (0 : Int64) ≤ Int64.ofNat r.limit.toNat := by
    rw [Int64.le_iff_toInt_le, toInt_limit]
    exact Int.natCast_nonneg _
  unfold Selection.fits
  rw [limit_pagingParameters]
  simp only [hlimit, decide_true, Bool.and_true]
  unfold pagingParameters
  cases r.cursor <;> rfl

/-- **A page of a log in order** is made of the messages that it may hold, the nearest to the
cursor. -/
theorem slice_eq (h : Ascending l) (r : PageSpec) :
    r.slice l = match r.cursor with
      | .after _ => (l.filter (covers r.cursor)).take r.limit.toNat
      | _ => lastItems r.limit.toNat (l.filter (covers r.cursor)) := by
  obtain ⟨cursor, limit⟩ := r
  cases cursor with
  | latest =>
    have hall : l.filter (covers .latest) = l := List.filter_eq_self.2 fun _ _ => rfl
    simp only [PageSpec.slice_latest, hall]
  | before id => simp only [PageSpec.slice_before, h.takeWhile]; rfl
  | after id => exact h.slice_after id limit

/-- **What the database gives for a page**, turned round if it comes from the far end, is the
page. -/
theorem slice_of_gives {chat : ChatId} {r : PageSpec} {rows : List Message} (h : t.Sound)
    (hrows : (table s).Perm t.messages)
    (hgives : (paging r.cursor).Gives (pagingParameters chat r) (table s) rows) :
    (match r.cursor with
      | .after _ => rows
      | _ => rows.reverse) = r.slice (t.log chat) := by
  obtain ⟨sorted, n, hperm, horder, hn, rfl⟩ := hgives
  obtain rfl : Int64.ofNat r.limit.toNat = n := by
    rw [limit_pagingParameters] at hn
    exact Parameter.integer.inj (Option.some.inj hn)
  rw [toInt_limit, Int.toNat_natCast]
  -- the rows of the chat are those of its log
  have hchat : sorted.Perm ((t.log chat).filter (covers r.cursor)) := by
    refine hperm.trans ((hrows.filter _).trans ?_)
    rw [funext (meets_paging chat r)]
    exact h.rows_of_chat chat _
  have hasc : Ascending ((t.log chat).filter (covers r.cursor)) := (h.ascending chat).filter _
  rw [slice_eq (h.ascending chat)]
  have hdescending : sorted.Pairwise (fun m m' => m'.id ≤ m.id) →
      (sorted.take r.limit.toNat).reverse =
        lastItems r.limit.toNat ((t.log chat).filter (covers r.cursor)) := by
    intro hsorted
    have hreverse : sorted.reverse = (t.log chat).filter (covers r.cursor) :=
      hasc.eq_of_perm ((List.reverse_perm _).trans hchat) (List.pairwise_reverse.2 hsorted)
    unfold lastItems
    rw [List.reverse_take, ← hreverse, List.length_reverse]
  cases hc : r.cursor with
  | latest =>
    rw [hc] at hdescending horder
    exact hdescending horder
  | before id =>
    rw [hc] at hdescending horder
    exact hdescending horder
  | after id =>
    rw [hc] at horder hasc hchat
    exact congrArg (List.take r.limit.toNat) (hasc.eq_of_perm hchat horder)

/-! ### Markings -/

variable {u : Marking} {ps : List Parameter} {chat : ChatId} {p : Message → Bool}

/-- The conditions of a marking of all. -/
theorem meets_markingAll (chat : ChatId) (reader : UserId) (m : Message) :
    meets markingAll.conditions [.integer chat, .integer reader] m =
      (m.chat == chat && Records.isUnreadBy reader m) := by
  have hunset : (Cell.flag m.isRead == Cell.flag false) = !m.isRead := by cases m.isRead <;> rfl
  simp [markingAll, meets, Condition.holds, Condition.relates, Column.cell, Records.isUnreadBy,
    hunset]

/-- The conditions of a marking of some. -/
theorem meets_markingSome (chat : ChatId) (reader : UserId) (ids : List MessageId) (m : Message) :
    meets markingSome.conditions [.integer chat, .integer reader, .integers ids] m =
      (m.chat == chat && (Records.isUnreadBy reader m && ids.contains m.id)) := by
  have hunset : (Cell.flag m.isRead == Cell.flag false) = !m.isRead := by cases m.isRead <;> rfl
  simp [markingSome, meets, Condition.holds, Condition.relates, Column.cell, Records.isUnreadBy,
    hunset]
  ac_rfl

/-- **The rows that a marking finds** in the database are the messages that it finds in the log. -/
theorem perm_found (h : t.Sound) (hrows : (table s).Perm t.messages)
    (hmeets : ∀ m, meets u.conditions ps m = (m.chat == chat && p m)) :
    ((table s).filter (meets u.conditions ps)).Perm ((t.log chat).filter p) := by
  rw [funext hmeets]
  exact (hrows.filter _).trans (h.rows_of_chat chat p)

/-- **The rows that a marking leaves** are the messages that it leaves in the logs. -/
theorem perm_left (h : t.Sound) (hrows : (table s).Perm t.messages)
    (hmeets : ∀ m, meets u.conditions ps m = (m.chat == chat && p m)) :
    ((table s).map (u.mark ps)).Perm (t.markWhere chat p).2.messages := by
  have hmark : u.mark ps = Records.marked fun m => m.chat == chat && p m := by
    funext m
    rw [← Records.marked_eq, ← hmeets]
    rfl
  rw [hmark]
  exact (hrows.map _).trans (h.messages_markWhere chat p).symm

/-- **The numbers of messages of a log**, in whatever order, are put in the order of the log. -/
theorem mergeSort_ids {found : List Message} (hasc : Ascending l) (hfound : found.Perm l) :
    (found.map (·.id)).mergeSort (fun a b => a ≤ b) = l.map (·.id) := by
  have hperm : ((found.map (·.id)).mergeSort fun a b => a ≤ b).Perm (l.map (·.id)) :=
    (List.mergeSort_perm _ _).trans (hfound.map _)
  have hsorted : ((found.map (·.id)).mergeSort fun a b => a ≤ b).Pairwise (· ≤ ·) :=
    List.pairwise_mergeSort' _ _
  have hids : (l.map (·.id)).Pairwise (· ≤ ·) :=
    List.pairwise_map.2 (hasc.imp Int64.le_of_lt)
  exact hperm.eq_of_pairwise (fun a b _ _ hab hba => Int64.le_antisymm hab hba) hsorted hids

end Database

end Rendezvous
