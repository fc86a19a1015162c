import Mathlib.Data.List.Basic
import Mathlib.Data.Nat.Find
import Rendezvous.Proofs.Store.Chronicle
import Rendezvous.Proofs.Store.Pages

/-!
# Reading a chat page by page

Who reads a long chat asks for one page after another, and says with the cursor where to go on: back
from the latest messages towards the first ones, or forth from a message that is known. Meanwhile
others write to the chat and mark messages read. A *walk* is all of this, the pages of the one
reader and whatever happens at the store between them.

Nothing is lost and nothing comes twice (`Walk.reads_all`). Going back, the reader gets the log as
it was at the first page, whatever comes in later; going forth, the reader gets the log as it is,
and a page that is not full has reached its end.

## What is kept from page to page

Going back, the cursor parts the log: what comes before it is what the reader has not got yet of the
log of the first page (`Walk.back_parts`). Going forth, what the reader got and what comes after the
cursor is all that there is to get (`Walk.forth_reached`). A page moves the boundary in the log, and
what happens in between only adds to its end.
-/

namespace Rendezvous

namespace Records

variable {t t' : Records} {new : MessageId → Prop}

/-- But for read marks, a log that goes on is the same log with something behind it. -/
theorem Continues.bare (h : t.Continues new t') (id : ChatId) :
    ∃ rest, (t'.log id).map Message.bare = (t.log id).map Message.bare ++ rest ∧
      ∀ m ∈ rest, new m.id := by
  obtain ⟨p, rest, hlog, hrest⟩ := h id
  refine ⟨rest.map Message.bare, ?_, ?_⟩
  · rw [hlog, List.map_append, List.map_map]
    rfl
  · intro m hm
    obtain ⟨m', hm', rfl⟩ := List.mem_map.1 hm
    exact hrest m' hm'

end Records

/-! ### Walks -/

/-- A page that a reader asks for, and what happens before the next one. -/
structure PageTurn where
  /-- When the page is asked for. -/
  now : Timestamp
  /-- How many messages it holds at most. -/
  limit : UInt32
  /-- There is room for a message. -/
  limit_pos : 0 < limit
  /-- What happens at the store before the next page is asked for. -/
  meanwhile : List StoreEvent

/-- **A reader goes through a chat** page by page. -/
structure Walk where
  /-- The tables when the first page is asked for, with their past. -/
  start : Annals
  /-- The chat. -/
  chat : ChatId
  /-- Where the first page is taken from. -/
  cursor : Cursor
  /-- Where the page after a page is taken from. -/
  next : Cursor → List Message → Cursor
  /-- The pages that are asked for. -/
  turns : Nat → PageTurn

namespace Walk

/-- From the latest messages to the first ones. -/
def back (start : Annals) (chat : ChatId) (turns : Nat → PageTurn) : Walk :=
  ⟨start, chat, .latest, Cursor.back, turns⟩

/-- From the messages right after a number to the latest ones. -/
def forth (start : Annals) (chat : ChatId) (x : MessageId) (turns : Nat → PageTurn) : Walk :=
  ⟨start, chat, .after x, Cursor.forth, turns⟩

/-- Where a walk has come to. -/
structure Stage where
  /-- The tables with their past. -/
  annals : Annals
  /-- Where the next page is taken from. -/
  cursor : Cursor

/-- The next page is asked for. -/
def Stage.ask (s : Stage) (chat : ChatId) (turn : PageTurn) :
    Except StoreError (List Message) × Annals :=
  s.annals.answer turn.now (.page chat ⟨s.cursor, turn.limit⟩)

/-- Where the walk has come to before it asks for this page. -/
def stage (w : Walk) : Nat → Stage
  | 0 => ⟨w.start, w.cursor⟩
  | k + 1 =>
    let (reply, annals) := (w.stage k).ask w.chat (w.turns k)
    ⟨annals.through (w.turns k).meanwhile, w.next (w.stage k).cursor (reply.toOption.getD [])⟩

/-- What the store replies to the request for this page. -/
def reply (w : Walk) (k : Nat) : Except StoreError (List Message) :=
  ((w.stage k).ask w.chat (w.turns k)).1

/-- The page; no messages if the store refuses. -/
def page (w : Walk) (k : Nat) : List Message :=
  (w.reply k).toOption.getD []

/-- The tables when this page is asked for, with their past. -/
def annals (w : Walk) (k : Nat) : Annals :=
  (w.stage k).annals

/-- The log when this page is asked for. -/
def log (w : Walk) (k : Nat) : List Message :=
  (w.annals k).records.log w.chat

/-- So many pages joined in the order in which they came. -/
def joined (w : Walk) : Nat → List Message
  | 0 => []
  | k + 1 => w.joined k ++ w.page k

/-- So many pages joined with the last one first. -/
def joinedBack (w : Walk) : Nat → List Message
  | 0 => []
  | k + 1 => w.page k ++ w.joinedBack k

/-- The log without read marks. -/
def bareLog (w : Walk) (k : Nat) : List Message :=
  (w.log k).map Message.bare

variable {w : Walk} {j k : Nat}

/-! ### What a request for a page does -/

/-- **A page is never refused.** -/
theorem reply_eq (w : Walk) (k : Nat) : w.reply k = .ok (w.page k) := rfl

theorem annals_succ (w : Walk) (k : Nat) :
    w.annals (k + 1) = (w.annals k).through (w.turns k).meanwhile := rfl

theorem cursor_succ (w : Walk) (k : Nat) :
    (w.stage (k + 1)).cursor = w.next (w.stage k).cursor (w.page k) := rfl

theorem bare_page (w : Walk) (k : Nat) :
    (w.page k).map Message.bare =
      PageSpec.slice ⟨(w.stage k).cursor, (w.turns k).limit⟩ (w.bareLog k) :=
  PageSpec.slice_map_bare ..

theorem limit_toNat_pos (w : Walk) (k : Nat) : 0 < (w.turns k).limit.toNat :=
  UInt32.lt_iff_toNat_lt.1 (w.turns k).limit_pos

/-! ### What happens in between -/

/-- The log goes on behind what stood in it. -/
theorem bareLog_succ (w : Walk) (k : Nat) : ∃ rest, w.bareLog (k + 1) = w.bareLog k ++ rest := by
  obtain ⟨rest, he, -⟩ :=
    ((w.annals k).continues_through (w.turns k).meanwhile).bare w.chat
  exact ⟨rest, he⟩

theorem bareLog_prefix_of_le (h : k ≤ j) : w.bareLog k <+: w.bareLog j := by
  induction h with
  | refl => exact List.prefix_rfl
  | step _ ih =>
    obtain ⟨rest, he⟩ := w.bareLog_succ _
    exact ih.trans ⟨rest, he.symm⟩

/-- The tables fit together for as long as the numbers last. -/
theorem kept (h : w.start.Kept) (hroom : (w.annals k).HasRoom) : (w.annals k).Kept := by
  induction k with
  | zero => exact h
  | succ k ih =>
    rw [annals_succ] at hroom ⊢
    exact (ih hroom.of_through).through hroom

theorem ascending_bareLog (h : (w.annals k).Kept) : Ascending (w.bareLog k) :=
  List.pairwise_map.2 (h.sound.ascending w.chat)

/-- What comes in is greater than what was there. -/
theorem bareLog_succ_new (h : (w.annals k).Kept) (hroom : (w.annals (k + 1)).HasRoom) :
    ∃ rest, w.bareLog (k + 1) = w.bareLog k ++ rest ∧
      ∀ m ∈ rest, ∀ m' ∈ w.bareLog k, m'.id < m.id := by
  obtain ⟨rest, he, hnew⟩ := (h.continues_through hroom).bare w.chat
  refine ⟨rest, he, fun m hm m' hm' => ?_⟩
  obtain ⟨m'', hm'', rfl⟩ := List.mem_map.1 hm'
  have hle := h.toInt_le hm''
  exact Int64.lt_iff_toInt_lt.2 (Int.lt_of_le_of_lt hle (hnew m hm))

/-! ### Back -/

/-- **Going back, the cursor parts the log**: what comes before it is what the reader has not got
yet of the log of the first page, and it gets less with each page. -/
theorem back_parts (hcursor : w.cursor = .latest) (hnext : w.next = Cursor.back)
    (hasc : Ascending (w.bareLog 0)) (hpages : ∀ i < k, w.page i ≠ []) :
    ∃ older, w.bareLog 0 = older ++ (w.joinedBack k).map Message.bare ∧
      (w.stage k).cursor.Parts (w.bareLog k) older ∧ older.length + k ≤ (w.bareLog 0).length := by
  induction k with
  | zero =>
    refine ⟨w.bareLog 0, by simp [joinedBack], ?_, Nat.le_refl _⟩
    rw [show (w.stage 0).cursor = .latest from hcursor]
    rfl
  | succ k ih =>
    obtain ⟨older, hall, hparts, hlen⟩ := ih fun i hi => hpages i (by omega)
    have hpage : (w.page k).map Message.bare = lastItems (w.turns k).limit.toNat older := by
      rw [bare_page, hparts.slice]
    have hne : (w.page k).map Message.bare ≠ [] := by simpa using hpages k (by omega)
    have hsplit := (take_append_lastItems (w.turns k).limit.toNat older).symm
    rw [← hpage] at hsplit
    have holder : Ascending older := hasc.sublist (hall ▸ List.sublist_append_left ..)
    -- the page is taken off, and the log goes on behind the new cursor
    have hparts' := hparts.back holder hsplit hne
    obtain ⟨rest, hrest⟩ := w.bareLog_succ k
    refine ⟨older.take (older.length - (w.turns k).limit.toNat), ?_, ?_, ?_⟩
    · rw [joinedBack, List.map_append, ← List.append_assoc, ← hsplit, hall]
    · rw [cursor_succ, hnext, hrest, ← Cursor.back_map_bare]
      exact hparts'.grow (Cursor.back_ne_latest _ hne) rest
    · have hcount := congrArg List.length hsplit
      have hpos := List.length_pos_iff.2 hne
      rw [List.length_append] at hcount
      omega

/-- **Going back ends**, after no more pages than there were messages, and the reader has all of
them. -/
theorem back_ends (hcursor : w.cursor = .latest) (hnext : w.next = Cursor.back)
    (hasc : Ascending (w.bareLog 0)) :
    ∃ n ≤ (w.log 0).length, w.page n = [] ∧ (∀ k < n, w.page k ≠ []) ∧
      (w.joinedBack n).map Message.bare = w.bareLog 0 := by
  have hlen : (w.bareLog 0).length = (w.log 0).length := List.length_map ..
  have hend : ∃ n, w.page n = [] := by
    -- with a message on every page there would be more messages than the log had
    by_contra hno
    obtain ⟨older, -, -, hle⟩ :=
      back_parts hcursor hnext hasc (k := (w.bareLog 0).length + 1) fun i _ => not_exists.1 hno i
    omega
  have hfirst : ∀ k < Nat.find hend, w.page k ≠ [] := fun k hk => Nat.find_min hend hk
  obtain ⟨older, hall, hparts, hle⟩ := back_parts hcursor hnext hasc hfirst
  have hlast : w.page (Nat.find hend) = [] := Nat.find_spec hend
  -- an empty page has room for a message, so that none was left
  have hnone : older = [] := by
    refine eq_nil_of_lastItems (w.limit_toNat_pos (Nat.find hend)) ?_
    rw [← hparts.slice, ← bare_page, hlast, List.map_nil]
  refine ⟨Nat.find hend, by omega, hlast, hfirst, ?_⟩
  rw [hall, hnone, List.nil_append]

/-! ### Forth -/

/-- **A page takes the reader on**: to its last message, if it has any, and to the end of the log,
if it is not full. -/
theorem forth_turn {x y : MessageId} (hnext : w.next = Cursor.forth)
    (hasc : Ascending (w.bareLog k)) (hcursor : (w.stage k).cursor = .after y)
    (hreached : Reached (w.bareLog k) x y ((w.joined k).map Message.bare)) :
    ∃ z, (w.stage (k + 1)).cursor = .after z ∧
      Reached (w.bareLog k) x z ((w.joined (k + 1)).map Message.bare) ∧
      ((w.page k).length < (w.turns k).limit.toNat → beyond z (w.bareLog k) = []) := by
  have hpage : (w.page k).map Message.bare =
      (beyond y (w.bareLog k)).take (w.turns k).limit.toNat := by
    rw [bare_page, hcursor, hasc.slice_after]
  have hsplit := (List.take_append_drop (w.turns k).limit.toNat (beyond y (w.bareLog k))).symm
  rw [← hpage] at hsplit
  obtain ⟨z, hz, hrest, hreached'⟩ := hreached.next hasc hsplit
  refine ⟨z, ?_, ?_, fun hshort => ?_⟩
  · rw [cursor_succ, hnext, hcursor, ← Cursor.forth_map_bare, hz]
  · rwa [joined, List.map_append]
  · have hcount := congrArg List.length hpage
    rw [List.length_map, List.length_take] at hcount
    rw [hrest, List.drop_eq_nil_iff]
    omega

/-- **Going forth, the reader has come to the cursor**, and has got all that is in between. -/
theorem forth_reached {x : MessageId} (hcursor : w.cursor = .after x)
    (hnext : w.next = Cursor.forth) (hstart : w.start.Kept) (hroom : (w.annals k).HasRoom) :
    ∃ y, (w.stage k).cursor = .after y ∧
      Reached (w.bareLog k) x y ((w.joined k).map Message.bare) := by
  induction k with
  | zero => exact ⟨x, hcursor, .start ..⟩
  | succ k ih =>
    have hbefore : (w.annals k).HasRoom := Annals.HasRoom.of_through (w.annals_succ k ▸ hroom)
    have hkept : (w.annals k).Kept := kept hstart hbefore
    obtain ⟨y, hy, hreached⟩ := ih hbefore
    obtain ⟨z, hz, hreached', -⟩ := forth_turn hnext (ascending_bareLog hkept) hy hreached
    obtain ⟨rest, hrest, hnew⟩ := bareLog_succ_new hkept hroom
    exact ⟨z, hz, hrest ▸ hreached'.grow hnew⟩

/-- **Nothing is lost and nothing comes twice** when a chat is read page by page, whatever happens
at the store in the meantime. Each page is given. Going back, the reader comes to an empty page
after no more pages than there were messages, and has got the log as it was at the first page. Going
forth, the reader has at any time got the first of the messages after the number, and all of them
when a page was not full. -/
theorem reads_all (past : List StoreEvent) (chat : ChatId) (turns : Nat → PageTurn)
    (hroom : (Annals.empty.through past).HasRoom) :
    (∀ w : Walk, ∀ k, w.reply k = .ok (w.page k)) ∧
    (let w := back (Annals.empty.through past) chat turns
      ∃ n ≤ (w.log 0).length, w.page n = [] ∧ (∀ k < n, w.page k ≠ []) ∧
        (w.joinedBack n).map Message.bare = (w.log 0).map Message.bare ∧
        Ascending (w.joinedBack n)) ∧
    ∀ x, let w := forth (Annals.empty.through past) chat x turns
      ∀ k, (w.annals k).HasRoom → Ascending (w.joined (k + 1)) ∧
        (∀ j ≥ k, (w.joined (k + 1)).map Message.bare <+: (beyond x (w.log j)).map Message.bare) ∧
        ((w.page k).length < (w.turns k).limit.toNat →
          (w.joined (k + 1)).map Message.bare = (beyond x (w.log k)).map Message.bare) := by
  have hkept : (Annals.empty.through past).Kept := Annals.kept_through hroom
  refine ⟨reply_eq, ?_, fun x => ?_⟩
  · intro w
    have hasc : Ascending (w.bareLog 0) := ascending_bareLog hkept
    obtain ⟨n, hn, hlast, hfirst, hall⟩ := back_ends (w := w) rfl rfl hasc
    exact ⟨n, hn, hlast, hfirst, hall, ascending_map_bare.1 (hall ▸ hasc)⟩
  · intro w k hnow
    have hasc : Ascending (w.bareLog k) := ascending_bareLog (kept hkept hnow)
    obtain ⟨y, hy, hreached⟩ := forth_reached (w := w) rfl rfl hkept hnow
    obtain ⟨z, -, hreached', hend⟩ := forth_turn rfl hasc hy hreached
    have hprefix : (w.joined (k + 1)).map Message.bare <+: beyond x (w.bareLog k) :=
      ⟨_, hreached'.all⟩
    refine ⟨ascending_map_bare.1 ((hasc.beyond x).sublist hprefix.sublist), fun j hj => ?_,
      fun hshort => ?_⟩
    · rw [beyond_map_bare]
      exact hprefix.trans ((bareLog_prefix_of_le hj).filter _)
    · have hall := hreached'.all
      rw [hend hshort, List.append_nil] at hall
      rwa [beyond_map_bare]

/-- A chat with three messages. -/
def samplePast : List StoreEvent :=
  [.asked ⟨⟨0, 0⟩, .openChat 1 2⟩, .asked ⟨⟨1, 0⟩, .append ⟨1, 1, 2, "one", .text⟩⟩,
    .asked ⟨⟨2, 0⟩, .append ⟨1, 2, 1, "two", .text⟩⟩,
    .asked ⟨⟨3, 0⟩, .append ⟨1, 1, 2, "three", .text⟩⟩]

/-- Pages of two messages; after each of them somebody writes and somebody reads. -/
def sampleTurns (_ : Nat) : PageTurn where
  now := ⟨4, 0⟩
  limit := 2
  limit_pos := by decide
  meanwhile := [.asked ⟨⟨5, 0⟩, .append ⟨1, 2, 1, "more", .text⟩⟩,
    .asked ⟨⟨6, 0⟩, .markAllRead 1 1⟩]

theorem reads_all_sample :
    (Annals.empty.through samplePast).HasRoom ∧
    (∃ n ≤ 3, (back (Annals.empty.through samplePast) 1 sampleTurns).page n = [] ∧
      Ascending ((back (Annals.empty.through samplePast) 1 sampleTurns).joinedBack n)) ∧
    ((forth (Annals.empty.through samplePast) 1 1 sampleTurns).annals 1).HasRoom ∧
    ((forth (Annals.empty.through samplePast) 1 1 sampleTurns).joined 2).map Message.bare <+:
      (beyond 1 ((forth (Annals.empty.through samplePast) 1 1 sampleTurns).log 5)).map
        Message.bare := by
  have hroom : (Annals.empty.through samplePast).HasRoom := by decide
  have hlater : ((forth (Annals.empty.through samplePast) 1 1 sampleTurns).annals 1).HasRoom := by
    decide
  obtain ⟨-, ⟨n, hn, hlast, -, -, hasc⟩, hforth⟩ := reads_all samplePast 1 sampleTurns hroom
  exact ⟨hroom, ⟨n, hn, hlast, hasc⟩, hlater, (hforth 1 1 hlater).2.1 5 (by decide)⟩

end Walk

end Rendezvous
