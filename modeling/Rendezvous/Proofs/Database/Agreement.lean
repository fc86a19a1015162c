import Mathlib.Data.List.Basic
import Rendezvous.Proofs.Database.Readings

/-!
# Two stores that agree

A service that reads messages and marks them read gets the same replies from the tables in the
process and from any database that executes the statements and has the same messages
(`Database.reads_agree`). Each request is answered alike, and leaves both with the same messages
again (`Database.agrees_ask`); so it is with one request after another.

That there are such databases is not a matter of course, since a statement is a text and has to be
recognized. One that keeps its messages in a list is given in the end (`Database.listed`). It turns
the list round whenever something is marked, to make the point that the order of rows does not
matter.
-/

namespace Rendezvous

/-- A request that reads messages or marks them read. -/
def StoreRequest.isReading : StoreRequest → Bool
  | .page .. => true
  | .markAllRead .. => true
  | .markSomeRead .. => true
  | _ => false

/-- Reading leaves the tables sound. -/
theorem Records.Sound.answer_reading {t : Records} (h : t.Sound) (now : Timestamp)
    {r : StoreRequest} (hr : r.isReading = true) : (t.answer now r).2.Sound := by
  cases r with
  | page chat spec => exact h
  | markAllRead chat reader => exact h.markWhere chat _
  | markSomeRead chat reader ids => exact h.markWhere chat _
  | _ => exact absurd hr Bool.false_ne_true

namespace Database

variable {σ : Type} {partner : Dialogue.Partner σ} {table : σ → List Message} {s : σ}
  {t : Records}

/-! ### One request -/

/-- What a request comes to with both stores: the same reply, and the same messages afterwards. -/
def Agrees (partner : Dialogue.Partner σ) (table : σ → List Message) (s : σ) (t : Records)
    (now : Timestamp) (r : StoreRequest) : Prop :=
  (Exchange.outcome partner (ask r) s).1 = (t.answer now r).1 ∧
    (table (Exchange.outcome partner (ask r) s).2).Perm (t.answer now r).2.messages

theorem agrees_page (hserver : Executes partner table) (h : t.Sound)
    (hrows : (table s).Perm t.messages) (now : Timestamp) (chat : ChatId) (spec : PageSpec) :
    Agrees partner table s t now (.page chat spec) := by
  obtain ⟨rows, touched, hgives, hreply, htable⟩ :=
    hserver.select s spec.cursor (pagingParameters chat spec) (fits_paging chat spec)
  have hslice := slice_of_gives h hrows hgives
  rw [← pageOf_eq] at hreply htable
  -- the rows are read as the messages, and these are turned round if they have to be
  have houtcome : Exchange.outcome partner (page chat spec) s =
      (.ok (spec.slice (t.log chat)), (partner (.statement (pageOf chat spec)) s).2) := by
    unfold page
    rw [Exchange.outcome_bind (Exchange.outcome_all hreply (mapM_readMessage rows)), ← hslice]
    cases spec.cursor <;> rfl
  unfold Agrees
  rw [show ask (.page chat spec) = page chat spec from rfl, houtcome]
  exact ⟨rfl, htable.trans hrows⟩

theorem agrees_markAllRead (hserver : Executes partner table) (h : t.Sound)
    (hrows : (table s).Perm t.messages) (now : Timestamp) (chat : ChatId) (reader : UserId) :
    Agrees partner table s t now (.markAllRead chat reader) := by
  obtain ⟨found, hfound, hreply, htable⟩ :=
    hserver.update s markingAll [.integer chat, .integer reader] (Or.inl rfl) rfl
  have hmeets := meets_markingAll chat reader
  rw [← markAllRead_eq] at hreply htable
  have hcount : found.length = (t.markAllRead chat reader).1 := by
    have hfst : (t.markAllRead chat reader).1 =
        (t.markWhere chat (Records.isUnreadBy reader)).1.length := rfl
    rw [(hfound.trans (perm_found h hrows hmeets)).length_eq, hfst, Records.markWhere_fst,
      List.length_map]
  unfold Agrees
  rw [show ask (.markAllRead chat reader) = Exchange.count (markAllRead chat reader) from rfl,
    Exchange.outcome_count hreply]
  exact ⟨congrArg Except.ok hcount, htable.trans (perm_left h hrows hmeets)⟩

theorem agrees_markSomeRead (hserver : Executes partner table) (h : t.Sound)
    (hrows : (table s).Perm t.messages) (now : Timestamp) (chat : ChatId) (reader : UserId)
    (ids : List MessageId) : Agrees partner table s t now (.markSomeRead chat reader ids) := by
  obtain ⟨found, hfound, hreply, htable⟩ := hserver.update s markingSome
    [.integer chat, .integer reader, .integers ids] (Or.inr rfl) rfl
  have hmeets := meets_markingSome chat reader ids
  rw [← markSomeRead_eq] at hreply htable
  have hlog : found.Perm ((t.log chat).filter _) := hfound.trans (perm_found h hrows hmeets)
  have hids := mergeSort_ids ((h.ascending chat).filter _) hlog
  have hread : (markingSome.rows found).mapM firstInteger = .ok (found.map (·.id)) := by
    rw [← mapM_firstInteger, List.map_map]
    rfl
  have houtcome : Exchange.outcome partner (markListed chat reader ids) s =
      (.ok (t.markSomeRead chat reader ids).1,
        (partner (.statement (markSomeRead chat reader ids)) s).2) := by
    unfold markListed Records.markSomeRead
    rw [Exchange.outcome_bind (Exchange.outcome_all hreply hread), Records.markWhere_fst, ← hids]
    rfl
  unfold Agrees
  rw [show ask (.markSomeRead chat reader ids) = markListed chat reader ids from rfl, houtcome]
  exact ⟨rfl, htable.trans (perm_left h hrows hmeets)⟩

/-- **A request that reads is answered alike** by the database and by the tables, and leaves both
with the same messages. -/
theorem agrees_ask (hserver : Executes partner table) (h : t.Sound)
    (hrows : (table s).Perm t.messages) (now : Timestamp) {r : StoreRequest}
    (hr : r.isReading = true) : Agrees partner table s t now r := by
  cases r with
  | page chat spec => exact agrees_page hserver h hrows now chat spec
  | markAllRead chat reader => exact agrees_markAllRead hserver h hrows now chat reader
  | markSomeRead chat reader ids => exact agrees_markSomeRead hserver h hrows now chat reader ids
  | _ => exact absurd hr Bool.false_ne_true

/-! ### One request after another -/

/-- What the database replies when it is asked one thing after another, and how it is left. -/
def askAll (partner : Dialogue.Partner σ) : List StoreRequest → σ → List StoreReply × σ
  | [], s => ([], s)
  | r :: rest, s =>
    let (reply, s') := Exchange.outcome partner (ask r) s
    let (replies, s'') := askAll partner rest s'
    (⟨r, reply⟩ :: replies, s'')

/-- From the same messages, a run of requests that read is answered alike. -/
theorem askAll_agrees (hserver : Executes partner table) {a : Annals} (h : a.records.Sound)
    (hrows : (table s).Perm a.records.messages) {readings : List Deed}
    (hreadings : ∀ d ∈ readings, d.request.isReading = true) :
    (askAll partner (readings.map (·.request)) s).1 = a.replies (readings.map .asked) ∧
      (table (askAll partner (readings.map (·.request)) s).2).Perm
        (a.through (readings.map .asked)).records.messages := by
  induction readings generalizing s a with
  | nil => exact ⟨rfl, hrows⟩
  | cons d rest ih =>
    have hd : d.request.isReading = true := hreadings d List.mem_cons_self
    obtain ⟨hreply, hafter⟩ := agrees_ask hserver h hrows d.now hd
    have hsound : (a.happen (.asked d)).records.Sound := h.answer_reading d.now hd
    obtain ⟨hreplies, hlast⟩ :=
      ih hsound hafter fun d' hd' => hreadings d' (List.mem_cons_of_mem _ hd')
    refine ⟨?_, hlast⟩
    simp only [List.map_cons, askAll, Annals.replies, Annals.reply?, Option.toList_some,
      List.singleton_append, Annals.answer_fst]
    rw [hreply, hreplies]

/-- **The database and the tables in the process agree**: whatever has happened at the store, as
long as the numbers last, if the database has the messages that are in the tables, in any order, and
executes the statements, then pages are read and messages marked read with the same replies, one
after another, and the same messages are there afterwards, as much of them read. -/
theorem reads_agree (hserver : Executes partner table) (past : List StoreEvent)
    (hroom : (Annals.empty.through past).HasRoom)
    (hrows : (table s).Perm (Annals.empty.through past).records.messages) (readings : List Deed)
    (hreadings : ∀ d ∈ readings, d.request.isReading = true) :
    (askAll partner (readings.map (·.request)) s).1 =
        (Annals.empty.through past).replies (readings.map .asked) ∧
      (table (askAll partner (readings.map (·.request)) s).2).Perm
        ((Annals.empty.through past).through (readings.map .asked)).records.messages :=
  askAll_agrees hserver (Annals.kept_through hroom).sound hrows hreadings

/-! ### A database in a list -/

/-- The messages that a selection gives, put in order and cut off. -/
def Selection.give (q : Selection) (ps : List Parameter) (table : List Message) : List Message :=
  let sorted := (table.filter (meets q.conditions ps)).mergeSort
    fun m m' => q.direction.Admits m.id m'.id
  match ps[q.limit]? with
  | some (.integer n) => sorted.take n.toInt.toNat
  | _ => []

theorem Selection.gives_give {q : Selection} {ps : List Parameter} (h : q.fits ps = true)
    (table : List Message) : q.Gives ps table (q.give ps table) := by
  unfold Selection.fits at h
  cases hn : ps[q.limit]? with
  | none => simp [hn] at h
  | some parameter =>
    cases parameter with
    | text x => simp [hn] at h
    | integers ns => simp [hn] at h
    | integer n =>
      refine ⟨_, n, List.mergeSort_perm _ _, ?_, hn, by rw [give, hn]⟩
      refine (List.pairwise_mergeSort ?_ ?_ _).imp fun hle => of_decide_eq_true hle
      · intro a b c hab hbc
        exact decide_eq_true ((of_decide_eq_true hab).trans (of_decide_eq_true hbc))
      · intro a b
        simpa using Direction.Admits.total q.direction a.id b.id

/-- The selection with a text. -/
def selection? (text : String) : Option Selection :=
  [paging .latest, paging (.before 0), paging (.after 0)].find? (·.text == text)

/-- The marking with a text. -/
def marking? (text : String) : Option Marking :=
  [markingAll, markingSome].find? (·.text == text)

theorem selection?_paging (c : Cursor) : selection? (paging c).text = some (paging c) := by
  -- the number in a cursor is a parameter, and not in the text
  have hlatest : selection? (paging .latest).text = some (paging .latest) := by decide +kernel
  have hbefore : selection? (paging (.before 0)).text = some (paging (.before 0)) := by
    decide +kernel
  have hafter : selection? (paging (.after 0)).text = some (paging (.after 0)) := by decide +kernel
  cases c with
  | latest => exact hlatest
  | before id => exact hbefore
  | after id => exact hafter

theorem marking?_text {u : Marking} (hu : u = markingAll ∨ u = markingSome) :
    selection? u.text = none ∧ marking? u.text = some u := by
  rcases hu with rfl | rfl <;> decide +kernel

/-- A database that keeps its messages in a list, and turns this round when some are marked. It
knows no other statements. -/
def listed : Dialogue.Partner (List Message)
  | .statement q, table =>
    match selection? q.text, marking? q.text with
    | some selection, _ =>
      let rows := selection.give q.parameters table
      (some ⟨rows.map fun m => Column.all.map (Column.cell m), rows.length⟩, table)
    | none, some u =>
      let found := (table.filter (meets u.conditions q.parameters)).reverse
      (some ⟨u.rows found, found.length⟩, (table.map (u.mark q.parameters)).reverse)
    | none, none => (none, table)
  | .command _, table => (true, table)
  | .history, table => (⟨[], none⟩, table)
  | .record _, table => (true, table)

/-- **It executes the statements.** -/
theorem executes_listed : Executes listed id where
  select s cursor ps hfits := by
    have hlisted : listed (.statement ⟨(paging cursor).text, ps⟩) s =
        (some ⟨((paging cursor).give ps s).map fun m => Column.all.map (Column.cell m),
          ((paging cursor).give ps s).length⟩, s) := by
      simp only [listed, selection?_paging]
    rw [hlisted]
    exact ⟨_, _, Selection.gives_give hfits s, rfl, .refl s⟩
  update s u ps hu hfits := by
    obtain ⟨hnone, hsome⟩ := marking?_text hu
    have hlisted : listed (.statement ⟨u.text, ps⟩) s =
        (some ⟨u.rows (s.filter (meets u.conditions ps)).reverse,
          (s.filter (meets u.conditions ps)).reverse.length⟩, (s.map (u.mark ps)).reverse) := by
      simp only [listed, hnone, hsome]
    rw [hlisted]
    exact ⟨_, List.reverse_perm _, rfl, List.reverse_perm _⟩

/-- A chat with three messages, and another one. -/
def samplePast : List StoreEvent :=
  [.asked ⟨⟨0, 0⟩, .openChat 1 2⟩, .asked ⟨⟨1, 0⟩, .openChat 3 1⟩,
    .asked ⟨⟨2, 0⟩, .append ⟨1, 1, 2, "a", .text⟩⟩, .asked ⟨⟨3, 0⟩, .append ⟨2, 3, 1, "b", .text⟩⟩,
    .asked ⟨⟨4, 0⟩, .append ⟨1, 2, 1, "c", .text⟩⟩, .asked ⟨⟨5, 0⟩, .append ⟨1, 1, 2, "d", .text⟩⟩]

/-- The last two messages are read, some are marked with a number twice and one of another chat, a
page of later ones is read, and the rest is marked. -/
def sampleReadings : List Deed :=
  [⟨⟨6, 0⟩, .page 1 ⟨.latest, 2⟩⟩, ⟨⟨7, 0⟩, .markSomeRead 1 2 [4, 2, 1, 4]⟩,
    ⟨⟨8, 0⟩, .page 1 ⟨.after 1, 5⟩⟩, ⟨⟨9, 0⟩, .markAllRead 1 2⟩]

theorem reads_agree_sample : (Annals.empty.through samplePast).HasRoom ∧
    (∀ d ∈ sampleReadings, d.request.isReading = true) ∧
    (askAll listed (sampleReadings.map (·.request))
        (Annals.empty.through samplePast).records.messages.reverse).1 =
      (Annals.empty.through samplePast).replies (sampleReadings.map .asked) ∧
    (askAll listed (sampleReadings.map (·.request))
        (Annals.empty.through samplePast).records.messages.reverse).2.Perm
      ((Annals.empty.through samplePast).through (sampleReadings.map .asked)).records.messages := by
  have hroom : (Annals.empty.through samplePast).HasRoom := by decide
  have hreadings : ∀ d ∈ sampleReadings, d.request.isReading = true := by decide
  exact ⟨hroom, hreadings, reads_agree executes_listed samplePast hroom (List.reverse_perm _)
    sampleReadings hreadings⟩

end Database

end Rendezvous
