import Rendezvous.Proofs.Service.Scene
import Rendezvous.Proofs.Store.Cuts
import Rendezvous.Proofs.Text.Form
import Rendezvous.Proofs.Text.Numeral

/-!
# Pages that are asked for

A page is asked for with a query, which is the text behind the question mark of a request
(`Http.ofFields?_query`). What the query says about the size is a wish: any number of 64 bits may be
wished for, or none (`PageWish.ofFields?_decode_write`), and what comes of the wish is always a size
between one and the greatest one that there is (`PageWish.isSize_size`). The store is asked for
nothing else (`Http.obeys_page`), and it cuts the page out of the log as it was asked for
(`Ascending.isCut`). The page is what the user gets, if there is nothing else in the way
(`Http.run_handle`).
-/

namespace Rendezvous

namespace PageWish

variable {w : PageWish} {spec : PageSpec}

/-! ### Sizes -/

/-- **A size that a page may have.** -/
def IsSize (limit : UInt32) : Prop :=
  1 ≤ limit.toNat ∧ limit.toNat ≤ Limit.pageMost

/-- What comes of a wish for a size. -/
theorem toNat_size (limit : Option Int64) :
    (size limit).toNat = match limit with
      | some n => if 0 < n then min n.toInt.toNat Limit.pageMost else Limit.pageDefault
      | none => Limit.pageDefault := by
  cases limit with
  | none => rfl
  | some n =>
    simp only [size]
    split
    · have hword : min n.toInt.toNat Limit.pageMost < UInt32.size := by
        simp only [Limit.pageMost, UInt32.size]
        omega
      exact UInt32.toNat_ofNat_of_lt hword
    · rfl

/-- **Whatever is wished for**, a page may have the size that comes of it. -/
theorem isSize_size (limit : Option Int64) : IsSize (size limit) := by
  unfold IsSize
  rw [toNat_size]
  cases limit with
  | none => decide
  | some n =>
    dsimp only
    split
    · next hpos =>
      have hone : 0 < n.toInt := by simpa [Int64.lt_iff_toInt_lt] using hpos
      simp only [Limit.pageMost]
      omega
    · decide

theorem limit_of_request? (h : w.request? = some spec) : spec.limit = size w.limit := by
  unfold request? at h
  split at h
  · exact absurd h (by simp)
  all_goals
    obtain rfl := Option.some.inj h
    rfl

/-- A page is asked for, unless the wish names both directions. -/
theorem isSome_request?_iff :
    w.request?.isSome = true ↔ ¬(w.beforeId.isSome = true ∧ w.afterId.isSome = true) := by
  obtain ⟨limit, beforeId, afterId⟩ := w
  cases beforeId <;> cases afterId <;> simp [request?]

/-! ### Queries -/

/-- The fields that say a wish. -/
def fields (w : PageWish) : List (String × String) :=
  [("limit", w.limit), ("before_id", w.beforeId), ("after_id", w.afterId)].filterMap fun f =>
    f.2.map fun n => (f.1, Numeral.printInt n.toInt)

theorem ofFields?_fields (w : PageWish) : ofFields? w.fields = some w := by
  obtain ⟨limit, beforeId, afterId⟩ := w
  cases limit <;> cases beforeId <;> cases afterId <;>
    simp [ofFields?, fields, field?, Numeral.readInt64_printInt]

/-- A number can stand in a query as it is printed. -/
theorem plain_printInt (n : Int) : Form.Plain (Numeral.printInt n) := by
  have hascii : ∀ c ∈ (Numeral.printInt n).toList, c = '-' ∨ (48 ≤ c.toNat ∧ c.toNat ≤ 57) :=
    fun c hc => (Numeral.isDigit_of_mem_printInt hc).imp_right Numeral.toNat_of_isDigit
  intro b hb
  have hle : ∀ c ∈ (Numeral.printInt n).toList, c.toNat ≤ 0x7F := by
    intro c hc
    rcases hascii c hc with rfl | ⟨-, h⟩
    · decide
    · omega
  rw [Utf8.encode, Utf8.encodeChars_of_le hle] at hb
  obtain ⟨c, hc, rfl⟩ := List.mem_map.1 hb
  rcases hascii c hc with rfl | ⟨hlow, hhigh⟩
  · decide
  · have hto : (UInt8.ofNat c.toNat).toNat = c.toNat :=
      UInt8.toNat_ofNat_of_lt' (show c.toNat < 256 by omega)
    intro hspecial
    have hvalue : c.toNat = 0x25 ∨ c.toNat = 0x2B ∨ c.toNat = 0x26 ∨ c.toNat = 0x3D := by
      simpa [Form.special, ← UInt8.toNat_inj, hto] using hspecial
    omega

/-- **Every wish can be said in a query**, whatever numbers it names. -/
theorem ofFields?_decode_write (w : PageWish) :
    ofFields? (Form.decode (Form.write w.fields)) = some w := by
  have hplain : ∀ field ∈ w.fields, Form.Plain field.1 ∧ Form.Plain field.2 := by
    intro field hfield
    obtain ⟨⟨name, number⟩, hname, he⟩ := List.mem_filterMap.1 hfield
    obtain ⟨n, -, rfl⟩ := Option.map_eq_some_iff.1 he
    have hmem : name ∈ ["limit", "before_id", "after_id"] :=
      List.mem_map_of_mem (f := Prod.fst) hname
    have hnames : ∀ s ∈ ["limit", "before_id", "after_id"], Form.Plain s := by decide +kernel
    exact ⟨hnames name hmem, plain_printInt _⟩
  rw [Form.decode_write hplain, ofFields?_fields]

end PageWish

/-! ### Requests for a page -/

namespace Http

variable {terms : Terms} {r : Request}

/-- **The query of a request is the text behind the question mark**, up to a number sign. -/
theorem ofFields?_query {path : List UInt8} {query : String}
    (hpath : ∀ b ∈ path, b ≠ 0x3F ∧ b ≠ 0x23)
    (htarget : r.target = path ++ 0x3F :: Utf8.encode query) :
    PageWish.ofFields? (Form.decode r.query) = PageWish.ofText? query := by
  have hplace : r.place = path ++ 0x3F :: (Utf8.encode query).takeWhile (· != 0x23) := by
    rw [Request.place, htarget, List.takeWhile_append_of_pos fun b hb => by simp [(hpath b hb).2]]
    rfl
  have hquery : r.query = (Utf8.encode query).takeWhile (· != 0x23) := by
    rw [Request.query, hplace, List.dropWhile_append_of_pos fun b hb => by simp [(hpath b hb).1]]
    rfl
  rw [hquery, PageWish.ofText?]

/-- **A request asks for pages only as its query says**, and of a size that a page may have. -/
def AsksFor (r : Request) (_ : List Exchange) (call : Call) : Prop :=
  ∀ id spec, call = .store (.page id spec) →
    PageWish.IsSize spec.limit ∧
      ∃ w, PageWish.ofFields? (Form.decode r.query) = some w ∧ w.request? = some spec

/-- What a request for a page does on the way to its answer. -/
theorem obeys_page {chat : List UInt8} (hroute : route? r = some (.page chat)) :
    (handle terms r).Obeys (AsksFor r) (fun _ _ => True) [] := by
  rw [handle_of_route? hroute]
  refine Flow.Obeys.bind (Q := fun _ _ => True) ?_ fun _ _ _ => trivial
  refine Flow.Obeys.bind (Q := fun _ result => ∀ outcome, result = .ok outcome → True) ?_
    fun _ result _ => by cases result <;> trivial
  refine Attempt.Obeys.bind (Q := fun _ _ => True) ?_ fun _ _ _ => Attempt.obeys_pure trivial
  refine Attempt.Obeys.bind (Q := fun _ _ => True)
    (obeys_caller fun _ _ => nofun).ofTask fun _ user _ => ?_
  refine Attempt.Obeys.bind (Q := fun _ _ => True)
    (Attempt.obeys_require fun _ _ => trivial) fun _ id _ => ?_
  refine Attempt.Obeys.bind
    (Q := fun _ w => PageWish.ofFields? (Form.decode r.query) = some w)
    (Attempt.obeys_require fun _ h => h) fun _ w hw => ?_
  refine Attempt.Obeys.bind (Q := fun _ spec => w.request? = some spec)
    (Attempt.obeys_require fun _ h => h) fun _ spec hspec => ?_
  refine Attempt.Obeys.bind (Q := fun _ _ => True) (Attempt.Obeys.ofTask ?_)
    fun _ _ _ => Attempt.obeys_pure trivial
  refine (obeys_ownChat nofun).bind fun _ _ _ => Attempt.obeys_store ?_ fun _ => trivial
  rintro id' spec' he
  obtain ⟨rfl, rfl⟩ : id = id' ∧ spec = spec' := by simpa using he
  refine ⟨?_, w, hw, hspec⟩
  rw [PageWish.limit_of_request? hspec]
  exact PageWish.isSize_size _

/-! ### Requests that get their page -/

/-- **Nothing stands against a page**: a user of the chat asks for it, in words that make sense, and
the store does not fail. -/
structure Granted (house : Service.House) (luck : Service.Luck) (r : Request) (id : ChatId)
    (spec : PageSpec) : Prop where
  /-- The request is one for a page of the chat. -/
  route : ∃ chat, route? r = some (.page chat) ∧ pathNumber? chat = some id
  /-- Its query says which page. -/
  query : ∃ w, PageWish.ofFields? (Form.decode r.query) = some w ∧ w.request? = some spec
  /-- It says who makes it. -/
  bearer : bearer? r ≠ none
  /-- This is a user of the chat. -/
  member : ∃ user found, luck.bearer = .ok (some user) ∧
    house.annals.records.chats.get? id = some found ∧ found.hasMember user = true
  /-- The store does not fail. -/
  store : luck.storeFailure = none

section Runs

variable {luck : Service.Luck} {fresh : String} {found : Option ConnectionId}
variable {house : Service.House} {user : UserId} {id : ChatId} {spec : PageSpec}

theorem run_caller (hbearer : bearer? r ≠ none) (hluck : luck.bearer = .ok (some user)) :
    (caller r).run.run (Service.House.serve fresh luck found) house = (.ok user, house) := by
  obtain ⟨token, htoken⟩ := Option.ne_none_iff_exists'.1 hbearer
  have hreply : (Task.orFail Refusal.ofStore (Flow.call (.authenticate token))).run.run
      (Service.House.serve fresh luck found) house = (.ok (some user), house) := by
    rw [Task.run_orFail]
    change (luck.bearer.mapError Refusal.ofStore, house) = _
    rw [hluck]
    rfl
  unfold caller
  rw [htoken]
  exact Flow.run_bind_ok hreply

/-- To read is to leave everything as it is. -/
theorem run_page {chat : Chat} (hstore : luck.storeFailure = none)
    (hchat : house.annals.records.chats.get? id = some chat)
    (hmember : chat.hasMember user = true) :
    (Correspondence.page user id spec).run.run (Service.House.serve fresh luck found) house =
      (.ok (spec.slice (house.annals.records.log id)), house) := by
  have hserve : ∀ q, Service.House.serve fresh luck found (.store q) house =
      ((house.annals.answer luck.now q).1,
        { house with annals := (house.annals.answer luck.now q).2 }) := by
    intro q
    simp only [Service.House.serve, hstore]
  have hask : (Task.store (.chat id)).run.run (Service.House.serve fresh luck found) house =
      (.ok (some chat), house) := by
    rw [Task.run_store, hserve, ← hchat]
    rfl
  have hown : (Correspondence.ownChat user id).run.run (Service.House.serve fresh luck found)
      house = (.ok chat, house) := by
    refine (Flow.run_bind_ok hask).trans ?_
    simp only [hmember, if_true]
    rfl
  refine (Flow.run_bind_ok hown).trans ?_
  rw [Task.run_store, hserve]
  rfl

theorem run_ofTask {α σ : Type} {serve : Flow.Server σ} {task : Task α} {a : α} {s s' : σ}
    (h : task.run.run serve s = (.ok a, s')) :
    (Answering.ofTask task).run.run serve s = (.ok a, s') := by
  change (task.run >>= _ : Flow (Except Response α)).run serve s = _
  rw [Flow.run_bind, h]
  rfl

/-- **A page that nothing stands against is served**, as it is cut out of the log of the chat. -/
theorem run_handle (h : Granted house luck r id spec) (terms : Terms) (fresh : String)
    (found : Option ConnectionId) :
    (handle terms r).run (Service.House.serve fresh luck found) house =
      (finish terms r (.respond (.json 200 (Json.writeList Message.encode
        (spec.slice (house.annals.records.log id))))), house) := by
  obtain ⟨chat, hroute, hid⟩ := h.route
  obtain ⟨w, hw, hspec⟩ := h.query
  obtain ⟨user, record, hluck, hrecord, hmember⟩ := h.member
  have hpage : (page chat r).run.run (Service.House.serve fresh luck found) house =
      (.ok (.json 200 (Json.writeList Message.encode
        (spec.slice (house.annals.records.log id)))), house) := by
    refine (Flow.run_bind_ok (run_ofTask (run_caller h.bearer hluck))).trans ?_
    rw [hid, hw]
    change ((Answering.require bothCursors w.request? >>= fun request =>
      Answering.ofTask (Correspondence.page user id request) >>= fun messages =>
        pure (.json 200 (Json.writeList Message.encode messages))) :
      Answering Response).run.run _ _ = _
    rw [hspec]
    exact Flow.run_bind_ok (run_ofTask (run_page h.store hrecord hmember))
  have hserve : (serve terms r (.page chat)).run.run (Service.House.serve fresh luck found) house =
      (.ok (.respond (.json 200 (Json.writeList Message.encode
        (spec.slice (house.annals.records.log id))))), house) :=
    Flow.run_bind_ok hpage
  rw [handle_of_route? hroute, Flow.run_bind, settle, Flow.run_bind, hserve]
  rfl

end Runs

end Http

/-! ### What is served -/

/-- **Pages are what was asked for**: the pages of a log, and those that requests ask for. -/
structure PagesServed (log : List Message) : Prop where
  /-- A page is as many messages as were asked for, from the right end of the right messages. -/
  cut : ∀ request : PageSpec, request.IsCut log (request.slice log)
  /-- It is a part of the log in one piece, and in order. -/
  piece : ∀ request : PageSpec, request.slice log <:+: log ∧ Ascending (request.slice log)
  /-- It is cut out between two places of the log, and the first one is not behind the second. -/
  bounds : ∀ request : PageSpec, (request.bounds log).1 ≤ (request.bounds log).2 ∧
    (request.bounds log).2 ≤ log.length
  /-- The places that are searched for part the log, and no other places do. -/
  places : ∀ (x : MessageId) (place : Nat),
    (PartsAt (fun m => m.id < x) log place ↔ place = turningPoint (fun m => m.id < x) log) ∧
    (PartsAt (fun m => m.id ≤ x) log place ↔ place = turningPoint (fun m => m.id ≤ x) log)
  /-- No sum of a place and a size is too great for a word, if no log is. -/
  sum_lt : log.length < 2 ^ 63 → ∀ (x : MessageId) (limit : UInt32),
    turningPoint (fun m => m.id ≤ x) log + limit.toNat < 2 ^ 64
  /-- The query of a request is the text behind the question mark, up to a number sign. -/
  read : ∀ (r : Http.Request) (path : List UInt8) (query : String),
    (∀ b ∈ path, b ≠ 0x3F ∧ b ≠ 0x23) → r.target = path ++ 0x3F :: Utf8.encode query →
      PageWish.ofFields? (Form.decode r.query) = PageWish.ofText? query
  /-- What a request asks the store for comes of its query, and is of a size between one and the
  greatest one. -/
  asked : ∀ (terms : Terms) (r : Http.Request) (chat : List UInt8),
    Http.route? r = some (.page chat) →
    (Http.handle terms r).Obeys (Http.AsksFor r) (fun _ _ => True) []
  /-- When nothing stands against it, the answer is the page that was asked for. -/
  served : ∀ (terms : Terms) (r : Http.Request) (house : Service.House) (luck : Service.Luck)
    (fresh : String) (found : Option ConnectionId) (id : ChatId) (spec : PageSpec),
    Http.Granted house luck r id spec → house.annals.records.log id = log →
    (Http.handle terms r).run (Service.House.serve fresh luck found) house =
      (Http.finish terms r (.respond (.json 200 (Json.writeList Message.encode (spec.slice log)))),
        house)
  /-- Every wish can be said in a query, and whatever size it names, the page has a size. -/
  wished : ∀ w : PageWish,
    PageWish.ofFields? (Form.decode (Form.write w.fields)) = some w ∧
    ((w.beforeId.isSome = true ∧ w.afterId.isSome = true) ∨
      ∃ spec, w.request? = some spec ∧ PageWish.IsSize spec.limit ∧
        spec.limit.toNat = match w.limit with
          | some n => if 0 < n then min n.toInt.toNat Limit.pageMost else Limit.pageDefault
          | none => Limit.pageDefault)

/-- **The pages of a log in order are what was asked for.** -/
theorem Ascending.pages_served {log : List Message} (h : Ascending log) : PagesServed log where
  cut := h.isCut
  piece request := ⟨request.slice_isInfix log, h.slice request⟩
  bounds request := request.bounds_fit log
  places x place := by
    refine ⟨⟨PartsAt.eq_turningPoint, ?_⟩, ⟨PartsAt.eq_turningPoint, ?_⟩⟩
    · rintro rfl
      exact h.partsAt_lt x
    · rintro rfl
      exact h.partsAt_le x
  sum_lt hlog x limit := turningPoint_add_lt _ limit hlog
  read _ _ _ hpath htarget := Http.ofFields?_query hpath htarget
  asked _ _ _ hroute := Http.obeys_page hroute
  served terms r house luck fresh found id spec hgranted hlog :=
    hlog ▸ Http.run_handle hgranted terms fresh found
  wished w := by
    refine ⟨w.ofFields?_decode_write, ?_⟩
    by_cases hboth : w.beforeId.isSome = true ∧ w.afterId.isSome = true
    · exact Or.inl hboth
    · obtain ⟨spec, hspec⟩ := Option.isSome_iff_exists.1 (PageWish.isSome_request?_iff.2 hboth)
      refine Or.inr ⟨spec, hspec, ?_, ?_⟩
      · exact PageWish.limit_of_request? hspec ▸ PageWish.isSize_size w.limit
      · rw [PageWish.limit_of_request? hspec, PageWish.toNat_size]

/-- A log of two messages, whose numbers leave room between them. -/
def sampleLog : List Message :=
  [⟨3, 1, 10, 20, "one", .text, false, ⟨0, 0⟩⟩, ⟨7, 1, 20, 10, "two", .text, true, ⟨1, 0⟩⟩]

theorem Ascending.pages_served_sample :
    Ascending sampleLog ∧ PagesServed sampleLog ∧
      (PageSpec.slice ⟨.before 5, 4294967295⟩ sampleLog).map (·.id) = [3] ∧
      (PageSpec.slice ⟨.after 3, 200⟩ sampleLog).map (·.id) = [7] ∧
      PageSpec.slice ⟨.latest, 0⟩ sampleLog = [] := by
  have hasc : Ascending sampleLog := by
    simp [Ascending, sampleLog]
  refine ⟨hasc, Ascending.pages_served hasc, ?_, ?_, ?_⟩
  all_goals decide

end Rendezvous
