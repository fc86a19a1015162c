import Rendezvous.Proofs.Service.Requests
import Rendezvous.Proofs.Settings.Environment
import Rendezvous.Proofs.Text.Entries

/-!
# Who may connect

A list of origins can be configured, and a request for a connection whose page has another origin is
then turned away. A header is bytes, an entry of the list is a text. The two are compared as texts,
and a header that holds anything else than visible ASCII, spaces and tabs is none. The check takes
such a header for one that is not there, and lets its request pass like that of a client that is no
browser (`Http.OriginChecked.passes_iff`). So the list does not keep out everybody whose origin is
not on it (`Http.not_watertight`).

That a request passes is said without the check itself: it is handled as it would be if no list were
configured (`Http.Passes`).
-/

namespace Rendezvous.Http

variable {terms : Terms} {r : Request} {text : String}

/-! ### Origins -/

/-- **A request for a connection** that can be promoted. -/
structure AsksToConnect (r : Request) : Prop where
  /-- It goes to the route for connections. -/
  route : route? r = some .connect
  /-- Nothing stands against the promotion. -/
  upgrade : upgradeObjection? r = none

/-- **The origin check lets a request pass**: the request is handled as if any page could connect. -/
def Passes (terms : Terms) (r : Request) : Prop :=
  handle terms r = handle { terms with connectionOrigins := none } r

/-- **A request is turned away** because of its origin, and nothing is asked of anybody. -/
def TurnedAwayByOrigin (terms : Terms) (r : Request) : Prop :=
  ∃ answer, handle terms r = .done (.respond answer) ∧ answer.status = 403 ∧
    answer.body = .json Refusal.foreignOrigin.body

/-- A request has no header for its origin. -/
def Originless (r : Request) : Prop :=
  r.header? "origin" = none

/-- **The origin of a request is an entry of a list**, byte for byte. -/
def IsListed (text : String) (r : Request) : Prop :=
  ∃ entry, IsEntry text entry ∧ r.header? "origin" = some (Utf8.encode entry)

/-- **The origin of a request is no text** to the service: there is a byte in it that is neither
visible ASCII nor a space nor a tab. -/
def IsIllegible (r : Request) : Prop :=
  ∃ value, r.header? "origin" = some value ∧ ∃ b ∈ value, Request.isVisible b = false

/-! ### The text of a header -/

theorem toNat_ofNat_of_le : ∀ n ≤ 0x7F, (Char.ofNat n).toNat = n := by
  decide

theorem encode_of_visible? {value : List UInt8} {o : String}
    (h : Request.visible? value = some o) : Utf8.encode o = value := by
  unfold Request.visible? at h
  split at h
  · next hall =>
    obtain rfl := Option.some.inj h
    have hsmall : ∀ b ∈ value, b.toNat ≤ 0x7F := by
      intro b hb
      have hvisible := List.all_eq_true.1 hall b hb
      simp only [Request.isVisible, Bool.or_eq_true, Bool.and_eq_true, decide_eq_true_eq,
        beq_iff_eq, UInt8.le_iff_toNat_le, UInt8.lt_iff_toNat_lt] at hvisible
      rcases hvisible with ⟨-, hlt⟩ | rfl
      · exact Nat.le_of_lt hlt
      · decide
    have hto : ∀ b ∈ value, (Char.ofNat b.toNat).toNat = b.toNat := fun b hb =>
      toNat_ofNat_of_le _ (hsmall b hb)
    rw [Utf8.encode, String.toList_ofList, Utf8.encodeChars_of_le, List.map_map]
    · refine (List.map_congr_left fun b hb => ?_).trans (List.map_id _)
      simp [hto b hb]
    · intro c hc
      obtain ⟨b, hb, rfl⟩ := List.mem_map.1 hc
      rw [hto b hb]
      exact hsmall b hb
  · exact absurd h (by simp)

/-- What is written in bytes determines the text. -/
theorem encode_inj {o o' : String} (h : Utf8.encode o = Utf8.encode o') : o = o' := by
  have hread := Utf8.decodeString_encode o
  rw [h, Utf8.decodeString_encode] at hread
  exact (Option.some.inj hread).symm

theorem visible?_eq_none_iff {value : List UInt8} :
    Request.visible? value = none ↔ ∃ b ∈ value, Request.isVisible b = false := by
  unfold Request.visible?
  split
  · next hall =>
    refine ⟨fun h => absurd h (by simp), fun ⟨b, hb, hno⟩ => ?_⟩
    exact absurd ((List.all_eq_true.1 hall b hb).symm.trans hno) (by simp)
  · next hnot => simpa using hnot

/-! ### The check -/

/-- **What the check asks**, in terms of bytes. -/
theorem mayConnect_iff (text : String) (r : Request) :
    mayConnect (some (listEntries text)) (r.text? "origin") = true ↔
      Originless r ∨ IsIllegible r ∨ IsListed text r := by
  unfold Originless IsIllegible IsListed Request.text?
  cases hheader : r.header? "origin" with
  | none => simp [mayConnect]
  | some value =>
    cases hvisible : Request.visible? value with
    | none =>
      refine iff_of_true (by simp [mayConnect, hvisible]) (Or.inr (Or.inl ⟨value, rfl, ?_⟩))
      exact visible?_eq_none_iff.1 hvisible
    | some o =>
      have hlegible : ¬∃ b ∈ value, Request.isVisible b = false := fun h =>
        absurd (visible?_eq_none_iff.2 h) (by simp [hvisible])
      have hvalue := encode_of_visible? hvisible
      have hlisted : (∃ entry, IsEntry text entry ∧ some value = some (Utf8.encode entry)) ↔
          o ∈ listEntries text := by
        rw [mem_listEntries_iff]
        constructor
        · rintro ⟨entry, hentry, he⟩
          obtain rfl : o = entry := encode_inj (hvalue.trans (Option.some.inj he))
          exact hentry
        · exact fun hentry => ⟨o, hentry, congrArg some hvalue.symm⟩
      rw [hlisted]
      simp [mayConnect, hvisible, hlegible]

/-- **A list with an entry restricts connections** to its entries. -/
theorem connectionOrigins_eq {env : Environment} {settings : Settings}
    (henv : Settings.ofEnvironment env = .ok settings)
    (htext : env.get? "WS_ALLOWED_ORIGINS" = some text) (hentry : ∃ entry, IsEntry text entry) :
    settings.connectionOrigins = some (listEntries text) := by
  obtain ⟨entry, hentry⟩ := hentry
  have hne : listEntries text ≠ [] := List.ne_nil_of_mem (mem_listEntries_iff.2 hentry)
  rw [Settings.connectionOrigins_of_environment henv, Settings.readOrigins, htext]
  simp [hne]

/-! ### What the check does to requests -/

section Check

variable (h : AsksToConnect r)

include h

/-- A request that may connect is handled as if any could. -/
theorem passes_of_mayConnect
    (horigin : mayConnect terms.connectionOrigins (r.text? "origin") = true) : Passes terms r := by
  have hany : mayConnect none (r.text? "origin") = true := rfl
  unfold Passes
  rw [handle_of_route? h.route, handle_of_route? h.route, settle_connect, settle_connect, h.upgrade]
  simp only [horigin, hany, if_true]
  rfl

/-- Any other one is turned away. -/
theorem turnedAwayByOrigin_of_not_mayConnect
    (horigin : mayConnect terms.connectionOrigins (r.text? "origin") = false) :
    TurnedAwayByOrigin terms r := by
  have hmethod : r.method = "GET" := by
    have hupgrade := h.upgrade
    unfold upgradeObjection? at hupgrade
    by_contra hne
    simp [hne] at hupgrade
  have hfinish : finish terms r (.respond (.ofRefusal .foreignOrigin)) =
      .respond (Cors.mark terms.sharing r (.ofRefusal .foreignOrigin)) := by
    simp [finish, hmethod, Outcome.mapAnswer]
  refine ⟨Cors.mark terms.sharing r (.ofRefusal .foreignOrigin), ?_, rfl, rfl⟩
  rw [handle_of_route? h.route, settle_connect, h.upgrade]
  simp only [horigin]
  exact congrArg Flow.done hfinish

/-- Nobody is turned away because of the origin where any page may connect. -/
theorem not_turnedAwayByOrigin_of_passes (hpasses : Passes terms r) :
    ¬TurnedAwayByOrigin terms r := by
  rintro ⟨answer, hanswer, hstatus, -⟩
  have hany : mayConnect none (r.text? "origin") = true := rfl
  rw [hpasses, handle_of_route? h.route, settle_connect, h.upgrade] at hanswer
  simp only [hany, if_true] at hanswer
  cases htoken : sessionToken? r with
  | none =>
    obtain ⟨answer', he, hstatus'⟩ :=
      finish_respond { terms with connectionOrigins := none } r (.ofRefusal .noSession)
    simp only [htoken, Flow.done_bind, he, Flow.done.injEq, Outcome.respond.injEq] at hanswer
    rw [← hanswer, hstatus'] at hstatus
    exact absurd hstatus (by decide)
  | some token =>
    rw [htoken] at hanswer
    exact absurd hanswer nofun

end Check

/-! ### The origin check -/

/-- **What the origin check is for**: a request passes it only without a header for its origin or
with an entry of the list in it, and any other one is turned away, whatever bytes a header can
hold. -/
def Watertight : Prop :=
  ∀ (env : Environment) (settings : Settings) (sharing : Sharing) (text : String) (r : Request),
    Settings.ofEnvironment env = .ok settings → env.get? "WS_ALLOWED_ORIGINS" = some text →
    (∃ entry, IsEntry text entry) → AsksToConnect r →
    (∀ value, r.header? "origin" = some value → ∀ b ∈ value, isHeaderByte b = true) →
    (Passes (settings.terms sharing) r → Originless r ∨ IsListed text r) ∧
      (¬(Originless r ∨ IsListed text r) → TurnedAwayByOrigin (settings.terms sharing) r)

/-- **What the origin check does**, with a list of origins. -/
structure OriginChecked (terms : Terms) (text : String) (r : Request) : Prop where
  /-- A request passes exactly without a header for its origin, with one that is no text, or with
  one that is an entry of the list. -/
  passes_iff : Passes terms r ↔ Originless r ∨ IsIllegible r ∨ IsListed text r
  /-- Any other one is turned away, and none that passes. -/
  turned_away_iff : TurnedAwayByOrigin terms r ↔ ¬Passes terms r

/-- **The origin check compares origins that are texts with the entries of the list**, byte for
byte. -/
theorem originChecked {env : Environment} {settings : Settings}
    (henv : Settings.ofEnvironment env = .ok settings)
    (htext : env.get? "WS_ALLOWED_ORIGINS" = some text) (hentry : ∃ entry, IsEntry text entry)
    (h : AsksToConnect r) (sharing : Sharing) : OriginChecked (settings.terms sharing) text r := by
  have horigins : (settings.terms sharing).connectionOrigins = some (listEntries text) :=
    connectionOrigins_eq henv htext hentry
  have hcheck := mayConnect_iff text r
  rw [← horigins] at hcheck
  cases hmay : mayConnect (settings.terms sharing).connectionOrigins (r.text? "origin") with
  | true =>
    have hpasses := passes_of_mayConnect h hmay
    exact ⟨iff_of_true hpasses (hcheck.1 hmay),
      iff_of_false (not_turnedAwayByOrigin_of_passes h hpasses) (not_not.2 hpasses)⟩
  | false =>
    have haway := turnedAwayByOrigin_of_not_mayConnect h hmay
    have hnot : ¬Passes (settings.terms sharing) r := fun hpasses =>
      not_turnedAwayByOrigin_of_passes h hpasses haway
    exact ⟨iff_of_false hnot fun hlet => absurd (hcheck.2 hlet) (by simp [hmay]),
      iff_of_true haway hnot⟩

/-- A list with one entry, and a blank behind the comma. -/
def sampleOrigins : Environment :=
  [("WS_ALLOWED_ORIGINS", "https://app.example, ")]

/-- The settings with this list. -/
def sampleSettings : Settings :=
  { Settings.default with connectionOrigins := some ["https://app.example"] }

/-- A request for a connection from a page of some origin. -/
def sampleConnecting (origin : List UInt8) : Request :=
  ⟨"GET", Utf8.encode "/ws/chat?session=t", [("Connection", Utf8.encode "Upgrade"),
    ("Upgrade", Utf8.encode "websocket"), ("Sec-WebSocket-Version", Utf8.encode "13"),
    ("Sec-WebSocket-Key", Utf8.encode "dGhlIHNhbXBsZSBub25jZQ=="), ("Origin", origin)], [], true⟩

theorem originChecked_sample :
    Settings.ofEnvironment sampleOrigins = .ok sampleSettings ∧
      sampleOrigins.get? "WS_ALLOWED_ORIGINS" = some "https://app.example, " ∧
      IsEntry "https://app.example, " "https://app.example" ∧
      AsksToConnect (sampleConnecting (Utf8.encode "https://app.example/")) ∧
      OriginChecked (sampleSettings.terms .everyone) "https://app.example, "
        (sampleConnecting (Utf8.encode "https://app.example/")) := by
  have henv : Settings.ofEnvironment sampleOrigins = .ok sampleSettings := by rfl
  have htext : sampleOrigins.get? "WS_ALLOWED_ORIGINS" = some "https://app.example, " := by rfl
  have hentry : IsEntry "https://app.example, " "https://app.example" :=
    mem_listEntries_iff.1 (by decide +kernel)
  have hasks : AsksToConnect (sampleConnecting (Utf8.encode "https://app.example/")) :=
    ⟨by decide +kernel, by decide +kernel⟩
  exact ⟨henv, htext, hentry, hasks, originChecked henv htext ⟨_, hentry⟩ hasks .everyone⟩

/-- **The origin check is not watertight**: a page whose origin has a letter outside of ASCII passes,
although it is not listed. -/
theorem not_watertight : ¬Watertight := by
  intro hwatertight
  have hasks : AsksToConnect (sampleConnecting (Utf8.encode "https://évil.example")) :=
    ⟨by decide +kernel, by decide +kernel⟩
  have hheader : (sampleConnecting (Utf8.encode "https://évil.example")).header? "origin" =
      some (Utf8.encode "https://évil.example") := by decide +kernel
  have hentries : listEntries "https://app.example, " = ["https://app.example"] := by
    decide +kernel
  have hbytes : ∀ b ∈ Utf8.encode "https://évil.example", isHeaderByte b = true := by
    decide +kernel
  have hpasses : Passes (sampleSettings.terms .everyone)
      (sampleConnecting (Utf8.encode "https://évil.example")) :=
    passes_of_mayConnect hasks (by decide +kernel)
  rcases (hwatertight sampleOrigins sampleSettings .everyone "https://app.example, " _ rfl rfl
    ⟨_, mem_listEntries_iff.1 (by rw [hentries]; exact List.mem_cons_self)⟩ hasks
    fun value hvalue => Option.some.inj (hheader.symm.trans hvalue) ▸ hbytes).1 hpasses with
    hnone | ⟨entry, hentry, hvalue⟩
  · exact absurd (hheader.symm.trans hnone) (by simp)
  · obtain rfl : entry = "https://app.example" := by
      simpa [hentries] using mem_listEntries_iff.2 hentry
    exact absurd (hheader.symm.trans hvalue) (by decide +kernel)

end Rendezvous.Http
