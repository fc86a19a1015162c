import Rendezvous.Proofs.Service.Origins
import Rendezvous.Proofs.Service.Strangers

/-!
# To whom answers are shown

A browser shows the answers of the service to a page if they name the origin of the page, or every
page. For whom that is can be listed. An entry of the list has to be fit for a header (`IsFit`), and
those that are not are passed over without a word, before the list is asked whether it has any
entry. So a list that restricts nobody is not only one without entries: a list in which no entry is
fit opens the service to every page (`not_neverFailsOpen`). And a list that asks for every page by
the sign for it is one that the service does not start with.

Everything else is as listed (`sharedAsListed`). With a list that has a fit entry, a page is told
that it may read the answers exactly if its origin is a fit entry, byte for byte, and this holds for
the answer to every request.
-/

namespace Rendezvous

variable {list : Option String} {entry origin : String}

/-! ### Entries that are fit for a header -/

/-- **An entry is fit for a header**: there is no control character of ASCII in it but the tab. -/
def IsFit (entry : String) : Prop :=
  ∀ c ∈ entry.toList, c = '\t' ∨ (0x20 ≤ c.toNat ∧ c.toNat ≠ 0x7F)

instance (entry : String) : Decidable (IsFit entry) :=
  inferInstanceAs (Decidable (∀ c ∈ entry.toList, _))

theorem isHeaderByte_iff {b : UInt8} :
    isHeaderByte b = true ↔ b.toNat = 9 ∨ (0x20 ≤ b.toNat ∧ b.toNat ≠ 0x7F) := by
  simp only [isHeaderByte, Bool.or_eq_true, Bool.and_eq_true, decide_eq_true_eq, bne_iff_ne,
    beq_iff_eq, UInt8.le_iff_toNat_le, ne_eq, ← UInt8.toNat_inj]
  exact or_comm

theorem toNat_eq_nine_iff {c : Char} : c.toNat = 9 ↔ c = '\t' := by
  constructor
  · intro h
    rw [← Char.ofNat_toNat c, h]
  · rintro rfl
    rfl

/-- **A text may stand in a header** exactly if it is fit for one. -/
theorem isHeaderText_iff : isHeaderText entry = true ↔ IsFit entry := by
  have hbytes : isHeaderText entry = true ↔
      ∀ c ∈ entry.toList, ∀ b ∈ String.utf8EncodeChar c, isHeaderByte b = true := by
    simp only [isHeaderText, Utf8.encode, Utf8.encodeChars, List.all_eq_true, List.mem_flatMap]
    constructor
    · intro h c hc b hb
      exact h b ⟨c, hc, hb⟩
    · rintro h b ⟨c, hc, hb⟩
      exact h c hc b hb
  rw [hbytes, IsFit]
  refine forall₂_congr fun c _ => ?_
  simp only [isHeaderByte_iff, ← toNat_eq_nine_iff]
  constructor
  · intro h
    by_cases hascii : c.toNat ≤ 0x7F
    · have hto : (UInt8.ofNat c.toNat).toNat = c.toNat :=
        UInt8.toNat_ofNat_of_lt' (show c.toNat < 256 by omega)
      have hbyte := h (UInt8.ofNat c.toNat) (by simp [Utf8.utf8EncodeChar_of_le hascii])
      rwa [hto] at hbyte
    · omega
  · intro h b hb
    rcases Utf8.toNat_of_mem_utf8EncodeChar hb with hvalue | hhigh <;> omega

/-! ### What comes of a list -/

/-- **An entry of a list that is configured**, if one is. -/
def IsEntryOf (list : Option String) (entry : String) : Prop :=
  ∃ text, list = some text ∧ IsEntry text entry

namespace Sharing

theorem mem_entries_iff :
    entry ∈ ((list.map listEntries).getD []).filter isHeaderText ↔
      IsEntryOf list entry ∧ IsFit entry := by
  rw [List.mem_filter, isHeaderText_iff]
  cases list with
  | none => simp [IsEntryOf]
  | some text => simp [IsEntryOf, mem_listEntries_iff]

theorem isFit_wildcard : IsFit wildcard := by
  intro c hc
  obtain rfl : c = '*' := by simpa [wildcard] using hc
  exact Or.inr (by decide)

/-- **What comes of a list**: every page if no entry is fit, nothing if the sign for every page is
an entry, and the fit entries otherwise. -/
theorem ofList?_cases (list : Option String) :
    (ofList? list = some .everyone ∧ ∀ entry, IsEntryOf list entry → ¬IsFit entry) ∨
    (ofList? list = none ∧ IsEntryOf list wildcard) ∨
    ∃ origins, ofList? list = some (.only origins) ∧ origins ≠ [] ∧ ¬IsEntryOf list wildcard ∧
      ∀ entry, entry ∈ origins ↔ IsEntryOf list entry ∧ IsFit entry := by
  have hmem : ∀ entry, entry ∈ ((list.map listEntries).getD []).filter isHeaderText ↔
      IsEntryOf list entry ∧ IsFit entry := fun entry => mem_entries_iff
  unfold ofList?
  generalize ((list.map listEntries).getD []).filter isHeaderText = origins at hmem
  by_cases hempty : origins = []
  · subst hempty
    exact Or.inl ⟨rfl, fun entry hentry hfit => absurd ((hmem entry).2 ⟨hentry, hfit⟩) (by simp)⟩
  · refine Or.inr ?_
    by_cases hwild : wildcard ∈ origins
    · exact Or.inl ⟨by simp [hempty, hwild], ((hmem _).1 hwild).1⟩
    · exact Or.inr ⟨origins, by simp [hempty, hwild], hempty,
        fun hentry => hwild ((hmem _).2 ⟨hentry, isFit_wildcard⟩), hmem⟩

end Sharing

/-! ### What pages are told -/

namespace Http

variable {terms : Terms} {r : Request} {origins : List String}

/-- **A page is told that its answer is for an origin.** -/
def IsTold (sharing : Sharing) (r : Request) (origin : String) : Prop :=
  ("access-control-allow-origin", origin) ∈ Cors.originHeaders sharing r

theorem isTold_iff {sharing : Sharing} :
    IsTold sharing r origin ↔ Cors.admitted? sharing r = some origin := by
  unfold IsTold Cors.originHeaders
  cases Cors.admitted? sharing r <;> simp [eq_comm]

theorem isTold_everyone_iff : IsTold .everyone r origin ↔ origin = Sharing.wildcard := by
  rw [isTold_iff]
  simp [Cors.admitted?, eq_comm]

/-- **Where origins are listed**, a page is told about its own origin only, and only if this is one
of them. -/
theorem isTold_only_iff : IsTold (.only origins) r origin ↔
    origin ∈ origins ∧ r.header? "origin" = some (Utf8.encode origin) := by
  rw [isTold_iff, Cors.admitted?]
  cases r.header? "origin" with
  | none => simp
  | some value =>
    constructor
    · intro hfind
      have hvalue : Utf8.encode origin = value := by simpa using List.find?_some hfind
      exact ⟨List.mem_of_find?_eq_some hfind, congrArg some hvalue.symm⟩
    · rintro ⟨hmem, hvalue⟩
      obtain rfl := Option.some.inj hvalue
      -- there is an entry with these bytes, and no other entry has them
      obtain ⟨found, hfind⟩ : ∃ found,
          origins.find? (fun o => Utf8.encode o == Utf8.encode origin) = some found :=
        Option.isSome_iff_exists.1 (List.find?_isSome.2 ⟨origin, hmem, beq_self_eq_true _⟩)
      have hfound : Utf8.encode found = Utf8.encode origin := by
        simpa using List.find?_some hfind
      rwa [encode_inj hfound] at hfind

/-- **An answer carries what its page is told.** -/
def Carries (sharing : Sharing) (r : Request) (answer : Response) : Prop :=
  ∃ front back, answer.headers = front ++ Cors.originHeaders sharing r ++ back

/-- **Every answer carries what its page is told**, whatever the request is and comes to. -/
theorem handle_obeys_carries (terms : Terms) (r : Request) :
    (handle terms r).Obeys (fun _ _ => True)
      (fun _ outcome => ∀ answer, outcome = .respond answer → Carries terms.sharing r answer)
      [] := by
  unfold handle
  split
  · rintro answer he
    obtain rfl := Outcome.respond.inj he
    exact ⟨[], _, rfl⟩
  · refine Flow.Obeys.bind (Q := fun _ _ => True) ?_ fun past outcome _ => ?_
    · exact Flow.obeys_of_forall fun _ _ _ => trivial
    · rintro answer he
      cases outcome with
      | promote user token => exact absurd he nofun
      | respond answer' =>
        obtain rfl := Outcome.respond.inj he
        exact ⟨answer'.headers, [], (List.append_nil _).symm⟩

/-! ### The list and the pages -/

/-- **The service is never open by mistake**: it starts with any list, with an entry in it no page
is told anything but its own origin and this only if it is an entry, and every page may read the
answers only if there is no entry at all. -/
def NeverFailsOpen : Prop :=
  ∀ list : Option String, ∃ sharing, Sharing.ofList? list = some sharing ∧
    ((∃ entry, IsEntryOf list entry) → ∀ r origin, IsTold sharing r origin →
      IsEntryOf list origin ∧ r.header? "origin" = some (Utf8.encode origin)) ∧
    (sharing = .everyone → ∀ entry, ¬IsEntryOf list entry)

/-- **Answers are shown as a list says**, as far as its entries are fit for a header. -/
structure SharedAsListed (list : Option String) : Prop where
  /-- With a fit entry, a page is told about its own origin exactly if this is a fit entry. -/
  restricted : (∃ entry, IsEntryOf list entry ∧ IsFit entry) →
    ¬IsEntryOf list Sharing.wildcard → ∃ sharing, Sharing.ofList? list = some sharing ∧
      ∀ r origin, IsTold sharing r origin ↔
        IsEntryOf list origin ∧ IsFit origin ∧ r.header? "origin" = some (Utf8.encode origin)
  /-- Without one, every page may read the answers. -/
  unrestricted : (∀ entry, IsEntryOf list entry → ¬IsFit entry) →
    ∃ sharing, Sharing.ofList? list = some sharing ∧
      ∀ r origin, IsTold sharing r origin ↔ origin = Sharing.wildcard
  /-- With the sign for every page among its entries, nothing comes of a list. -/
  stopped_iff : Sharing.ofList? list = none ↔ IsEntryOf list Sharing.wildcard
  /-- What pages are told is in every answer, whatever the request is and comes to. -/
  carried : ∀ (terms : Terms) (r : Request), (handle terms r).Obeys (fun _ _ => True)
    (fun _ outcome => ∀ answer, outcome = .respond answer → Carries terms.sharing r answer) []

/-- **Answers are shown as listed**: to the pages of the fit entries, or to every page if there is
none. -/
theorem sharedAsListed (list : Option String) : SharedAsListed list := by
  rcases Sharing.ofList?_cases list with
    ⟨hlist, hunfit⟩ | ⟨hlist, hwild⟩ | ⟨origins, hlist, hne, hwild, hmem⟩
  · refine ⟨fun ⟨entry, hentry, hfit⟩ => absurd hfit (hunfit entry hentry),
      fun _ => ⟨.everyone, hlist, fun r origin => isTold_everyone_iff⟩, ?_, handle_obeys_carries⟩
    exact iff_of_false (by simp [hlist]) fun hwild => hunfit _ hwild Sharing.isFit_wildcard
  · exact ⟨fun _ hno => absurd hwild hno,
      fun hunfit => absurd Sharing.isFit_wildcard (hunfit _ hwild), iff_of_true hlist hwild,
      handle_obeys_carries⟩
  · refine ⟨fun _ _ => ⟨.only origins, hlist, fun r origin => ?_⟩, fun hunfit => ?_,
      iff_of_false (by simp [hlist]) hwild, handle_obeys_carries⟩
    · rw [isTold_only_iff, hmem, and_assoc]
    · obtain ⟨entry, hentry⟩ := List.exists_mem_of_ne_nil origins hne
      obtain ⟨hentry, hfit⟩ := (hmem entry).1 hentry
      exact absurd hfit (hunfit entry hentry)

example : Sharing.ofList? (some "https://app.example, \t") =
    some (.only ["https://app.example"]) := by decide +kernel

/-- Two origins with a line break between them instead of a comma. -/
def brokenList : String :=
  "https://a.example\nhttps://b.example"

/-- A request from a page of neither. -/
def foreignRequest : Request :=
  ⟨"GET", Utf8.encode "/health", [("Origin", Utf8.encode "https://evil.example")], [], false⟩

/-- **The service can be open by mistake**: with a line break in the place of a comma, the one entry
of the list is not fit for a header, and every page may read the answers. -/
theorem not_neverFailsOpen : ¬NeverFailsOpen := by
  intro hnever
  have hlist : Sharing.ofList? (some brokenList) = some .everyone := by decide +kernel
  have hentry : IsEntryOf (some brokenList) brokenList :=
    ⟨brokenList, rfl, mem_listEntries_iff.1 (by decide +kernel)⟩
  obtain ⟨sharing, hsharing, htold, -⟩ := hnever (some brokenList)
  obtain rfl : Sharing.everyone = sharing := Option.some.inj (hlist.symm.trans hsharing)
  have hheader := (htold ⟨brokenList, hentry⟩ foreignRequest _ (isTold_everyone_iff.2 rfl)).2
  exact absurd hheader (by decide +kernel)

end Http

end Rendezvous
