import Rendezvous.Json.Scalar
import Rendezvous.Json.Writer
import Rendezvous.Proofs.Text.Numeral
import Rendezvous.Proofs.Text.Utf8

/-!
# Texts and integers in JSON

What the writer writes of a text is read as this text, by a scanner that begins behind its quote and
leaves what comes after the other one (`Json.string_insideQuotes`). Of an integer it writes digits,
which name it (`Json.digitsValue_digitBytes`) and begin with a zero only if there are no others
(`Json.digitBytes_cases`).

A text ends with its quote, but an integer has no end of its own: it goes on as long as there are
digits, and a point or the letter of an exponent would make another number of it. What is written
after it has to end it (`Json.Ends`).
-/

namespace Rendezvous.Json

/-! ### What succeeds -/

section Success

variable {ε α β : Type} {x : Except ε α} {b : β}

/-- One step after another succeeds when both do. -/
theorem bind_eq_ok_iff {f : α → Except ε β} :
    (x >>= f) = .ok b ↔ ∃ a, x = .ok a ∧ f a = .ok b := by
  cases x with
  | error e => exact ⟨nofun, nofun⟩
  | ok a => exact ⟨fun h => ⟨a, rfl, h⟩, fun ⟨_, ha, h⟩ => Except.ok.inj ha ▸ h⟩

theorem map_eq_ok_iff {f : α → β} : x.map f = .ok b ↔ ∃ a, x = .ok a ∧ f a = b := by
  cases x with
  | error e => exact ⟨nofun, nofun⟩
  | ok a => simp [Except.map]

end Success

/-! ### Bytes of strings -/

section Strings

variable {b : UInt8} {bytes r : Bytes}

theorem prepend_prepend (front back : Bytes) (scan : Scan Bytes) :
    prepend front (prepend back scan) = prepend (front ++ back) scan := by
  cases scan with
  | error f => rfl
  | ok result => simp [prepend]

/-- **A byte that stands for itself** inside a string. -/
structure IsPlain (b : UInt8) : Prop where
  /-- It does not end the string. -/
  ne_quote : b ≠ 0x22
  /-- It does not begin an escape. -/
  ne_backslash : b ≠ 0x5C
  /-- It is no control character. -/
  not_control : ¬b < 0x20

theorem stringBytes_plain (h : IsPlain b) (r : Bytes) :
    stringBytes (b :: r) = prepend [b] (stringBytes r) := by
  rw [stringBytes.eq_def]
  simp only [h.ne_quote, h.ne_backslash, h.not_control, if_false]

theorem stringBytes_append_plain (h : ∀ b ∈ bytes, IsPlain b) (r : Bytes) :
    stringBytes (bytes ++ r) = prepend bytes (stringBytes r) := by
  induction bytes with
  | nil =>
    cases hr : stringBytes r with
    | error f => simp [prepend, hr]
    | ok result => simp [prepend, hr]
  | cons b bytes ih =>
    rw [List.cons_append, stringBytes_plain (h b (by simp)),
      ih fun b' hb' => h b' (List.mem_cons_of_mem _ hb'), prepend_prepend]
    rfl

/-- An escape of one letter. -/
theorem stringBytes_letter {e c : UInt8} (h : escapeByte? e = some c) (r : Bytes) :
    stringBytes (0x5C :: e :: r) = prepend [c] (stringBytes r) := by
  rw [stringBytes.eq_def]
  dsimp only
  rw [if_neg (by decide), if_pos rfl]
  simp only [h]

/-- An escape of four digits. -/
theorem stringBytes_unit {a b c d : UInt8} {n : Nat} (h : hexUnit? a b c d = some n)
    (hlow : isLowSurrogate n = false) (hhigh : isHighSurrogate n = false) (r : Bytes) :
    stringBytes (0x5C :: 0x75 :: a :: b :: c :: d :: r) =
      prepend (unitBytes n) (stringBytes r) := by
  have hletter : escapeByte? 0x75 = none := by decide
  rw [stringBytes.eq_def]
  dsimp only
  rw [if_neg (by decide), if_pos rfl]
  simp only [hletter, if_true, h, hlow, hhigh]
  rfl

/-- The digits of a control character are read as its number. -/
theorem hexUnit?_of_control : ∀ n < 0x20,
    hexUnit? 0x30 0x30 (UInt8.ofNat (Nat.digitChar (n / 16)).toNat)
      (UInt8.ofNat (Nat.digitChar (n % 16)).toNat) = some n := by
  decide

theorem digitChar_le : ∀ n < 16, (Nat.digitChar n).toNat ≤ 0x7F := by
  decide

/-- The bytes of a character that is written as it is stand for themselves. -/
theorem isPlain_of_mem {c : Char} (hquote : c ≠ '"') (hbackslash : c ≠ '\\')
    (hcontrol : ¬c.toNat < 0x20) (hb : b ∈ String.utf8EncodeChar c) : IsPlain b := by
  have hne : ∀ d : Char, c ≠ d → d.toNat < 0x80 → b.toNat ≠ d.toNat := by
    intro d hd hsmall hbd
    rcases Utf8.toNat_of_mem_utf8EncodeChar hb with heq | hlarge
    · exact hd (Char.toNat_inj.1 (heq.symm.trans hbd))
    · omega
  refine ⟨?_, ?_, ?_⟩
  · rintro rfl
    exact hne '"' hquote (by decide) rfl
  · rintro rfl
    exact hne '\\' hbackslash (by decide) rfl
  · intro hlt
    have hsmall : b.toNat < 0x20 := by simpa [UInt8.lt_iff_toNat_lt] using hlt
    rcases Utf8.toNat_of_mem_utf8EncodeChar hb with heq | hlarge <;> omega

/-- **A character that is written inside a string is read.** -/
theorem stringBytes_escapeChar (c : Char) (r : Bytes) :
    stringBytes (Utf8.encodeChars (escapeChar c) ++ r) =
      prepend (String.utf8EncodeChar c) (stringBytes r) := by
  have hofNat : ∀ n, c.toNat = n → c = Char.ofNat n := by
    rintro _ rfl
    exact (Char.ofNat_toNat c).symm
  unfold escapeChar
  split
  · next hc => subst hc; exact stringBytes_letter rfl r
  split
  · next hc => subst hc; exact stringBytes_letter rfl r
  split
  · next hc => rw [hofNat _ hc]; exact stringBytes_letter rfl r
  split
  · next hc => rw [hofNat _ hc]; exact stringBytes_letter rfl r
  split
  · next hc => rw [hofNat _ hc]; exact stringBytes_letter rfl r
  split
  · next hc => rw [hofNat _ hc]; exact stringBytes_letter rfl r
  split
  · next hc => rw [hofNat _ hc]; exact stringBytes_letter rfl r
  split
  · next hc =>
    have hhigh := digitChar_le (c.toNat / 16) (by omega)
    have hlow := digitChar_le (c.toNat % 16) (by omega)
    have hbytes : Utf8.encodeChars ['\\', 'u', '0', '0', Nat.digitChar (c.toNat / 16),
        Nat.digitChar (c.toNat % 16)] = [0x5C, 0x75, 0x30, 0x30,
          UInt8.ofNat (Nat.digitChar (c.toNat / 16)).toNat,
          UInt8.ofNat (Nat.digitChar (c.toNat % 16)).toNat] :=
      Utf8.encodeChars_of_le (by simp [hhigh, hlow])
    have hunit : unitBytes c.toNat = String.utf8EncodeChar c := by
      rw [unitBytes, Char.ofNat_toNat]
    rw [hbytes, ← hunit]
    refine stringBytes_unit (hexUnit?_of_control _ hc) ?_ ?_ r
    · simp only [isLowSurrogate, Bool.and_eq_false_iff, decide_eq_false_iff_not]
      omega
    · simp only [isHighSurrogate, Bool.and_eq_false_iff, decide_eq_false_iff_not]
      omega
  · next hquote hbackslash _ _ _ _ _ hcontrol =>
    rw [Utf8.encodeChars_cons, Utf8.encodeChars_nil, List.append_nil]
    exact stringBytes_append_plain (fun b hb => isPlain_of_mem hquote hbackslash hcontrol hb) r

/-- The closing quote. -/
theorem stringBytes_quote (r : Bytes) : stringBytes (0x22 :: r) = .ok ([], r) := by
  rw [stringBytes.eq_def]
  rfl

theorem stringBytes_flatMap (cs : List Char) (r : Bytes) :
    stringBytes (Utf8.encodeChars (cs.flatMap escapeChar) ++ 0x22 :: r) =
      .ok (Utf8.encodeChars cs, r) := by
  induction cs with
  | nil => exact stringBytes_quote r
  | cons c cs ih =>
    rw [List.flatMap_cons, Utf8.encodeChars_append, List.append_assoc, stringBytes_escapeChar, ih]
    rfl

/-- The bytes of a string between its quotes. -/
def insideQuotes (s : String) : Bytes :=
  Utf8.encodeChars (s.toList.flatMap escapeChar)

theorem encode_writeText (s : String) :
    Utf8.encode (writeText s) = 0x22 :: (insideQuotes s ++ [0x22]) := by
  have hquote : String.utf8EncodeChar '"' = [0x22] := by decide
  simp [Utf8.encode, writeText, insideQuotes, hquote]

/-- **A string that is written is read**, and what comes behind it is left. -/
theorem string_insideQuotes (s : String) (r : Bytes) :
    string (insideQuotes s ++ 0x22 :: r) = .ok (s, r) := by
  have hchars : Utf8.decodeString (Utf8.encodeChars s.toList) = some s := Utf8.decodeString_encode s
  simp only [string, insideQuotes, stringBytes_flatMap, hchars]

theorem readText_writeText (s : String) (r : Bytes) :
    readText (Utf8.encode (writeText s) ++ r) = .ok (s, r) := by
  have hspace : skipSpace (Utf8.encode (writeText s) ++ r) =
      0x22 :: (insideQuotes s ++ 0x22 :: r) := by
    rw [encode_writeText]
    simp [skipSpace, isSpace]
  simp only [readText, hspace, if_true, string_insideQuotes]

end Strings

/-! ### Bytes of integers -/

section Integers

variable {r : Bytes} {m : Nat}

/-- **A number ends here**: nothing comes, or something that does not go on with it. -/
def Ends (r : Bytes) : Prop :=
  ∀ b ∈ r.head?, isDigit b = false ∧ b ≠ 0x2E ∧ b ≠ 0x65 ∧ b ≠ 0x45

/-- What is no digit is not one. -/
theorem ne_of_isDigit {b c : UInt8} (hb : isDigit b = true) (hc : isDigit c = false) : b ≠ c := by
  rintro rfl
  exact absurd (hb.symm.trans hc) (by decide)

theorem isSpace_of_isDigit {b : UInt8} (hb : isDigit b = true) : isSpace b = false := by
  simp [isSpace, ne_of_isDigit hb (show isDigit 0x20 = false by decide),
    ne_of_isDigit hb (show isDigit 0x09 = false by decide),
    ne_of_isDigit hb (show isDigit 0x0A = false by decide),
    ne_of_isDigit hb (show isDigit 0x0D = false by decide)]

/-- The digits of a natural number as bytes. -/
def digitBytes (m : Nat) : Bytes :=
  (Nat.toDigits 10 m).map fun c => UInt8.ofNat c.toNat

/-- The byte of a digit is a digit of the same value. -/
theorem isDigit_ofNat {c : Char} (h : Numeral.isDigit c = true) :
    c.toNat ≤ 0x7F ∧ isDigit (UInt8.ofNat c.toNat) = true ∧
      digitValue (UInt8.ofNat c.toNat) = Numeral.digitValue c := by
  have hbounds := Numeral.toNat_of_isDigit h
  have hto : (UInt8.ofNat c.toNat).toNat = c.toNat :=
    UInt8.toNat_ofNat_of_lt' (show c.toNat < 256 by omega)
  refine ⟨by omega, ?_, ?_⟩
  · simp only [isDigit, Bool.and_eq_true, decide_eq_true_eq, UInt8.le_iff_toNat_le, hto]
    exact hbounds
  · simp only [digitValue, hto]
    rfl

theorem isDigit_of_mem_digitBytes {b : UInt8} (h : b ∈ digitBytes m) : isDigit b = true := by
  obtain ⟨c, hc, rfl⟩ := List.mem_map.1 h
  exact (isDigit_ofNat (Numeral.isDigit_of_mem_toDigits hc)).2.1

theorem digitsValue_cons (n : Nat) (b : UInt8) (bytes : Bytes) :
    digitsValue n (b :: bytes) = digitsValue (10 * n + digitValue b) bytes := by
  rfl

theorem digitsValue_map (cs : List Char) (n : Nat) (h : ∀ c ∈ cs, Numeral.isDigit c = true) :
    digitsValue n (cs.map fun c => UInt8.ofNat c.toNat) = Nat.ofDigitChars 10 cs n := by
  induction cs generalizing n with
  | nil => rfl
  | cons c cs ih =>
    have hvalue := (isDigit_ofNat (h c (by simp))).2.2
    rw [List.map_cons, digitsValue_cons, hvalue, ih _ fun d hd => h d (List.mem_cons_of_mem _ hd)]
    rfl

/-- The digits of a number name it. -/
theorem digitsValue_digitBytes (m : Nat) : digitsValue 0 (digitBytes m) = m := by
  rw [digitBytes, digitsValue_map _ _ fun c hc => Numeral.isDigit_of_mem_toDigits hc]
  exact Nat.ofDigitChars_toDigits (by decide) (by decide)

theorem le_digitsValue (n : Nat) (bytes : Bytes) : n ≤ digitsValue n bytes := by
  induction bytes generalizing n with
  | nil => exact Nat.le_refl n
  | cons b bytes ih =>
    have hrest := ih (10 * n + digitValue b)
    rw [digitsValue_cons]
    omega

/-- Digits that fit a word are all taken into it. -/
theorem significand_eq (n : Nat) (bytes : Bytes) (h : digitsValue n bytes < Nat.pow 2 64) :
    significand n bytes = (digitsValue n bytes, 0) := by
  induction bytes generalizing n with
  | nil => rfl
  | cons b bytes ih =>
    rw [digitsValue_cons] at h ⊢
    have hfits : 10 * n + digitValue b < Nat.pow 2 64 :=
      Nat.lt_of_le_of_lt (le_digitsValue _ bytes) h
    rw [significand]
    simp only [hfits, if_true]
    exact ih _ h

/-- A number that is not zero does not begin with one. -/
theorem head_toDigits (h : 0 < m) : (Nat.toDigits 10 m).head? ≠ some '0' := by
  induction m using Nat.strongRecOn with
  | ind m ih =>
    by_cases hlt : m < 10
    · rw [Nat.toDigits_of_lt_base hlt]
      simp only [List.head?_cons, ne_eq, Option.some.injEq, Nat.digitChar_eq_zero]
      omega
    · rw [Nat.toDigits_of_base_le (by decide) (by omega),
        List.head?_append_of_ne_nil _ Nat.toDigits_ne_nil]
      exact ih (m / 10) (by omega) (by omega)

/-- The digits of a number begin with one, and with a zero only if they are nothing else. -/
theorem digitBytes_cases (m : Nat) :
    ∃ b bytes, digitBytes m = b :: bytes ∧ isDigit b = true ∧ (b = 0x30 → bytes = []) := by
  obtain ⟨c, cs, hcs⟩ := List.exists_cons_of_ne_nil (Nat.toDigits_ne_nil (n := m) (b := 10))
  have hbytes : digitBytes m = UInt8.ofNat c.toNat :: cs.map fun c => UInt8.ofNat c.toNat := by
    rw [digitBytes, hcs]
    rfl
  refine ⟨_, _, hbytes, isDigit_of_mem_digitBytes (m := m) (by simp [hbytes]), fun hzero => ?_⟩
  have hdigit : Numeral.isDigit c = true := Numeral.isDigit_of_mem_toDigits (n := m) (by simp [hcs])
  have hc : c = '0' := by
    have hsmall := (isDigit_ofNat hdigit).1
    have hto : (UInt8.ofNat c.toNat).toNat = c.toNat :=
      UInt8.toNat_ofNat_of_lt' (show c.toNat < 256 by omega)
    rw [hzero] at hto
    exact Char.toNat_inj.1 hto.symm
  rcases Nat.eq_zero_or_pos m with rfl | hpos
  · rw [Nat.toDigits_zero] at hcs
    rw [← (List.cons.inj hcs).2]
    rfl
  · exact absurd (by rw [hcs, hc]; rfl) (head_toDigits hpos)

theorem encode_digits (m : Nat) : Utf8.encodeChars (Nat.toDigits 10 m) = digitBytes m :=
  Utf8.encodeChars_of_le fun _ hc => (isDigit_ofNat (Numeral.isDigit_of_mem_toDigits hc)).1

end Integers

end Rendezvous.Json
