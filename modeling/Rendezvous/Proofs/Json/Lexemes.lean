import Mathlib.Data.List.TakeWhile
import Rendezvous.Proofs.Json.Scalars

/-!
# The parts of a text

The texts of strings and of numbers are said apart from their scanners: what may stand between
quotes and which bytes it denotes (`Json.Denotes`), and of which parts a number is made and which
integer of 64 bits it is, if it is one (`Json.NumberText`). The scanners read just these texts
(`Json.string_eq_ok_iff`, `Json.NumberText.number`, `Json.exists_of_number`).

What the writer writes of a string and of an integer is such a text
(`Json.stringText_writeText`, `Json.numberText_writeInteger`).

Space may stand between the parts (`Json.IsGap`). A number that no double can hold has no text; this
is judged as the scanner judges it (`Json.tooLarge`), and is never so for a number of a word
(`Json.exceedsDouble_zero`).
-/

namespace Rendezvous.Json

variable {a s r inner bytes : Bytes}

/-! ### Gaps -/

/-- **A gap** between the parts of a text: nothing but space, or nothing. -/
def IsGap (a : Bytes) : Prop :=
  ∀ b ∈ a, isSpace b = true

theorem isGap_nil : IsGap [] := nofun

theorem skipSpace_cons {b : UInt8} (h : isSpace b = false) (r : Bytes) :
    skipSpace (b :: r) = b :: r := by
  simp [skipSpace, h]

theorem skipSpace_gap (ha : IsGap a) (s : Bytes) : skipSpace (a ++ s) = skipSpace s :=
  List.dropWhile_append_of_pos ha

/-- What stands first behind a gap. -/
theorem skipSpace_eq_cons_iff {b : UInt8} :
    skipSpace s = b :: r ↔ ∃ a, IsGap a ∧ s = a ++ b :: r ∧ isSpace b = false := by
  constructor
  · intro h
    refine ⟨s.takeWhile isSpace, fun b' hb' => List.mem_takeWhile_imp hb', ?_, ?_⟩
    · rw [← h]
      exact List.takeWhile_append_dropWhile.symm
    · have hhead := List.head?_dropWhile_not isSpace s
      unfold skipSpace at h
      rw [h] at hhead
      simpa using hhead
  · rintro ⟨a, ha, rfl, hb⟩
    rw [skipSpace_gap ha, skipSpace_cons hb]

/-! ### Strings -/

/-- **What stands between the quotes of a string denotes its bytes**: each byte that stands for
itself, each escape of one letter or of four digits, and each pair of escapes that names the halves
of one character. -/
inductive Denotes : Bytes → Bytes → Prop where
  /-- Nothing. -/
  | nil : Denotes [] []
  /-- A byte that stands for itself. -/
  | plain {b : UInt8} {inner bytes : Bytes} (hb : IsPlain b) (h : Denotes inner bytes) :
      Denotes (b :: inner) (b :: bytes)
  /-- An escape of one letter. -/
  | letter {e c : UInt8} {inner bytes : Bytes} (he : escapeByte? e = some c)
      (h : Denotes inner bytes) : Denotes (0x5C :: e :: inner) (c :: bytes)
  /-- An escape of four digits. -/
  | unit {h₁ h₂ h₃ h₄ : UInt8} {n : Nat} {inner bytes : Bytes}
      (hn : hexUnit? h₁ h₂ h₃ h₄ = some n) (hlow : isLowSurrogate n = false)
      (hhigh : isHighSurrogate n = false) (h : Denotes inner bytes) :
      Denotes (0x5C :: 0x75 :: h₁ :: h₂ :: h₃ :: h₄ :: inner) (unitBytes n ++ bytes)
  /-- Two of them that are one character. -/
  | pair {h₁ h₂ h₃ h₄ l₁ l₂ l₃ l₄ : UInt8} {n m : Nat} {inner bytes : Bytes}
      (hn : hexUnit? h₁ h₂ h₃ h₄ = some n) (hhigh : isHighSurrogate n = true)
      (hm : hexUnit? l₁ l₂ l₃ l₄ = some m) (hlow : isLowSurrogate m = true)
      (h : Denotes inner bytes) :
      Denotes
        (0x5C :: 0x75 :: h₁ :: h₂ :: h₃ :: h₄ :: 0x5C :: 0x75 :: l₁ :: l₂ :: l₃ :: l₄ :: inner)
        (unitBytes (0x10000 + (n - 0xD800) * 0x400 + (m - 0xDC00)) ++ bytes)

theorem stringBytes_pair {h₁ h₂ h₃ h₄ l₁ l₂ l₃ l₄ : UInt8} {n m : Nat}
    (hn : hexUnit? h₁ h₂ h₃ h₄ = some n) (hhigh : isHighSurrogate n = true)
    (hm : hexUnit? l₁ l₂ l₃ l₄ = some m) (hlow : isLowSurrogate m = true) (r : Bytes) :
    stringBytes
        (0x5C :: 0x75 :: h₁ :: h₂ :: h₃ :: h₄ :: 0x5C :: 0x75 :: l₁ :: l₂ :: l₃ :: l₄ :: r) =
      prepend (unitBytes (0x10000 + (n - 0xD800) * 0x400 + (m - 0xDC00))) (stringBytes r) := by
  have hletter : escapeByte? 0x75 = none := by decide
  have hnotLow : isLowSurrogate n = false := by
    simp only [isHighSurrogate, isLowSurrogate, Bool.and_eq_true, Bool.and_eq_false_iff,
      decide_eq_true_eq, decide_eq_false_iff_not] at hhigh ⊢
    omega
  rw [stringBytes.eq_def]
  dsimp only
  rw [if_neg (by decide), if_pos rfl]
  simp only [hletter, if_true, hn, hnotLow, hhigh, hm, hlow]
  simp

/-- **What denotes bytes is read as these bytes**, up to the quote. -/
theorem Denotes.stringBytes (h : Denotes inner bytes) (r : Bytes) :
    stringBytes (inner ++ 0x22 :: r) = .ok (bytes, r) := by
  induction h with
  | nil => exact stringBytes_quote r
  | plain hb _ ih => rw [List.cons_append, stringBytes_plain hb, ih]; rfl
  | letter he _ ih => rw [List.cons_append, List.cons_append, stringBytes_letter he, ih]; rfl
  | unit hn hlow hhigh _ ih =>
    simp only [List.cons_append]
    rw [stringBytes_unit hn hlow hhigh, ih]
    rfl
  | pair hn hhigh hm hlow _ ih =>
    simp only [List.cons_append]
    rw [stringBytes_pair hn hhigh hm hlow, ih]
    rfl

theorem exists_of_prepend_eq_ok {front : Bytes} {scan : Scan Bytes}
    (h : prepend front scan = .ok (bytes, r)) :
    ∃ back, scan = .ok (back, r) ∧ bytes = front ++ back := by
  cases scan with
  | error f => exact absurd h nofun
  | ok result =>
    obtain ⟨rfl, rfl⟩ := Prod.mk.inj (Except.ok.inj h)
    exact ⟨_, rfl, rfl⟩

/-- **What is read as bytes denotes them**, and is followed by the quote. -/
theorem denotes_of_stringBytes (h : Json.stringBytes s = .ok (bytes, r)) :
    ∃ inner, s = inner ++ 0x22 :: r ∧ Denotes inner bytes := by
  fun_induction Json.stringBytes s generalizing bytes with
  | case2 r' =>
    obtain ⟨rfl, rfl⟩ := Prod.mk.inj (Except.ok.inj h)
    exact ⟨[], rfl, .nil⟩
  | case4 e r' c he _ ih =>
    obtain ⟨back, hback, rfl⟩ := exists_of_prepend_eq_ok h
    obtain ⟨inner, rfl, hinner⟩ := ih hback
    exact ⟨0x5C :: e :: inner, rfl, .letter he hinner⟩
  | case11 h₁ h₂ h₃ h₄ n hn _ hhigh s u hsu l₁ l₂ l₃ l₄ r' m hm hlow _ _ ih =>
    obtain ⟨back, hback, hbytes⟩ := exists_of_prepend_eq_ok h
    obtain ⟨inner, rfl, hinner⟩ := ih hback
    obtain ⟨rfl, rfl⟩ := hsu
    refine ⟨0x5C :: 0x75 :: h₁ :: h₂ :: h₃ :: h₄ :: 0x5C :: 0x75 :: l₁ :: l₂ :: l₃ :: l₄ :: inner,
      rfl, ?_⟩
    rw [hbytes]
    exact .pair hn hhigh hm hlow hinner
  | case15 h₁ h₂ h₃ h₄ r' n hn hlow hhigh _ _ ih =>
    obtain ⟨back, hback, rfl⟩ := exists_of_prepend_eq_ok h
    obtain ⟨inner, rfl, hinner⟩ := ih hback
    refine ⟨0x5C :: 0x75 :: h₁ :: h₂ :: h₃ :: h₄ :: inner, rfl, ?_⟩
    exact .unit hn (Bool.not_eq_true _ ▸ hlow) (Bool.not_eq_true _ ▸ hhigh) hinner
  | case19 b r' hquote hbackslash hcontrol ih =>
    obtain ⟨back, hback, rfl⟩ := exists_of_prepend_eq_ok h
    obtain ⟨inner, rfl, hinner⟩ := ih hback
    exact ⟨b :: inner, rfl, .plain ⟨hquote, hbackslash, hcontrol⟩ hinner⟩
  | _ => exact absurd h nofun

/-- **The text of a string**: what denotes its bytes, in quotes. -/
def StringText (t : Bytes) (x : String) : Prop :=
  ∃ inner bytes, t = 0x22 :: (inner ++ [0x22]) ∧ Denotes inner bytes ∧
    Utf8.decodeString bytes = some x

/-- **The texts of strings are what is read as strings.** -/
theorem string_eq_ok_iff {x : String} :
    string s = .ok (x, r) ↔ ∃ t, StringText t x ∧ 0x22 :: s = t ++ r := by
  constructor
  · intro h
    unfold string at h
    split at h
    · exact absurd h nofun
    · next bytes rest hbytes =>
      split at h
      · next x' hx =>
        obtain ⟨rfl, rfl⟩ := Prod.mk.inj (Except.ok.inj h)
        obtain ⟨inner, rfl, hinner⟩ := denotes_of_stringBytes hbytes
        exact ⟨_, ⟨inner, bytes, rfl, hinner, hx⟩, by simp⟩
      · exact absurd h nofun
  · rintro ⟨t, ⟨inner, bytes, rfl, hinner, hx⟩, hs⟩
    obtain rfl : s = inner ++ 0x22 :: r := by simpa using hs
    simp only [string, hinner.stringBytes, hx]

theorem key_eq_ok_iff {x : String} : key s = .ok (x, r) ↔ ∃ t, StringText t x ∧ s = t ++ r := by
  constructor
  · intro h
    unfold key at h
    split at h
    · contradiction
    · split at h
      · next hb =>
        subst hb
        exact string_eq_ok_iff.1 h
      · contradiction
  · rintro ⟨t, ht, rfl⟩
    obtain ⟨inner, bytes, rfl, -, -⟩ := id ht
    rw [List.cons_append, key, if_pos rfl]
    exact string_eq_ok_iff.2 ⟨_, ht, rfl⟩

/-! ### Numbers -/

/-- **Digits before the point**: one zero, or digits that begin with another one. -/
def IsWhole (ds : Bytes) : Prop :=
  ds = [0x30] ∨ (∃ d ds', ds = d :: ds' ∧ d ≠ 0x30) ∧ ∀ d ∈ ds, isDigit d = true

/-- **Digits**, at least one. -/
def IsDigits (ds : Bytes) : Prop :=
  ds ≠ [] ∧ ∀ d ∈ ds, isDigit d = true

/-- **A fraction** with its point, and its digits; there may be none. -/
inductive Fraction : Bytes → Bytes → Prop where
  /-- No fraction. -/
  | none : Fraction [] []
  /-- A point and digits. -/
  | digits {ds : Bytes} (h : IsDigits ds) : Fraction (0x2E :: ds) ds

/-- **An exponent** from behind its letter, and its value. -/
inductive Power : Bytes → Int → Prop where
  /-- Digits. -/
  | digits {ds : Bytes} (h : IsDigits ds) : Power ds (digitsValue 0 ds)
  /-- Digits behind a plus sign. -/
  | plus {ds : Bytes} (h : IsDigits ds) : Power (0x2B :: ds) (digitsValue 0 ds)
  /-- Digits behind a minus sign. -/
  | minus {ds : Bytes} (h : IsDigits ds) : Power (0x2D :: ds) (-(digitsValue 0 ds : Int))

/-- **An exponent** with its letter, and its value; there may be none. -/
inductive Exponent : Bytes → Int → Prop where
  /-- No exponent. -/
  | none : Exponent [] 0
  /-- A letter and what comes behind it. -/
  | letter {e : UInt8} {t : Bytes} {x : Int} (he : e = 0x65 ∨ e = 0x45) (h : Power t x) :
      Exponent (e :: t) x

/-- Whether no double can hold a number of these digits, those of its fraction, and this exponent.
-/
def tooLarge (whole part : Bytes) (x : Int) : Bool :=
  let (size, dropped) := significand 0 whole
  let (size, left) := significand size part
  exceedsDouble size (dropped - (part.length - left : Nat) + x)

/-- The integer of 64 bits that is named by a sign and a natural number. A zero with a minus sign is
none. -/
def integerOf (negative : Bool) (n : Nat) : Option Int64 :=
  if negative then
    if n = 0 then none else if n ≤ Nat.pow 2 63 then some (Int64.ofInt (-(n : Int))) else none
  else if n < Nat.pow 2 63 then some (Int64.ofInt n) else none

/-- **The text of a number** from behind its sign: digits, a fraction and an exponent that a double
can hold. It is an integer of 64 bits if it is nothing but digits. -/
inductive NumberText (negative : Bool) : Bytes → Option Int64 → Prop where
  /-- Only digits. -/
  | integer {whole : Bytes} (hwhole : IsWhole whole) (hsize : tooLarge whole [] 0 = false) :
      NumberText negative whole (integerOf negative (digitsValue 0 whole))
  /-- A fraction or an exponent, or both. -/
  | other {whole part ds power : Bytes} {x : Int} (hwhole : IsWhole whole)
      (hpart : Fraction part ds) (hpower : Exponent power x) (hmore : part ++ power ≠ [])
      (hsize : tooLarge whole ds x = false) :
      NumberText negative (whole ++ (part ++ power)) none

/-- **No digit comes next.** -/
def StopsDigits (r : Bytes) : Prop :=
  ∀ b ∈ r.head?, isDigit b = false

theorem takeWhile_isDigit {ds : Bytes} (h : ∀ d ∈ ds, isDigit d = true) (hr : StopsDigits r) :
    (ds ++ r).takeWhile isDigit = ds ∧ (ds ++ r).dropWhile isDigit = r := by
  rw [List.takeWhile_append_of_pos h, List.dropWhile_append_of_pos h]
  cases r with
  | nil => simp
  | cons b r => simp [hr b rfl]

theorem isDigit_of_mem_takeWhile {b : UInt8} (h : b ∈ s.takeWhile isDigit) : isDigit b = true :=
  List.mem_takeWhile_imp h

/-- What comes next, seen as whether it is a digit. -/
theorem StopsDigits.getD_head (hr : StopsDigits r) : (r.head?.map isDigit).getD false = false := by
  cases r with
  | nil => rfl
  | cons b r => exact hr b rfl

theorem integerDigits_append {whole : Bytes} (h : IsWhole whole) (hr : StopsDigits r) :
    integerDigits (whole ++ r) = .ok (whole, r) := by
  rcases h with rfl | ⟨⟨d, ds, rfl, hd⟩, hall⟩
  · rw [List.singleton_append, integerDigits, if_pos rfl, hr.getD_head]
    rfl
  · obtain ⟨hfirst, hrest⟩ := List.forall_mem_cons.1 hall
    obtain ⟨htake, hdrop⟩ := takeWhile_isDigit hrest hr
    rw [List.cons_append, integerDigits, if_neg hd, if_pos hfirst, htake, hdrop]

theorem exists_of_integerDigits {whole : Bytes} (h : integerDigits s = .ok (whole, r)) :
    IsWhole whole ∧ s = whole ++ r := by
  unfold integerDigits at h
  split at h
  · contradiction
  · next b bytes =>
    split at h
    · next hb =>
      split at h
      · contradiction
      · obtain ⟨rfl, rfl⟩ := Prod.mk.inj (Except.ok.inj h)
        exact ⟨Or.inl (hb ▸ rfl), rfl⟩
    · next hb =>
      split at h
      · next hdigit =>
        obtain ⟨rfl, rfl⟩ := Prod.mk.inj (Except.ok.inj h)
        refine ⟨Or.inr ⟨⟨b, _, rfl, hb⟩, ?_⟩, ?_⟩
        · exact List.forall_mem_cons.2 ⟨hdigit, fun d hd => isDigit_of_mem_takeWhile hd⟩
        · rw [List.cons_append, List.takeWhile_append_dropWhile]
      · contradiction

theorem fractionDigits_append {ds : Bytes} (h : IsDigits ds) (hr : StopsDigits r) :
    fractionDigits (ds ++ r) = .ok (ds, r) := by
  obtain ⟨hne, hall⟩ := h
  obtain ⟨htake, hdrop⟩ := takeWhile_isDigit hall hr
  obtain ⟨d, ds, rfl⟩ := List.exists_cons_of_ne_nil hne
  rw [fractionDigits, htake, hdrop]

theorem exists_of_fractionDigits {ds : Bytes} (h : fractionDigits s = .ok (ds, r)) :
    IsDigits ds ∧ s = ds ++ r := by
  unfold fractionDigits at h
  split at h
  · exact absurd h nofun
  · exact absurd h nofun
  · next hne _ =>
    obtain ⟨rfl, rfl⟩ := Prod.mk.inj (Except.ok.inj h)
    exact ⟨⟨hne, fun d hd => isDigit_of_mem_takeWhile hd⟩, List.takeWhile_append_dropWhile.symm⟩

/-- An exponent from behind its sign. -/
def afterSign (negative : Bool) : Bytes → Scan Int
  | [] => .error .truncated
  | b :: r =>
    if isDigit b then
      let n := digitsValue 0 (b :: r.takeWhile isDigit)
      .ok (if negative then -(n : Int) else n, r.dropWhile isDigit)
    else .error .malformed

theorem exponent_minus (s : Bytes) : exponent (0x2D :: s) = afterSign true s := rfl

theorem exponent_plus (s : Bytes) : exponent (0x2B :: s) = afterSign false s := rfl

theorem exponent_unsigned {b : UInt8} (hminus : b ≠ 0x2D) (hplus : b ≠ 0x2B) (s : Bytes) :
    exponent (b :: s) = afterSign false (b :: s) := by
  unfold exponent
  simp only [hminus, hplus, if_false]
  rfl

theorem afterSign_append (negative : Bool) {ds : Bytes} (h : IsDigits ds) (hr : StopsDigits r) :
    afterSign negative (ds ++ r) =
      .ok (if negative then -(digitsValue 0 ds : Int) else digitsValue 0 ds, r) := by
  obtain ⟨hne, hall⟩ := h
  obtain ⟨d, ds, rfl⟩ := List.exists_cons_of_ne_nil hne
  obtain ⟨hfirst, hrest⟩ := List.forall_mem_cons.1 hall
  obtain ⟨htake, hdrop⟩ := takeWhile_isDigit hrest hr
  rw [List.cons_append, afterSign, if_pos hfirst, htake, hdrop]

theorem exists_of_afterSign {negative : Bool} {x : Int} (h : afterSign negative s = .ok (x, r)) :
    ∃ ds, IsDigits ds ∧ s = ds ++ r ∧
      x = if negative then -(digitsValue 0 ds : Int) else digitsValue 0 ds := by
  cases s with
  | nil => contradiction
  | cons b s =>
    rw [afterSign] at h
    split at h
    · next hdigit =>
      obtain ⟨rfl, rfl⟩ := Prod.mk.inj (Except.ok.inj h)
      refine ⟨b :: s.takeWhile isDigit, ⟨List.cons_ne_nil _ _, ?_⟩, ?_, rfl⟩
      · exact List.forall_mem_cons.2 ⟨hdigit, fun d hd => isDigit_of_mem_takeWhile hd⟩
      · rw [List.cons_append, List.takeWhile_append_dropWhile]
    · contradiction

theorem exponent_append {t : Bytes} {x : Int} (h : Power t x) (hr : StopsDigits r) :
    exponent (t ++ r) = .ok (x, r) := by
  cases h with
  | digits h =>
    obtain ⟨d, ds, rfl⟩ := List.exists_cons_of_ne_nil h.1
    have hdigit := h.2 d List.mem_cons_self
    rw [List.cons_append, exponent_unsigned (ne_of_isDigit hdigit (by decide))
      (ne_of_isDigit hdigit (by decide)), ← List.cons_append, afterSign_append false h hr]
    rfl
  | plus h =>
    rw [List.cons_append, exponent_plus, afterSign_append false h hr]
    rfl
  | minus h =>
    rw [List.cons_append, exponent_minus, afterSign_append true h hr]
    rfl

theorem exists_of_exponent {x : Int} (h : exponent s = .ok (x, r)) :
    ∃ t, Power t x ∧ s = t ++ r := by
  cases s with
  | nil => exact absurd h nofun
  | cons b s =>
    by_cases hminus : b = 0x2D
    · subst hminus
      obtain ⟨ds, hds, rfl, rfl⟩ := exists_of_afterSign (exponent_minus s ▸ h)
      exact ⟨_, .minus hds, rfl⟩
    by_cases hplus : b = 0x2B
    · subst hplus
      obtain ⟨ds, hds, rfl, rfl⟩ := exists_of_afterSign (exponent_plus s ▸ h)
      exact ⟨_, .plus hds, rfl⟩
    · rw [exponent_unsigned hminus hplus] at h
      obtain ⟨ds, hds, hs, rfl⟩ := exists_of_afterSign h
      exact ⟨ds, .digits hds, hs⟩

/-! ### Numbers as a whole -/

/-- Digits that are all taken into a word name the number in it. -/
theorem eq_of_significand {n m : Nat} {ds : Bytes} (hn : n < Nat.pow 2 64)
    (h : significand n ds = (m, 0)) : m = digitsValue n ds ∧ m < Nat.pow 2 64 := by
  induction ds generalizing n with
  | nil => exact ⟨(Prod.mk.inj h).1.symm, (Prod.mk.inj h).1 ▸ hn⟩
  | cons d ds ih =>
    rw [significand] at h
    split at h
    · next hfits => exact ih hfits h
    · exact absurd (Prod.mk.inj h).2 (Nat.succ_ne_zero _)

/-- Rounding makes no number more than twice as large. -/
theorem round53_le (n : Nat) : round53 n ≤ 2 * n + 1 := by
  obtain ⟨unit, hunit⟩ : ∃ unit, unit = Nat.pow 2 (Nat.log2 n + 1 - 53) := ⟨_, rfl⟩
  have hbound : unit ≤ n + 1 := by
    rcases Nat.eq_zero_or_pos n with rfl | hpos
    · rw [hunit]
      decide
    · calc unit ≤ 2 ^ Nat.log2 n := hunit ▸ Nat.pow_le_pow_right (by decide) (by omega)
        _ ≤ n := Nat.log2_self_le (by omega)
        _ ≤ n + 1 := Nat.le_succ n
  have hfloor : n / unit * unit ≤ n := Nat.div_mul_le_self n unit
  unfold round53
  simp only [← hunit]
  split
  · rw [Nat.add_mul, Nat.one_mul]
    omega
  · omega

/-- A power of two is no greater than what is left of a greater one without a third. -/
theorem pow_le_pow_sub (i j k : Nat) (hi : i < k) (hj : j < k) :
    Nat.pow 2 i ≤ Nat.pow 2 k - Nat.pow 2 j := by
  have hi' : 2 ^ i ≤ 2 ^ (k - 1) := Nat.pow_le_pow_right (by decide) (by omega)
  have hj' : 2 ^ j ≤ 2 ^ (k - 1) := Nat.pow_le_pow_right (by decide) (by omega)
  have hk : 2 ^ k = 2 * 2 ^ (k - 1) := by
    rw [← Nat.pow_succ', Nat.succ_eq_add_one, Nat.sub_add_cancel (by omega)]
  show 2 ^ i ≤ 2 ^ k - 2 ^ j
  omega

/-- A number that is kept in a word is not too large. -/
theorem exceedsDouble_zero {n : Nat} (hn : n < Nat.pow 2 64) :
    exceedsDouble n (.ofNat 0) = false := by
  have hround : round53 n * round53 (Nat.pow 10 0) < Nat.pow 2 66 := by
    have hle := round53_le n
    have hone : round53 (Nat.pow 10 0) = 1 := by decide
    have hword : Nat.pow 2 64 = 18446744073709551616 := by decide
    have hbound : Nat.pow 2 66 = 73786976294838206464 := by decide
    rw [hone, hbound]
    omega
  have hlarge : ∀ limit, Nat.pow 2 66 ≤ limit →
      ¬round53 n * round53 (Nat.pow 10 0) ≥ limit := fun limit hlimit => by omega
  rw [exceedsDouble, if_neg (by decide), decide_eq_false_iff_not]
  apply hlarge
  apply pow_le_pow_sub <;> decide

/-- Digits that do not fit a word are no integer of 64 bits. -/
theorem integerOf_eq_none (negative : Bool) {n : Nat} (hn : Nat.pow 2 64 ≤ n) :
    integerOf negative n = none := by
  have hsmall : Nat.pow 2 63 < Nat.pow 2 64 := by decide
  unfold integerOf
  split
  · rw [if_neg (by omega), if_neg (by omega)]
  · rw [if_neg (by omega)]

/-- **Digits without a fraction or an exponent** are an integer of 64 bits or another number. -/
theorem plain_eq (negative : Bool) (whole r : Bytes) :
    number.plain negative whole (significand 0 whole).1 (significand 0 whole).2 r =
      if tooLarge whole [] 0 then .error .malformed
      else .ok (integerOf negative (digitsValue 0 whole), r) := by
  cases hsize : significand 0 whole with
  | mk size dropped =>
    have hlarge : tooLarge whole [] 0 = exceedsDouble size dropped := by
      simp [tooLarge, hsize, significand]
    rw [hlarge]
    unfold number.plain
    split
    · next hdropped =>
      have hvalue : Nat.pow 2 64 ≤ digitsValue 0 whole := by
        by_contra hlt
        rw [significand_eq 0 whole (by omega)] at hsize
        have := (Prod.mk.inj hsize).2
        omega
      rw [integerOf_eq_none negative hvalue]
      rfl
    · next hdropped =>
      obtain rfl : dropped = 0 := by omega
      obtain ⟨rfl, hword⟩ := eq_of_significand (by decide) hsize
      rw [← Int.ofNat_eq_natCast, exceedsDouble_zero hword]
      unfold integerOf
      dsimp only
      split
      · split
        · rfl
        · split <;> rfl
      · split <;> rfl

/-- What ends a number is no digit. -/
theorem Ends.stopsDigits (hr : Ends r) : StopsDigits r :=
  fun b hb => (hr b hb).1

/-- A number from behind its fraction: an exponent or nothing. -/
def afterPart (size : Nat) (power : Int) : Bytes → Except Fault (Option Int64 × Bytes)
  | [] => bounded size power []
  | e :: r =>
    if e = 0x65 || e = 0x45 then do
      let (x, rest) ← exponent r
      bounded size (power + x) rest
    else bounded size power (e :: r)

/-- A number from behind the digits before its point. -/
def afterWhole (negative : Bool) (whole : Bytes) : Bytes → Except Fault (Option Int64 × Bytes)
  | [] => number.plain negative whole (significand 0 whole).1 (significand 0 whole).2 []
  | b :: r =>
    if b = 0x2E then do
      let (part, r) ← fractionDigits r
      let (size, left) := significand (significand 0 whole).1 part
      afterPart size ((significand 0 whole).2 - (part.length - left : Nat)) r
    else if b = 0x65 || b = 0x45 then do
      let (x, rest) ← exponent r
      bounded (significand 0 whole).1 ((significand 0 whole).2 + x) rest
    else number.plain negative whole (significand 0 whole).1 (significand 0 whole).2 (b :: r)

/-- A number is the digits before its point, and what comes behind them. -/
theorem number_eq {negative : Bool} {whole : Bytes} (h : integerDigits s = .ok (whole, r)) :
    number negative s = afterWhole negative whole r := by
  unfold number
  rw [h]
  dsimp only [bind, Except.bind]
  cases r with
  | nil => rfl
  | cons b r =>
    rw [afterWhole]
    dsimp only [bind, Except.bind]
    congr 1
    cases hpart : fractionDigits r with
    | error f => rfl
    | ok result =>
      obtain ⟨part, rest⟩ := result
      cases rest <;> rfl

/-- Behind its fraction, a number ends with an exponent or at once. -/
theorem afterPart_append {t : Bytes} {x power : Int} (size : Nat) (h : Exponent t x) (hr : Ends r) :
    afterPart size power (t ++ r) = bounded size (power + x) r := by
  cases h with
  | none =>
    rw [List.nil_append, Int.add_zero]
    cases r with
    | nil => rfl
    | cons e r =>
      obtain ⟨-, -, hsmall, hlarge⟩ := hr e rfl
      simp [afterPart, hsmall, hlarge]
  | @letter e t x he h =>
    have hletter : (e = 0x65 || e = 0x45) = true := by simpa using he
    rw [List.cons_append, afterPart, if_pos hletter, exponent_append h hr.stopsDigits]
    rfl

theorem Exponent.stopsDigits {t : Bytes} {x : Int} (h : Exponent t x) (hr : StopsDigits r) :
    StopsDigits (t ++ r) := by
  cases h with
  | none => exact hr
  | letter he _ =>
    rintro _ ⟨⟩
    rcases he with rfl | rfl <;> decide

theorem bounded_part (whole ds r : Bytes) (x : Int) :
    bounded (significand (significand 0 whole).1 ds).1 ((significand 0 whole).2 -
        (ds.length - (significand (significand 0 whole).1 ds).2 : Nat) + x) r =
      if tooLarge whole ds x then .error .malformed else .ok (none, r) := rfl

theorem bounded_whole (whole r : Bytes) (x : Int) :
    bounded (significand 0 whole).1 ((significand 0 whole).2 + x) r =
      if tooLarge whole [] x then .error .malformed else .ok (none, r) := by
  rw [← bounded_part]
  simp [significand]

/-- A number with a fraction, from behind its point. -/
theorem afterWhole_point (negative : Bool) (whole r : Bytes) :
    afterWhole negative whole (0x2E :: r) = (do
      let (part, r) ← fractionDigits r
      afterPart (significand (significand 0 whole).1 part).1 ((significand 0 whole).2 -
        (part.length - (significand (significand 0 whole).1 part).2 : Nat)) r) := rfl

/-- A number with an exponent but no fraction, from behind its letter. -/
theorem afterWhole_letter (negative : Bool) (whole r : Bytes) {e : UInt8}
    (he : e = 0x65 ∨ e = 0x45) :
    afterWhole negative whole (e :: r) = (do
      let (x, rest) ← exponent r
      bounded (significand 0 whole).1 ((significand 0 whole).2 + x) rest) := by
  rcases he with rfl | rfl <;> rfl

/-- A number with neither. -/
theorem afterWhole_ends (negative : Bool) (whole : Bytes)
    (hr : ∀ b ∈ r.head?, b ≠ 0x2E ∧ b ≠ 0x65 ∧ b ≠ 0x45) :
    afterWhole negative whole r =
      number.plain negative whole (significand 0 whole).1 (significand 0 whole).2 r := by
  cases r with
  | nil => rfl
  | cons b r =>
    obtain ⟨hpoint, hsmall, hlarge⟩ := hr b rfl
    simp [afterWhole, hpoint, hsmall, hlarge]

/-- **The text of a number is read**, and what ends it is left. -/
theorem NumberText.number {negative : Bool} {t : Bytes} {n : Option Int64}
    (h : NumberText negative t n) (hr : Ends r) : number negative (t ++ r) = .ok (n, r) := by
  cases h with
  | integer hwhole hsize =>
    rw [number_eq (integerDigits_append hwhole hr.stopsDigits),
      afterWhole_ends negative t fun b hb => (hr b hb).2, plain_eq, hsize]
    rfl
  | @other whole part ds power x hwhole hpart hpower hmore hsize =>
    cases hpart with
    | digits hds =>
      have hread : fractionDigits (ds ++ (power ++ r)) = .ok (ds, power ++ r) :=
        fractionDigits_append hds (hpower.stopsDigits hr.stopsDigits)
      have hs : whole ++ (0x2E :: ds ++ power) ++ r = whole ++ 0x2E :: (ds ++ (power ++ r)) := by
        simp
      have hpoint : StopsDigits (0x2E :: (ds ++ (power ++ r))) := by
        rintro _ ⟨⟩
        decide
      rw [hs, number_eq (integerDigits_append hwhole hpoint), afterWhole_point, hread]
      dsimp only [bind, Except.bind]
      rw [afterPart_append _ hpower hr, bounded_part, hsize]
      rfl
    | none =>
      cases hpower with
      | none => exact absurd rfl hmore
      | @letter e t x he h =>
        have hs : whole ++ ([] ++ e :: t) ++ r = whole ++ e :: (t ++ r) := by simp
        have hletter : StopsDigits (e :: (t ++ r)) :=
          (Exponent.letter he h).stopsDigits hr.stopsDigits
        rw [hs, number_eq (integerDigits_append hwhole hletter), afterWhole_letter _ _ _ he,
          exponent_append h hr.stopsDigits]
        dsimp only [bind, Except.bind]
        rw [bounded_whole, hsize]
        rfl

theorem exists_of_afterPart {size : Nat} {power : Int} {n : Option Int64}
    (h : afterPart size power s = .ok (n, r)) :
    ∃ t x, Exponent t x ∧ s = t ++ r ∧ bounded size (power + x) r = .ok (n, r) := by
  have hbounded : ∀ {power rest}, bounded size power rest = .ok (n, r) → rest = r := by
    intro power rest h
    unfold bounded at h
    split at h
    · exact absurd h nofun
    · exact (Prod.mk.inj (Except.ok.inj h)).2
  cases s with
  | nil =>
    rw [afterPart] at h
    obtain rfl := hbounded h
    exact ⟨[], 0, .none, rfl, by rwa [Int.add_zero]⟩
  | cons e s =>
    rw [afterPart] at h
    split at h
    · next he =>
      obtain ⟨⟨x, rest⟩, hexponent, hrest⟩ := bind_eq_ok_iff.1 h
      obtain rfl := hbounded hrest
      obtain ⟨t, ht, rfl⟩ := exists_of_exponent hexponent
      exact ⟨e :: t, x, .letter (by simpa using he) ht, rfl, hrest⟩
    · obtain rfl := hbounded h
      exact ⟨[], 0, .none, rfl, by rwa [Int.add_zero]⟩

/-- What stays within the doubles. -/
theorem eq_of_ite_eq_ok {large : Bool} {n m : Option Int64} {rest : Bytes}
    (h : (if large then .error .malformed else .ok (m, rest) : Scan (Option Int64)) = .ok (n, r)) :
    large = false ∧ n = m ∧ rest = r := by
  cases large with
  | true => exact absurd h nofun
  | false =>
    obtain ⟨rfl, rfl⟩ := Prod.mk.inj (Except.ok.inj h)
    exact ⟨rfl, rfl, rfl⟩

/-- The text of a number begins with a digit. -/
theorem NumberText.exists_digit {negative : Bool} {t : Bytes} {n : Option Int64}
    (h : NumberText negative t n) :
    ∃ b t', t = b :: t' ∧ isDigit b = true := by
  have hwhole : ∀ {whole : Bytes}, IsWhole whole → ∃ b t', whole = b :: t' ∧ isDigit b = true := by
    rintro _ (rfl | ⟨⟨d, ds, rfl, -⟩, hall⟩)
    · exact ⟨0x30, [], rfl, by decide⟩
    · exact ⟨d, ds, rfl, hall d List.mem_cons_self⟩
  cases h with
  | integer h _ => exact hwhole h
  | other h _ _ _ _ =>
    obtain ⟨b, t', rfl, hb⟩ := hwhole h
    exact ⟨b, _, rfl, hb⟩

/-- **What is read as a number is the text of one.** -/
theorem exists_of_number {negative : Bool} {n : Option Int64}
    (h : Json.number negative s = .ok (n, r)) : ∃ t, NumberText negative t n ∧ s = t ++ r := by
  obtain ⟨whole, rest, hdigits⟩ : ∃ whole rest, integerDigits s = .ok (whole, rest) := by
    unfold Json.number at h
    obtain ⟨⟨whole, rest⟩, hdigits, -⟩ := bind_eq_ok_iff.1 h
    exact ⟨whole, rest, hdigits⟩
  obtain ⟨hwhole, rfl⟩ := exists_of_integerDigits hdigits
  rw [number_eq hdigits] at h
  -- what comes behind the digits: a point, the letter of an exponent, or neither
  by_cases hpoint : ∃ rest', rest = 0x2E :: rest'
  · obtain ⟨rest, rfl⟩ := hpoint
    rw [afterWhole_point] at h
    obtain ⟨⟨ds, rest'⟩, hfraction, hrest⟩ := bind_eq_ok_iff.1 h
    obtain ⟨hds, rfl⟩ := exists_of_fractionDigits hfraction
    obtain ⟨power, x, hpower, rfl, hbounded⟩ := exists_of_afterPart hrest
    rw [bounded_part] at hbounded
    obtain ⟨hsize, rfl, -⟩ := eq_of_ite_eq_ok hbounded
    exact ⟨_, .other hwhole (.digits hds) hpower nofun hsize, by simp⟩
  by_cases hletter : ∃ e rest', rest = e :: rest' ∧ (e = 0x65 ∨ e = 0x45)
  · obtain ⟨e, rest, rfl, he⟩ := hletter
    rw [afterWhole_letter _ _ _ he] at h
    obtain ⟨⟨x, rest'⟩, hexponent, hrest⟩ := bind_eq_ok_iff.1 h
    obtain ⟨t, ht, rfl⟩ := exists_of_exponent hexponent
    obtain ⟨hsize, rfl, rfl⟩ := eq_of_ite_eq_ok ((bounded_whole whole rest' x).symm.trans hrest)
    exact ⟨_, .other hwhole .none (.letter he ht) nofun hsize, by simp⟩
  · have hends : ∀ b ∈ rest.head?, b ≠ 0x2E ∧ b ≠ 0x65 ∧ b ≠ 0x45 := by
      intro b hb
      obtain ⟨rest', rfl⟩ : ∃ rest', rest = b :: rest' := List.head?_eq_some_iff.1 hb
      refine ⟨?_, ?_, ?_⟩
      · rintro rfl
        exact hpoint ⟨_, rfl⟩
      · rintro rfl
        exact hletter ⟨_, _, rfl, Or.inl rfl⟩
      · rintro rfl
        exact hletter ⟨_, _, rfl, Or.inr rfl⟩
    rw [afterWhole_ends negative whole hends, plain_eq] at h
    obtain ⟨hsize, rfl, rfl⟩ := eq_of_ite_eq_ok h
    exact ⟨whole, .integer hwhole hsize, rfl⟩

/-! ### What is written -/

/-- **A string is written as a text of it.** -/
theorem stringText_writeText (x : String) : StringText (Utf8.encode (writeText x)) x := by
  obtain ⟨t, ht, hbytes⟩ := string_eq_ok_iff.1 (string_insideQuotes x [])
  rw [List.append_nil] at hbytes
  rwa [encode_writeText, hbytes]

theorem isWhole_digitBytes (m : Nat) : IsWhole (digitBytes m) := by
  obtain ⟨b, bytes, hbytes, -, hzero⟩ := digitBytes_cases m
  by_cases hb : b = 0x30
  · exact Or.inl (by rw [hbytes, hb, hzero hb])
  · exact Or.inr ⟨⟨b, bytes, hbytes, hb⟩, fun _ => isDigit_of_mem_digitBytes⟩

/-- The digits of a number that fits a word are a text. -/
theorem numberText_digitBytes (negative : Bool) {m : Nat} (hm : m ≤ Nat.pow 2 63) :
    NumberText negative (digitBytes m) (integerOf negative m) := by
  have hvalue := digitsValue_digitBytes m
  have hword : m < Nat.pow 2 64 := Nat.lt_of_le_of_lt hm (by decide)
  have hsize : significand 0 (digitBytes m) = (m, 0) := by
    rw [significand_eq _ _ (by rwa [hvalue]), hvalue]
  have hlarge : tooLarge (digitBytes m) [] 0 = false := by
    simpa [tooLarge, hsize, significand] using exceedsDouble_zero hword
  have htext : NumberText negative (digitBytes m)
      (integerOf negative (digitsValue 0 (digitBytes m))) :=
    .integer (isWhole_digitBytes m) hlarge
  rwa [hvalue] at htext

/-- **An integer is written as a text of it**, behind its sign if it has one. -/
theorem numberText_writeInteger (n : Int64) :
    (∃ t, Utf8.encode (writeInteger n) = 0x2D :: t ∧ NumberText true t (some n)) ∨
      NumberText false (Utf8.encode (writeInteger n)) (some n) := by
  have hlow := n.le_toInt
  have hhigh := n.toInt_lt
  have hback : Int64.ofInt n.toInt = n := Int64.ofInt_toInt n
  cases hn : n.toInt with
  | ofNat m =>
    rw [hn, Int.ofNat_eq_natCast] at hhigh hback
    have hm : m < Nat.pow 2 63 := by
      change m < 2 ^ 63
      omega
    have htext : Utf8.encode (writeInteger n) = digitBytes m := by
      rw [writeInteger, hn, Utf8.encode, Numeral.printInt, Nat.toList_repr, encode_digits]
    have hinteger : integerOf false m = some n := by
      rw [integerOf, if_neg (by decide), if_pos hm, hback]
    rw [htext, ← hinteger]
    exact Or.inr (numberText_digitBytes false (Nat.le_of_lt hm))
  | negSucc m =>
    rw [hn, Int.negSucc_eq] at hlow hback
    have hm : m + 1 ≤ Nat.pow 2 63 := by
      change m + 1 ≤ 2 ^ 63
      omega
    have hminus : String.utf8EncodeChar '-' = [0x2D] := by decide
    have htext : Utf8.encode (writeInteger n) = 0x2D :: digitBytes (m + 1) := by
      rw [writeInteger, hn, Numeral.printInt, Utf8.encode_append, Utf8.encode, Utf8.encode,
        Nat.toList_repr, encode_digits]
      simp [hminus]
    have hinteger : integerOf true (m + 1) = some n := by
      rw [integerOf, if_pos rfl, if_neg (Nat.succ_ne_zero m), if_pos hm, Int.natCast_succ, hback]
    refine Or.inl ⟨_, htext, ?_⟩
    rw [← hinteger]
    exact numberText_digitBytes true hm

end Rendezvous.Json
