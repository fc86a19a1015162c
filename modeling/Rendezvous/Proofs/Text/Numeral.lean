import Mathlib.Algebra.Group.Nat.Defs
import Mathlib.Data.List.Basic
import Rendezvous.Text.Numeral

/-!
# What a numeral says

A numeral is said apart from its reader: it is an optional sign and at least one digit, and the
number that it writes is the value of the digits, with the sign (`Numeral.Writes`). The reader names
exactly this number, if it is one of 64 bits (`Numeral.readInt64_eq_some_iff`), and what is printed
of a number of 64 bits is read as this number, the least and the greatest one included
(`Numeral.readInt64_printInt`). A number that is printed with zeros in front is still this number
(`Numeral.valueFrom_padded`).
-/

namespace Rendezvous.Numeral

/-- **A text writes a number**: an optional sign, and at least one digit. -/
def Writes (s : String) (n : Int) : Prop :=
  ∃ sign digits, s.toList = sign ++ digits ∧ digits ≠ [] ∧ (∀ d ∈ digits, isDigit d = true) ∧
    ((sign = ['-'] ∧ n = -(Nat.ofDigitChars 10 digits 0 : Int)) ∨
      ((sign = [] ∨ sign = ['+']) ∧ n = (Nat.ofDigitChars 10 digits 0 : Int)))

theorem valueFrom_eq_ofDigitChars (n : Nat) (cs : List Char) :
    valueFrom n cs = Nat.ofDigitChars 10 cs n := by
  induction cs generalizing n with
  | nil => rfl
  | cons c cs ih => exact ih _

/-- The values of the digits of ASCII. -/
theorem toNat_of_isDigit {c : Char} (h : isDigit c = true) : 48 ≤ c.toNat ∧ c.toNat ≤ 57 := by
  simpa [isDigit, Char.le_def, UInt32.le_iff_toNat_le] using h

/-- So many digits name a number of no more digits. -/
theorem valueFrom_lt {cs : List Char} (h : ∀ c ∈ cs, isDigit c = true) (n : Nat) :
    valueFrom n cs < (n + 1) * 10 ^ cs.length := by
  induction cs generalizing n with
  | nil =>
    show n < (n + 1) * 1
    omega
  | cons c cs ih =>
    have hvalue : digitValue c ≤ 9 := by
      have hbounds := toNat_of_isDigit (h c (by simp))
      have hzero : '0'.toNat = 48 := rfl
      unfold digitValue
      omega
    show valueFrom (10 * n + digitValue c) cs < (n + 1) * 10 ^ (c :: cs).length
    calc valueFrom (10 * n + digitValue c) cs
        < (10 * n + digitValue c + 1) * 10 ^ cs.length :=
          ih (fun d hd => h d (List.mem_cons_of_mem _ hd)) _
      _ ≤ ((n + 1) * 10) * 10 ^ cs.length := Nat.mul_le_mul_right _ (by omega)
      _ = (n + 1) * 10 ^ (c :: cs).length := by rw [List.length_cons, Nat.pow_succ', Nat.mul_assoc]

theorem readDigits_eq_some_iff {cs : List Char} {n : Nat} :
    readDigits cs = some n ↔
      cs ≠ [] ∧ (∀ c ∈ cs, isDigit c = true) ∧ Nat.ofDigitChars 10 cs 0 = n := by
  unfold readDigits
  rw [valueFrom_eq_ofDigitChars]
  cases cs with
  | nil => simp
  | cons c cs =>
    cases hall : (c :: cs).all isDigit with
    | true =>
      have hdigits : ∀ d ∈ c :: cs, isDigit d = true := List.all_eq_true.1 hall
      simpa using fun _ => ⟨hdigits c (by simp), fun d hd => hdigits d (by simp [hd])⟩
    | false =>
      have hdigits : ¬∀ d ∈ c :: cs, isDigit d = true := fun h => by
        simp [List.all_eq_true.2 h] at hall
      simpa using fun hc hcs => absurd (by simpa using ⟨hc, hcs⟩) hdigits

/-- A number that is read with the sign in front of it. -/
theorem map_readDigits_eq_some_iff {cs : List Char} {f : Int → Int} {n : Int} :
    ((do let m ← readDigits cs; pure (m : Int)) : Option Int).map f = some n ↔
      cs ≠ [] ∧ (∀ c ∈ cs, isDigit c = true) ∧ f (Nat.ofDigitChars 10 cs 0) = n := by
  constructor
  · intro h
    obtain ⟨m, hm, rfl⟩ := Option.map_eq_some_iff.1 h
    obtain ⟨k, hk, hkm⟩ := Option.bind_eq_some_iff.1 hm
    obtain ⟨hne, hdigits, rfl⟩ := readDigits_eq_some_iff.1 hk
    exact ⟨hne, hdigits, congrArg f (Option.some.inj hkm)⟩
  · rintro ⟨hne, hdigits, rfl⟩
    have hread := readDigits_eq_some_iff.2 ⟨hne, hdigits, rfl⟩
    exact Option.map_eq_some_iff.2 ⟨_, Option.bind_eq_some_iff.2 ⟨_, hread, rfl⟩, rfl⟩

/-- A sign is no digit. -/
theorem ne_sign_of_isDigit {c : Char} (h : isDigit c = true) : c ≠ '-' ∧ c ≠ '+' := by
  constructor <;> rintro rfl <;> exact absurd h (by decide)

/-- **The reader names the number that is written.** -/
theorem readInt_eq_some_iff {s : String} {n : Int} : readInt s.toList = some n ↔ Writes s n := by
  constructor
  · intro h
    unfold readInt at h
    split at h
    all_goals obtain ⟨hne, hdigits, rfl⟩ := map_readDigits_eq_some_iff.1 h
    · next r he => exact ⟨['-'], r, he, hne, hdigits, Or.inl ⟨rfl, rfl⟩⟩
    · next r he => exact ⟨['+'], r, he, hne, hdigits, Or.inr ⟨Or.inr rfl, rfl⟩⟩
    · exact ⟨[], _, rfl, hne, hdigits, Or.inr ⟨Or.inl rfl, rfl⟩⟩
  · rintro ⟨sign, digits, he, hne, hdigits, hsign⟩
    rw [he]
    rcases hsign with ⟨rfl, rfl⟩ | ⟨rfl | rfl, rfl⟩
    · exact map_readDigits_eq_some_iff.2 ⟨hne, hdigits, rfl⟩
    · -- a text that begins with a digit begins with no sign
      obtain ⟨d, ds, rfl⟩ := List.exists_cons_of_ne_nil hne
      obtain ⟨hminus, hplus⟩ := ne_sign_of_isDigit (hdigits d (by simp))
      unfold readInt
      split
      · next he' => exact absurd (List.cons.inj he').1 hminus
      · next he' => exact absurd (List.cons.inj he').1 hplus
      · exact map_readDigits_eq_some_iff.2 ⟨hne, hdigits, rfl⟩
    · exact map_readDigits_eq_some_iff.2 ⟨hne, hdigits, rfl⟩

theorem inInt64_iff {n : Int} : inInt64 n = true ↔ ∃ m : Int64, m.toInt = n := by
  constructor
  · intro h
    have hbounds : -9223372036854775808 ≤ n ∧ n ≤ 9223372036854775807 := by simpa [inInt64] using h
    refine ⟨Int64.ofInt n, ?_⟩
    rw [Int64.toInt_ofInt, Int.bmod_def]
    simp only [Int64.size]
    omega
  · rintro ⟨m, rfl⟩
    have hle := m.le_toInt
    have hlt := m.toInt_lt
    simp only [inInt64, Bool.and_eq_true, decide_eq_true_eq]
    omega

/-- **What is read is what is written**, among the numbers of 64 bits. -/
theorem readInt64_eq_some_iff {s : String} {n : Int64} :
    readInt64 s = some n ↔ Writes s n.toInt := by
  rw [← readInt_eq_some_iff]
  unfold readInt64
  cases hread : readInt s.toList with
  | none => simp
  | some m =>
    by_cases hin : inInt64 m = true
    · obtain ⟨k, rfl⟩ := inInt64_iff.1 hin
      simp [hin, Int64.toInt_inj]
    · have hout : ∀ k : Int64, k.toInt ≠ m := fun k hk => hin (inInt64_iff.2 ⟨k, hk⟩)
      simp [hin, (hout n).symm]

theorem isDigit_of_mem_toDigits {n : Nat} {c : Char} (h : c ∈ Nat.toDigits 10 n) :
    isDigit c = true := by
  have hdigit : c.isDigit = true := Nat.isDigit_of_mem_toDigits (by decide) (by decide) h
  simpa [isDigit, Char.isDigit, Char.le_def] using hdigit

/-- What is printed are digits, and a minus sign perhaps. -/
theorem isDigit_of_mem_printInt {n : Int} {c : Char} (h : c ∈ (printInt n).toList) :
    c = '-' ∨ isDigit c = true := by
  cases n with
  | ofNat m => exact Or.inr (isDigit_of_mem_toDigits (by simpa [printInt] using h))
  | negSucc m =>
    have hmem : c = '-' ∨ c ∈ Nat.toDigits 10 (m + 1) := by simpa [printInt] using h
    exact hmem.imp_right isDigit_of_mem_toDigits

/-- What is printed writes the number. -/
theorem writes_printInt (n : Int) : Writes (printInt n) n := by
  have hvalue : ∀ m : Nat, Nat.ofDigitChars 10 (Nat.toDigits 10 m) 0 = m := fun m =>
    Nat.ofDigitChars_toDigits (by decide) (by decide)
  cases n with
  | ofNat m =>
    refine ⟨[], Nat.toDigits 10 m, by simp [printInt], Nat.toDigits_ne_nil,
      fun d hd => isDigit_of_mem_toDigits hd, Or.inr ⟨Or.inl rfl, ?_⟩⟩
    rw [hvalue]
    rfl
  | negSucc m =>
    refine ⟨['-'], Nat.toDigits 10 (m + 1), by simp [printInt], Nat.toDigits_ne_nil,
      fun d hd => isDigit_of_mem_toDigits hd, Or.inl ⟨rfl, ?_⟩⟩
    rw [hvalue]
    rfl

/-- **A number of 64 bits survives** being printed and read. -/
theorem readInt64_printInt (n : Int64) : readInt64 (printInt n.toInt) = some n :=
  readInt64_eq_some_iff.2 (writes_printInt n.toInt)

/-! ### Zeros in front -/

theorem toList_padded (width n : Nat) : (padded width n).toList =
    List.replicate (width - (Nat.toDigits 10 n).length) '0' ++ Nat.toDigits 10 n := by
  simp [padded]

theorem isDigit_of_mem_padded {width n : Nat} {c : Char} (h : c ∈ (padded width n).toList) :
    isDigit c = true := by
  rw [toList_padded, List.mem_append] at h
  rcases h with h | h
  · rw [List.eq_of_mem_replicate h]
    rfl
  · exact isDigit_of_mem_toDigits h

theorem padded_ne_nil (width n : Nat) : (padded width n).toList ≠ [] := by
  simp [toList_padded, Nat.toDigits_ne_nil]

/-- A number of no more digits than the width has this width. -/
theorem length_padded {width n : Nat} (hwidth : 0 < width) (hn : n < 10 ^ width) :
    (padded width n).toList.length = width := by
  have hlength : (Nat.toDigits 10 n).length ≤ width :=
    (Nat.length_toDigits_le_iff (by decide) hwidth).2 hn
  rw [toList_padded, List.length_append, List.length_replicate]
  omega

theorem ofDigitChars_zeros (k : Nat) (cs : List Char) :
    Nat.ofDigitChars 10 (List.replicate k '0' ++ cs) 0 = Nat.ofDigitChars 10 cs 0 := by
  induction k with
  | zero => rfl
  | succ k ih => exact ih

/-- **Zeros in front do not change a number.** -/
theorem valueFrom_padded (width n : Nat) : valueFrom 0 (padded width n).toList = n := by
  rw [valueFrom_eq_ofDigitChars, toList_padded, ofDigitChars_zeros]
  exact Nat.ofDigitChars_toDigits (by decide) (by decide)

end Rendezvous.Numeral
