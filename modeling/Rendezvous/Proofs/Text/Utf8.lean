import Mathlib.Data.List.Basic
import Rendezvous.Text.Utf8

/-!
# Text that is written is read

The reader takes one byte at a time and knows of a character only how far it has come. What it does
with the bytes of a whole character is said once, for a reader at rest and for one inside a
character (`Utf8.Spells`): each byte but the last one leads further inside, and the last one
completes the character. The bytes that a character is written with spell it
(`Utf8.spells_utf8EncodeChar`), for each of the four lengths that there are. So both readers, the
strict one and the lenient one, read what was written (`Utf8.decode_encodeChars`,
`Utf8.decodeLossy_encode`).
-/

namespace Rendezvous.Utf8

/-- **Bytes spell a character** for a reader that stands at rest or inside a character. -/
inductive Spells : Option Partial → List UInt8 → Char → Prop where
  /-- The last byte completes it. -/
  | last {state : Option Partial} {b : UInt8} {c : Char} (h : step state b = .whole c) :
      Spells state [b] c
  /-- Another byte leads further inside. -/
  | more {state : Option Partial} {b : UInt8} {p : Partial} {bytes : List UInt8} {c : Char}
      (h : step state b = .begun p) (hbytes : Spells (some p) bytes c) : Spells state (b :: bytes) c

namespace Spells

variable {state : Option Partial} {bytes : List UInt8} {c : Char}

/-- The strict reader reads what is spelled, and is at rest behind it. -/
theorem decodeFrom (h : Spells state bytes c) (rest : List UInt8) :
    Utf8.decodeFrom state (bytes ++ rest) = (Utf8.decodeFrom none rest).map (c :: ·) := by
  induction h with
  | last h => simp [Utf8.decodeFrom, h]
  | more h _ ih => simpa [Utf8.decodeFrom, h] using ih

/-- So does the lenient one. -/
theorem decodeLossyFrom (h : Spells state bytes c) (rest : List UInt8) :
    Utf8.decodeLossyFrom state (bytes ++ rest) = c :: Utf8.decodeLossyFrom none rest := by
  induction h with
  | last h => simp [Utf8.decodeLossyFrom, h]
  | more h _ ih => simpa [Utf8.decodeLossyFrom, h] using ih

/-- The last byte of a character, in its bounds. -/
theorem owedOne {low high value n : Nat} (hn : n < 256) (hlow : low ≤ n) (hhigh : n ≤ high)
    (hvalue : 64 * value + n % 64 = c.toNat) :
    Spells (some ⟨1, low, high, value⟩) [UInt8.ofNat n] c := by
  refine .last ?_
  have hto : (UInt8.ofNat n).toNat = n := UInt8.toNat_ofNat_of_lt' hn
  simp [step, Partial.push, hto, hlow, hhigh, hvalue]

/-- A byte of a character in its bounds, when others are to come. -/
theorem owedMore {owed low high value n : Nat} (hn : n < 256) (hlow : low ≤ n) (hhigh : n ≤ high)
    (hbytes : Spells (some ⟨owed + 1, 0x80, 0xBF, 64 * value + n % 64⟩) bytes c) :
    Spells (some ⟨owed + 2, low, high, value⟩) (UInt8.ofNat n :: bytes) c := by
  refine .more ?_ hbytes
  have hto : (UInt8.ofNat n).toNat = n := UInt8.toNat_ofNat_of_lt' hn
  simp [step, Partial.push, hto, hlow, hhigh]

end Spells

/-! ### First bytes -/

section First

variable {n : Nat}

/-- The first of two bytes. -/
theorem first_ofTwo (hlow : 0xC2 ≤ n) (hhigh : n ≤ 0xDF) :
    first (UInt8.ofNat n) = .begun ⟨1, 0x80, 0xBF, n % 32⟩ := by
  have hto : (UInt8.ofNat n).toNat = n :=
    UInt8.toNat_ofNat_of_lt' (show n < 256 by omega)
  simp only [first, hto]
  rw [if_neg (by omega), if_neg (by omega), if_pos (by omega)]

/-- The least value of the byte behind the first one of three, so that nothing is written with
more bytes than it needs. -/
def lowOfThree (n : Nat) : Nat := if n = 0xE0 then 0xA0 else 0x80

/-- The greatest one, so that no surrogate is written. -/
def highOfThree (n : Nat) : Nat := if n = 0xED then 0x9F else 0xBF

/-- The first of three bytes. -/
theorem first_ofThree (hlow : 0xE0 ≤ n) (hhigh : n ≤ 0xEF) :
    first (UInt8.ofNat n) = .begun ⟨2, lowOfThree n, highOfThree n, n % 16⟩ := by
  have hto : (UInt8.ofNat n).toNat = n :=
    UInt8.toNat_ofNat_of_lt' (show n < 256 by omega)
  simp only [first, hto, lowOfThree, highOfThree]
  rw [if_neg (by omega), if_neg (by omega), if_neg (by omega)]
  by_cases h0 : n = 0xE0
  · simp [h0]
  · by_cases hD : n = 0xED
    · simp [hD]
    · rw [if_neg h0, if_neg hD, if_pos hhigh, if_neg h0, if_neg hD]

/-- The least value of the byte behind the first one of four. -/
def lowOfFour (n : Nat) : Nat := if n = 0xF0 then 0x90 else 0x80

/-- The greatest one, so that no value is past the last one. -/
def highOfFour (n : Nat) : Nat := if n = 0xF4 then 0x8F else 0xBF

/-- The first of four bytes. -/
theorem first_ofFour (hlow : 0xF0 ≤ n) (hhigh : n ≤ 0xF4) :
    first (UInt8.ofNat n) = .begun ⟨3, lowOfFour n, highOfFour n, n % 8⟩ := by
  have hto : (UInt8.ofNat n).toNat = n :=
    UInt8.toNat_ofNat_of_lt' (show n < 256 by omega)
  simp only [first, hto, lowOfFour, highOfFour]
  rw [if_neg (by omega), if_neg (by omega), if_neg (by omega), if_neg (by omega),
    if_neg (by omega), if_neg (by omega)]
  by_cases h0 : n = 0xF0
  · simp [h0]
  · by_cases h4 : n = 0xF4
    · simp [h4]
    · rw [if_neg h0, if_pos (by omega), if_neg h0, if_neg h4]

end First

/-! ### Characters -/

/-- The values of characters leave out the surrogates, and end. -/
theorem toNat_bounds (c : Char) : c.toNat < 0xD800 ∨ (0xDFFF < c.toNat ∧ c.toNat < 0x110000) :=
  c.valid

/-- **The bytes that a character is written with spell it.** -/
theorem spells_utf8EncodeChar (c : Char) : Spells none (String.utf8EncodeChar c) c := by
  have hbounds := toNat_bounds c
  have hval : c.val.toNat = c.toNat := rfl
  unfold String.utf8EncodeChar
  simp only [hval]
  by_cases h1 : c.toNat ≤ 0x7F
  · rw [if_pos h1]
    refine .last ?_
    have hto : (UInt8.ofNat c.toNat).toNat = c.toNat :=
      UInt8.toNat_ofNat_of_lt' (show c.toNat < 256 by omega)
    simp [step, first, hto, h1]
  rw [if_neg h1]
  by_cases h2 : c.toNat ≤ 0x7FF
  · rw [if_pos h2]
    refine .more (first_ofTwo (by omega) (by omega)) ?_
    exact .owedOne (by omega) (by omega) (by omega) (by omega)
  rw [if_neg h2]
  by_cases h3 : c.toNat ≤ 0xFFFF
  · rw [if_pos h3]
    refine .more (first_ofThree (by omega) (by omega)) ?_
    refine .owedMore (by omega) ?_ ?_ ?_
    · unfold lowOfThree
      split <;> omega
    · unfold highOfThree
      split <;> omega
    · exact .owedOne (by omega) (by omega) (by omega) (by omega)
  · rw [if_neg h3]
    refine .more (first_ofFour (by omega) (by omega)) ?_
    refine .owedMore (by omega) ?_ ?_ ?_
    · unfold lowOfFour
      split <;> omega
    · unfold highOfFour
      split <;> omega
    · refine .owedMore (by omega) (by omega) (by omega) ?_
      exact .owedOne (by omega) (by omega) (by omega) (by omega)

/-- A character of ASCII is written as the one byte of its value. -/
theorem utf8EncodeChar_of_le {c : Char} (h : c.toNat ≤ 0x7F) :
    String.utf8EncodeChar c = [UInt8.ofNat c.toNat] :=
  if_pos h

/-- The bytes of a character are its value, or none of ASCII. -/
theorem toNat_of_mem_utf8EncodeChar {c : Char} {b : UInt8} (h : b ∈ String.utf8EncodeChar c) :
    b.toNat = c.toNat ∨ 0x80 ≤ b.toNat := by
  have hbounds := toNat_bounds c
  have hval : c.val.toNat = c.toNat := rfl
  unfold String.utf8EncodeChar at h
  simp only [hval] at h
  split at h
  · obtain rfl := List.mem_singleton.1 h
    exact Or.inl (UInt8.toNat_ofNat_of_lt' (show c.toNat < 256 by omega))
  · -- each byte is made by adding a number from 0x80 on
    refine Or.inr ?_
    have hmade : ∃ n, n < 256 ∧ 0x80 ≤ n ∧ b = UInt8.ofNat n := by
      split at h
      · rcases List.mem_pair.1 h with rfl | rfl
        all_goals exact ⟨_, by omega, by omega, rfl⟩
      · split at h <;> simp only [List.mem_cons, List.not_mem_nil, or_false] at h
        · rcases h with rfl | rfl | rfl
          all_goals exact ⟨_, by omega, by omega, rfl⟩
        · rcases h with rfl | rfl | rfl | rfl
          all_goals exact ⟨_, by omega, by omega, rfl⟩
    obtain ⟨n, hn, hle, rfl⟩ := hmade
    rwa [UInt8.toNat_ofNat_of_lt' hn]

/-! ### Texts -/

theorem encodeChars_of_le {cs : List Char} (h : ∀ c ∈ cs, c.toNat ≤ 0x7F) :
    encodeChars cs = cs.map fun c => UInt8.ofNat c.toNat := by
  induction cs with
  | nil => rfl
  | cons c cs ih =>
    rw [encodeChars_cons, utf8EncodeChar_of_le (h c (by simp)),
      ih fun d hd => h d (List.mem_cons_of_mem _ hd)]
    rfl

@[simp] theorem encode_append (s t : String) : encode (s ++ t) = encode s ++ encode t := by
  simp [encode]

theorem encode_intercalate (sep : String) (texts : List String) :
    encode (sep.intercalate texts) = (encode sep).intercalate (texts.map encode) := by
  induction texts with
  | nil => rfl
  | cons text texts ih =>
    cases texts with
    | nil => simp
    | cons next texts =>
      rw [String.intercalate_cons_cons, encode_append, encode_append, ih]
      simp

/-- **What was written is read.** -/
theorem decode_encodeChars (cs : List Char) : decode (encodeChars cs) = some cs := by
  induction cs with
  | nil => rfl
  | cons c cs ih =>
    unfold decode at ih ⊢
    rw [encodeChars_cons, (spells_utf8EncodeChar c).decodeFrom, ih, Option.map_some]

theorem decodeString_encode (s : String) : decodeString (encode s) = some s := by
  simp [decodeString, encode, decode_encodeChars]

/-- The lenient reader finds nothing to replace in it. -/
theorem decodeLossy_encode (s : String) : decodeLossy (encode s) = s := by
  have hchars : ∀ cs : List Char, decodeLossyFrom none (encodeChars cs) = cs := by
    intro cs
    induction cs with
    | nil => rfl
    | cons c cs ih => rw [encodeChars_cons, (spells_utf8EncodeChar c).decodeLossyFrom, ih]
  rw [decodeLossy, encode, hchars, String.ofList_toList]

end Rendezvous.Utf8
