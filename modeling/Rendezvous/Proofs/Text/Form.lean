import Rendezvous.Proofs.Text.Utf8
import Rendezvous.Text.Form

/-!
# Queries that are written

A query can be written so that its fields are read again: each field as its name, an equals sign
and its value, and ampersands between the fields. As long as none of the bytes with a meaning of
their own stands in a name or in a value, nothing has to be encoded (`Form.decode_write`).
-/

namespace Rendezvous

/-! ### Splitting -/

section Split

variable {α : Type} [BEq α] [LawfulBEq α] {sep : α} {l : List α}

/-- Without a separator there is one part. -/
theorem splitAll_of_not_mem (h : sep ∉ l) : splitAll sep l = [l] := by
  induction l with
  | nil => rfl
  | cons a l ih =>
    have ha : ¬(a == sep) = true := fun he => h (by simp [eq_of_beq he])
    rw [splitAll, if_neg ha, ih fun hl => h (List.mem_cons_of_mem _ hl)]

/-- The first part ends at the first separator. -/
theorem splitAll_append (h : sep ∉ l) (rest : List α) :
    splitAll sep (l ++ sep :: rest) = l :: splitAll sep rest := by
  induction l with
  | nil => simp [splitAll]
  | cons a l ih =>
    have ha : ¬(a == sep) = true := fun he => h (by simp [eq_of_beq he])
    rw [List.cons_append, splitAll, if_neg ha, ih fun hl => h (List.mem_cons_of_mem _ hl)]

theorem splitFirst_append (h : sep ∉ l) (rest : List α) :
    splitFirst sep (l ++ sep :: rest) = some (l, rest) := by
  induction l with
  | nil => simp [splitFirst]
  | cons a l ih =>
    have ha : ¬(a == sep) = true := fun he => h (by simp [eq_of_beq he])
    rw [List.cons_append, splitFirst, if_neg ha, ih fun hl => h (List.mem_cons_of_mem _ hl)]
    rfl

/-- The parts come apart again. -/
theorem splitAll_intercalate {parts : List (List α)} (hne : parts ≠ [])
    (h : ∀ p ∈ parts, sep ∉ p) : splitAll sep ([sep].intercalate parts) = parts := by
  induction parts with
  | nil => exact absurd rfl hne
  | cons p parts ih =>
    have hp : sep ∉ p := h p (by simp)
    cases parts with
    | nil => simpa [List.intercalate] using splitAll_of_not_mem hp
    | cons q parts =>
      have hrest := ih (by simp) fun p' hp' => h p' (List.mem_cons_of_mem _ hp')
      have hjoin : [sep].intercalate (p :: q :: parts) =
          p ++ sep :: [sep].intercalate (q :: parts) := by
        simp [List.intercalate]
      rw [hjoin, splitAll_append hp, hrest]

end Split

namespace Form

/-- A byte with a meaning of its own in a query: a percent sign, a plus sign, an ampersand or an
equals sign. -/
def special : List UInt8 :=
  [0x25, 0x2B, 0x26, 0x3D]

/-- **A text can stand in a query as it is.** -/
def Plain (s : String) : Prop :=
  ∀ b ∈ Utf8.encode s, b ∉ special

instance (s : String) : Decidable (Plain s) :=
  inferInstanceAs (Decidable (∀ b ∈ Utf8.encode s, b ∉ special))

/-- A field as it is written. -/
def writeField (field : String × String) : List UInt8 :=
  Utf8.encode field.1 ++ 0x3D :: Utf8.encode field.2

/-- Fields as they are written. -/
def write (fields : List (String × String)) : List UInt8 :=
  [0x26].intercalate (fields.map writeField)

theorem percentDecode_eq_self {bytes : List UInt8} (h : (0x25 : UInt8) ∉ bytes) :
    percentDecode bytes = bytes := by
  induction bytes with
  | nil => rfl
  | cons a bytes ih =>
    obtain ⟨ha, hrest⟩ : ¬0x25 = a ∧ (0x25 : UInt8) ∉ bytes := by simpa using h
    match bytes with
    | [] => rfl
    | [b] => rfl
    | b :: c :: r => rw [percentDecode, if_neg fun he => ha he.symm, ih hrest]

theorem decodePart_encode {s : String} (h : Plain s) : decodePart (Utf8.encode s) = s := by
  have hplus : (Utf8.encode s).map (fun b => if b = 0x2B then 0x20 else b) = Utf8.encode s := by
    refine (List.map_congr_left fun b hb => ?_).trans (List.map_id _)
    exact if_neg fun he => h b hb (by simp [special, he])
  have hpercent : (0x25 : UInt8) ∉ Utf8.encode s := fun hb => h _ hb (by simp [special])
  rw [decodePart, hplus, percentDecode_eq_self hpercent, Utf8.decodeLossy_encode]

theorem decodeField_writeField {field : String × String} (hname : Plain field.1)
    (hvalue : Plain field.2) : decodeField (writeField field) = field := by
  have hequals : (0x3D : UInt8) ∉ Utf8.encode field.1 := fun hb => hname _ hb (by simp [special])
  simp only [decodeField, writeField, splitFirst_append hequals, decodePart_encode hname,
    decodePart_encode hvalue]

/-- **Fields that are written are read.** -/
theorem decode_write {fields : List (String × String)}
    (h : ∀ field ∈ fields, Plain field.1 ∧ Plain field.2) : decode (write fields) = fields := by
  have hsep : ∀ part ∈ fields.map writeField, (0x26 : UInt8) ∉ part := by
    intro part hpart hb
    obtain ⟨field, hfield, rfl⟩ := List.mem_map.1 hpart
    obtain ⟨hname, hvalue⟩ := h field hfield
    rcases List.mem_append.1 hb with hb | hb
    · exact hname _ hb (by simp [special])
    · rcases List.mem_cons.1 hb with he | hb
      · exact absurd he (by decide)
      · exact hvalue _ hb (by simp [special])
  cases fields with
  | nil => rfl
  | cons field fields =>
    have hall : ∀ part ∈ (field :: fields).map writeField, (!part.isEmpty) = true := by
      intro part hpart
      obtain ⟨field', -, rfl⟩ := List.mem_map.1 hpart
      simp [writeField]
    have hread : ∀ f ∈ field :: fields, decodeField (writeField f) = f := fun f hf =>
      decodeField_writeField (h f hf).1 (h f hf).2
    rw [decode, write, splitAll_intercalate (by simp) hsep, List.filter_eq_self.2 hall,
      List.map_map]
    exact (List.map_congr_left hread).trans (List.map_id _)

end Form

end Rendezvous
