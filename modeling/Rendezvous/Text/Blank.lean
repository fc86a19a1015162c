/-!
# Blank characters

The characters that count as blank are those with the Unicode property `White_Space`: the tab
group, the space, the next-line and no-break spaces, and the spaces and separators of general
punctuation. Trimming takes blanks from both ends of a text and nothing from its middle. The
zero-width space and the byte order mark are not blank.
-/

namespace Rendezvous

/-- A character with the Unicode property `White_Space`. -/
def isBlank (c : Char) : Bool :=
  let n := c.toNat
  (9 ≤ n && n ≤ 13) || n == 0x20 || n == 0x85 || n == 0xA0 || n == 0x1680 ||
    (0x2000 ≤ n && n ≤ 0x200A) || n == 0x2028 || n == 0x2029 || n == 0x202F || n == 0x205F ||
    n == 0x3000

/-- A list of characters without the blanks at its two ends. -/
def trimChars (cs : List Char) : List Char :=
  ((cs.dropWhile isBlank).reverse.dropWhile isBlank).reverse

/-- A text without the blanks at its two ends. -/
def trim (s : String) : String :=
  String.ofList (trimChars s.toList)

/-- A text that holds nothing but blanks, the empty text included. -/
def isAllBlank (s : String) : Bool :=
  s.toList.all isBlank

/-- Each run of blanks written as one space, and none at the two ends. -/
def squeezeChars (cs : List Char) : List Char :=
  go false (trimChars cs)
where
  /-- `pending` says that the character before was blank. -/
  go (pending : Bool) : List Char → List Char
    | [] => []
    | c :: r =>
      if isBlank c then (if pending then go true r else ' ' :: go true r) else c :: go false r

/-- A text with each run of blanks written as one space, and none at the two ends. -/
def squeeze (s : String) : String :=
  String.ofList (squeezeChars s.toList)

/-- A last character that is not blank survives the dropping of leading blanks. -/
theorem dropWhile_isBlank_append_ne_nil {c : Char} (hc : ¬isBlank c = true) (cs : List Char) :
    (cs ++ [c]).dropWhile isBlank ≠ [] := by
  induction cs with
  | nil => simp [hc]
  | cons d r ih => by_cases hd : isBlank d = true <;> simp [hd, ih]

/-- Trimming leaves nothing exactly of a text that is blank throughout. -/
theorem trimChars_eq_nil_iff {cs : List Char} : trimChars cs = [] ↔ cs.all isBlank = true := by
  induction cs with
  | nil => simp [trimChars]
  | cons c r ih =>
    by_cases hc : isBlank c = true
    · rw [List.all_cons, hc, Bool.true_and, ← ih, trimChars, trimChars,
        List.dropWhile_cons_of_pos hc]
    · have hsome : trimChars (c :: r) ≠ [] := by
        rw [trimChars, List.dropWhile_cons_of_neg hc, List.reverse_cons]
        exact mt List.reverse_eq_nil_iff.1 (dropWhile_isBlank_append_ne_nil hc r.reverse)
      have hnot : ¬(c :: r).all isBlank = true := fun hall =>
        hc (List.all_eq_true.1 hall c List.mem_cons_self)
      exact iff_of_false hsome hnot

end Rendezvous
