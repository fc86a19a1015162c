import Rendezvous.Time.Calendar

/-!
# Days and dates

The date of a day is a date of the calendar (`CivilDate.isValid_ofDays`), and it is the date of no
other day (`CivilDate.toDays_ofDays`).

An era has four centuries, of which only the last one ends with a leap day. A century has
twenty-five times four years, of which only the last one ends with a leap day, if the century does
in the last of them. A day of an era is a century, four years, a year and a day of these
(`CivilDate.Splits`). With this the years of the era are counted without divisions, which is how the
formula for the year is seen to be right.
-/

namespace Rendezvous.CivilDate

variable {d c q z r : Int}

/-- No month is longer than this. -/
theorem monthLength_le (year : Int) (month : Nat) : monthLength year month ≤ 31 := by
  unfold monthLength
  split
  · split <;> decide
  · split <;> decide

/-- **A day of an era** as a century of it, four years of the century, a year of these and a day of
the year. -/
structure Splits (d c q z r : Int) : Prop where
  /-- The day is made of these. -/
  eq : d = 36524 * c + 1461 * q + 365 * z + r
  /-- A century from 0 to 3. -/
  century : 0 ≤ c ∧ c ≤ 3
  /-- Four years from 0 to 24. -/
  four : 0 ≤ q ∧ q ≤ 24
  /-- A year from 0 to 3. -/
  year : 0 ≤ z ∧ z ≤ 3
  /-- A day from 0 to 365. -/
  day : 0 ≤ r ∧ r ≤ 365
  /-- The last one is the leap day. -/
  leap : r = 365 → z = 3 ∧ (q = 24 → c = 3)

/-- Every day of an era splits. -/
theorem exists_splits (h : 0 ≤ d) (h' : d < 146097) : ∃ c q z r, Splits d c q z r := by
  -- the last century and the last year of four are longer than the others
  obtain ⟨c, hc⟩ : ∃ c, c = if d / 36524 = 4 then 3 else d / 36524 := ⟨_, rfl⟩
  obtain ⟨e, he⟩ : ∃ e, e = d - 36524 * c := ⟨_, rfl⟩
  obtain ⟨f, hf⟩ : ∃ f, f = e % 1461 := ⟨_, rfl⟩
  obtain ⟨z, hz⟩ : ∃ z, z = if f / 365 = 4 then 3 else f / 365 := ⟨_, rfl⟩
  have hcentury : 0 ≤ c ∧ c ≤ 3 ∧ 0 ≤ e ∧ e ≤ 36524 ∧ (e = 36524 → c = 3) := by
    split at hc <;> omega
  have hyear : 0 ≤ z ∧ z ≤ 3 ∧ 0 ≤ f - 365 * z ∧ f - 365 * z ≤ 365 ∧
      (f - 365 * z = 365 → z = 3) := by
    split at hz <;> omega
  refine ⟨c, e / 1461, z, f - 365 * z, ⟨?_, ?_, ?_, ?_, ?_, ?_⟩⟩ <;> omega

namespace Splits

/-- The years of the era that are over. -/
theorem yearOfEra_eq (h : Splits d c q z r) :
    (d - d / 1460 + d / 36524 - d / 146096) / 365 = 100 * c + 4 * q + z := by
  obtain ⟨heq, hc, hq, hz, hr, hleap⟩ := h
  -- the last day of the era is the first one of a fifth century
  obtain ⟨hlast, hcentury⟩ : d / 146096 = (if d = 146096 then 1 else 0) ∧
      d / 36524 = c + (if d = 146096 then 1 else 0) := by
    split <;> omega
  have hfour : d / 1460 = 25 * c + q ∨
      (d / 1460 = 25 * c + q + 1 ∧ 1460 ≤ 24 * c + q + 365 * z + r) := by omega
  rw [hlast, hcentury]
  rcases hfour with hfour | ⟨hfour, hmany⟩ <;> rw [hfour] <;> omega

/-- The days of the year that are over. -/
theorem dayOfYear_eq (h : Splits d c q z r) :
    d - (365 * (100 * c + 4 * q + z) + (100 * c + 4 * q + z) / 4 - (100 * c + 4 * q + z) / 100) =
      r := by
  obtain ⟨heq, hc, hq, hz, hr, hleap⟩ := h
  omega

/-- A year that ends with a leap day has one. -/
theorem isLeap (h : Splits d c q z 365) (era : Int) :
    isLeap (100 * c + 4 * q + z + era * 400 + 1) = true := by
  obtain ⟨hz, hq⟩ := h.leap rfl
  have hfour := h.four
  have hcentury := h.century
  simp only [CivilDate.isLeap, Bool.and_eq_true, Bool.or_eq_true, beq_iff_eq, bne_iff_ne]
  omega

end Splits

/-- **The date of a day**, when the day of its era splits. -/
theorem ofDays_eq {n : Int} (h : Splits ((n + 719468) % 146097) c q z r) :
    ∃ month day : Nat, 1 ≤ month ∧ month ≤ 12 ∧
      (month + 9 : Int) % 12 = (5 * r + 2) / 153 ∧
      (day : Int) = r - (153 * ((5 * r + 2) / 153) + 2) / 5 + 1 ∧
      ofDays n = ⟨100 * c + 4 * q + z + (n + 719468) / 146097 * 400 + (if month ≤ 2 then 1 else 0),
        month, day⟩ := by
  have hday := h.day
  obtain ⟨m, hm⟩ : ∃ m, m = (5 * r + 2) / 153 := ⟨_, rfl⟩
  obtain ⟨month, hmonth⟩ : ∃ month : Nat, (month : Int) = if m < 10 then m + 3 else m - 9 :=
    ⟨_, Int.toNat_of_nonneg (by omega)⟩
  obtain ⟨day, hday⟩ : ∃ day : Nat, (day : Int) = r - (153 * m + 2) / 5 + 1 :=
    ⟨_, Int.toNat_of_nonneg (by omega)⟩
  refine ⟨month, day, by omega, by omega, by omega, by omega, ?_⟩
  unfold ofDays
  dsimp only
  rw [h.yearOfEra_eq, h.dayOfYear_eq, ← hm, ← hmonth, ← hday]
  congr 2
  simp only [Int.ofNat_le, show (2 : Int) = (2 : Nat) from rfl]

/-- **The date of a day is a date of the calendar.** -/
theorem isValid_ofDays (n : Int) : (ofDays n).isValid = true := by
  obtain ⟨c, q, z, r, h⟩ := exists_splits (d := (n + 719468) % 146097) (by omega) (by omega)
  obtain ⟨month, day, hlow, hhigh, hmonth, hday, heq⟩ := ofDays_eq h
  have hbounds := h.day
  have hlength : day ≤ monthLength (ofDays n).year month := by
    rw [heq]
    unfold monthLength
    split
    · next htwo =>
      -- only the leap day is the twenty-ninth
      have hfebruary : month = 2 := by simpa using htwo
      subst hfebruary
      simp only [Nat.le_refl, if_true]
      by_cases hleap : r = 365
      · subst hleap
        rw [if_pos (h.isLeap ((n + 719468) / 146097))]
        omega
      · split <;> omega
    · split
      · next hthirty =>
        simp only [Bool.or_eq_true, beq_iff_eq] at hthirty
        omega
      · omega
  rw [heq] at hlength ⊢
  simp only [isValid, Bool.and_eq_true, decide_eq_true_eq]
  exact ⟨⟨⟨hlow, hhigh⟩, by omega⟩, hlength⟩

/-- **The date of a day is the date of this day.** -/
theorem toDays_ofDays (n : Int) : (ofDays n).toDays = n := by
  obtain ⟨c, q, z, r, h⟩ := exists_splits (d := (n + 719468) % 146097) (by omega) (by omega)
  obtain ⟨month, day, hlow, hhigh, hmonth, hday, heq⟩ := ofDays_eq h
  have hbounds := h.day
  have hyear := h.dayOfYear_eq
  have hc := h.century
  have hq := h.four
  have hz := h.year
  rw [heq]
  simp only [toDays, hmonth, hday]
  obtain ⟨y, hy⟩ : ∃ y, y = 100 * c + 4 * q + z := ⟨_, rfl⟩
  obtain ⟨era, hera⟩ : ∃ era, era = (n + 719468) / 146097 := ⟨_, rfl⟩
  have hyears : (if month ≤ 2 then y + era * 400 + (if month ≤ 2 then 1 else 0) - 1
      else y + era * 400 + (if month ≤ 2 then 1 else 0)) = y + era * 400 := by
    split <;> omega
  have hera' : (y + era * 400) / 400 = era := by omega
  have hy' : (y + era * 400) % 400 = y := by omega
  rw [← hy] at hyear ⊢
  rw [← hera, hyears, hera', hy']
  omega

end Rendezvous.CivilDate
