import Mathlib.Data.List.TakeWhile
import Rendezvous.Proofs.Text.Numeral
import Rendezvous.Proofs.Time.Calendar
import Rendezvous.Time.Timestamp

/-!
# Points in time in words

A point in time that has a date, and a time of day that goes with its part of a second, is *civil*
(`Timestamp.IsCivil`). The points in time that are read are civil (`Timestamp.isCivil_of_read`),
and those that are civil are read from what is written of them (`Timestamp.read_write`), the last
day of a year as well as the first one and leap seconds included.

What is written is read part by part. The digits of a part end where something comes that is no
digit, which is the same for all parts, so that a part is read whatever comes behind it
(`Timestamp.digits_padded`).
-/

namespace Rendezvous

namespace Timestamp

variable {r : Chars} {n : Nat}

/-- **A point in time that has a date and a time of day.** The last second of a minute may be a leap
second. -/
structure IsCivil (t : Timestamp) : Prop where
  /-- The year can be dated. -/
  year : isDatable (CivilDate.ofDays (t.second / secondsPerDay)).year = true
  /-- The part of the second is less than a second, or the second is a leap second. -/
  part : t.nano < nanosPerSecond ∨ (t.second % 60 = 59 ∧ t.nano < 2 * nanosPerSecond)

/-! ### Parts -/

/-- **Digits end here**: what comes next is no digit. -/
def StopsDigits (r : Chars) : Prop :=
  ∀ c ∈ r.head?, Numeral.isDigit c = false

theorem stopsDigits_cons {c : Char} (hc : Numeral.isDigit c = false) (r : Chars) :
    StopsDigits (c :: r) := by
  rintro _ ⟨⟩
  exact hc

/-- No digit is blank. -/
theorem isBlank_of_isDigit {c : Char} (h : Numeral.isDigit c = true) : isBlank c = false := by
  have hbounds := Numeral.toNat_of_isDigit h
  simp only [isBlank, Bool.or_eq_false_iff, Bool.and_eq_false_iff, decide_eq_false_iff_not,
    beq_eq_false_iff_ne]
  omega

theorem skipBlanks_cons {c : Char} (hc : isBlank c = false) (r : Chars) :
    skipBlanks (c :: r) = c :: r := by
  simp [skipBlanks, hc]

theorem takeWhile_digits {ds : Chars} (hds : ∀ d ∈ ds, Numeral.isDigit d = true)
    (hr : StopsDigits r) :
    (ds ++ r).takeWhile Numeral.isDigit = ds ∧ (ds ++ r).dropWhile Numeral.isDigit = r := by
  rw [List.takeWhile_append_of_pos hds, List.dropWhile_append_of_pos hds]
  cases r with
  | nil => simp
  | cons c r => simp [hr c rfl]

/-- **A padded number is read**, when it has no more digits than are allowed and none come next. -/
theorem digits_padded {most width : Nat} (hmost : (Numeral.padded width n).toList.length ≤ most)
    (hr : StopsDigits r) :
    digits most ((Numeral.padded width n).toList ++ r) = some (n, r) := by
  obtain ⟨htake, -⟩ := takeWhile_digits (fun d => Numeral.isDigit_of_mem_padded (n := n)) hr
  unfold digits
  rw [htake, List.take_of_length_le hmost]
  dsimp only
  rw [List.isEmpty_eq_false_iff.2 (Numeral.padded_ne_nil width n), List.drop_left,
    Numeral.valueFrom_padded]
  rfl

theorem skipBlanks_padded (width n : Nat) (r : Chars) :
    skipBlanks ((Numeral.padded width n).toList ++ r) = (Numeral.padded width n).toList ++ r := by
  obtain ⟨c, cs, hcs⟩ := List.exists_cons_of_ne_nil (Numeral.padded_ne_nil width n)
  have hc : Numeral.isDigit c = true := Numeral.isDigit_of_mem_padded (hcs ▸ List.mem_cons_self)
  rw [hcs, List.cons_append, skipBlanks_cons (isBlank_of_isDigit hc)]

theorem part_padded (hn : n < 100) (hr : StopsDigits r) :
    part ((Numeral.padded 2 n).toList ++ r) = some (n, r) := by
  rw [part, skipBlanks_padded, digits_padded (Nat.le_of_eq (Numeral.length_padded (by decide) hn)) hr]

theorem mark_cons {c : Char} (hc : isBlank c = false) (r : Chars) : mark c (c :: r) = some r := by
  simp [mark, skipBlanks_cons hc]

/-! ### Dates -/

/-- **A year is read**, with its sign if it has one. -/
theorem readYear_writeYear (year : Int) (hr : StopsDigits r) :
    readYear ((writeYear year).toList ++ r) = some (year, r) := by
  have hsigned : ∀ n : Nat, digits ((Numeral.padded 4 n).toList ++ r).length
      ((Numeral.padded 4 n).toList ++ r) = some (n, r) := fun n => digits_padded (by simp) hr
  unfold writeYear
  split
  · next hyear =>
    -- a text that begins with a digit begins with no sign
    obtain ⟨c, cs, hcs⟩ := List.exists_cons_of_ne_nil (Numeral.padded_ne_nil 4 year.toNat)
    have hc : Numeral.isDigit c = true := Numeral.isDigit_of_mem_padded (hcs ▸ List.mem_cons_self)
    obtain ⟨hminus, hplus⟩ := Numeral.ne_sign_of_isDigit hc
    have hlength : (Numeral.padded 4 year.toNat).toList.length = 4 :=
      Numeral.length_padded (by decide) (by omega)
    have hdigits : digits 4 ((Numeral.padded 4 year.toNat).toList ++ r) = some (year.toNat, r) :=
      digits_padded (Nat.le_of_eq hlength) hr
    rw [readYear, skipBlanks_padded]
    rw [hcs, List.cons_append] at hdigits ⊢
    split
    · next he => exact absurd (List.cons.inj he).1 hminus
    · next he => exact absurd (List.cons.inj he).1 hplus
    · rw [hdigits]
      exact congrArg (fun y => some (y, r)) (Int.toNat_of_nonneg hyear.1)
  · split
    · next hneg =>
      have hskip : skipBlanks (("-" ++ Numeral.padded 4 year.natAbs).toList ++ r) =
          '-' :: ((Numeral.padded 4 year.natAbs).toList ++ r) := by
        rw [String.toList_append]
        exact skipBlanks_cons rfl _
      rw [readYear, hskip]
      simp only [hsigned, Option.map_some]
      exact congrArg (fun y => some (y, r)) (by omega)
    · next hpos =>
      have hskip : skipBlanks (("+" ++ Numeral.padded 4 year.natAbs).toList ++ r) =
          '+' :: ((Numeral.padded 4 year.natAbs).toList ++ r) := by
        rw [String.toList_append]
        exact skipBlanks_cons rfl _
      rw [readYear, hskip]
      simp only [hsigned, Option.map_some]
      exact congrArg (fun y => some (y, r)) (by omega)

/-- A date as it is written. -/
def writeDate (d : CivilDate) : String :=
  writeYear d.year ++ "-" ++ Numeral.padded 2 d.month ++ "-" ++ Numeral.padded 2 d.day

/-- **A date is read.** -/
theorem readDate_writeDate {d : CivilDate} (hyear : isDatable d.year = true)
    (hvalid : d.isValid = true) (hr : StopsDigits r) :
    readDate ((writeDate d).toList ++ r) = some (d, r) := by
  have hparts : d.month < 100 ∧ d.day < 100 := by
    simp only [CivilDate.isValid, Bool.and_eq_true, decide_eq_true_eq] at hvalid
    obtain ⟨⟨⟨-, hmonth⟩, -⟩, hday⟩ := hvalid
    have hlength := CivilDate.monthLength_le d.year d.month
    omega
  have hchars : (writeDate d).toList ++ r = (writeYear d.year).toList ++ ('-' ::
      ((Numeral.padded 2 d.month).toList ++ ('-' :: ((Numeral.padded 2 d.day).toList ++ r)))) := by
    simp [writeDate, String.toList_append]
  have hhyphen : ∀ s : Chars, StopsDigits ('-' :: s) := stopsDigits_cons rfl
  rw [readDate, hchars, readYear_writeYear d.year (hhyphen _)]
  dsimp only [bind, Option.bind]
  rw [mark_cons rfl]
  dsimp only
  rw [part_padded hparts.1 (hhyphen _)]
  dsimp only
  rw [mark_cons rfl]
  dsimp only
  rw [part_padded hparts.2 hr]
  dsimp only
  rw [hyear, hvalid]
  rfl

/-! ### Times of day -/

/-- **A fraction is read**, and what comes behind it is left. -/
theorem readFraction_writeFraction (hn : n < nanosPerSecond) (hr : StopsDigits r)
    (hpoint : r.head? ≠ some '.') :
    readFraction ((writeFraction n).toList ++ r) = some (n, r) := by
  have hdigits : ∀ width m : Nat, 0 < width → width ≤ 9 → m < 10 ^ width →
      readFraction (("." ++ Numeral.padded width m).toList ++ r) =
        some (m * 10 ^ (9 - width), r) := by
    intro width m hpos hwidth hm
    have hlength := Numeral.length_padded hpos hm
    have hnone : ∀ d ∈ ([] : Chars), Numeral.isDigit d = true := nofun
    have hstop : r.dropWhile Numeral.isDigit = r := (takeWhile_digits hnone hr).2
    have hread : digits 9 ((Numeral.padded width m).toList ++ r) = some (m, r) :=
      digits_padded (by omega) hr
    have hchars : ("." ++ Numeral.padded width m).toList ++ r =
        '.' :: ((Numeral.padded width m).toList ++ r) := by
      rw [String.toList_append]
      rfl
    rw [hchars, readFraction, hread]
    dsimp only [bind, Option.bind]
    rw [hstop, List.length_append, Nat.add_sub_cancel, hlength]
    rfl
  unfold nanosPerSecond at hn
  unfold writeFraction
  split
  · next hzero =>
    subst hzero
    unfold readFraction
    split
    · next s he => exact absurd (congrArg List.head? he) hpoint
    · rfl
  split
  · next hmilli =>
    rw [hdigits 3 _ (by decide) (by decide) (by omega)]
    exact congrArg (fun m => some (m, r)) (by omega)
  split
  · next hmicro =>
    rw [hdigits 6 _ (by decide) (by decide) (by omega)]
    exact congrArg (fun m => some (m, r)) (by omega)
  · rw [hdigits 9 _ (by decide) (by decide) (by omega)]
    exact congrArg (fun m => some (m, r)) (by omega)

/-- The seconds of a day and the nanoseconds as they are written. -/
def writeTime (ofDay nano : Nat) : String :=
  Numeral.padded 2 (ofDay / 3600) ++ ":" ++ Numeral.padded 2 (ofDay / 60 % 60) ++ ":" ++
    Numeral.padded 2 (ofDay % 60 + nano / nanosPerSecond) ++ writeFraction (nano % nanosPerSecond)

theorem stopsDigits_writeFraction (n : Nat) (hr : StopsDigits r) :
    StopsDigits ((writeFraction n).toList ++ r) := by
  have hpoint : ∀ s : String, StopsDigits (("." ++ s).toList ++ r) := by
    intro s
    rw [String.toList_append]
    exact stopsDigits_cons rfl _
  unfold writeFraction
  split
  · exact hr
  split
  · exact hpoint _
  split
  · exact hpoint _
  · exact hpoint _

/-- **A time of day is read**, a leap second included. -/
theorem readTime_writeTime {ofDay nano : Nat} (hday : ofDay < 86400)
    (hnano : nano < nanosPerSecond ∨ (ofDay % 60 = 59 ∧ nano < 2 * nanosPerSecond))
    (hr : StopsDigits r) (hpoint : r.head? ≠ some '.') :
    readTime ((writeTime ofDay nano).toList ++ r) = some ((ofDay, nano), r) := by
  have hchars : (writeTime ofDay nano).toList ++ r =
      (Numeral.padded 2 (ofDay / 3600)).toList ++ (':' ::
        ((Numeral.padded 2 (ofDay / 60 % 60)).toList ++ (':' ::
          ((Numeral.padded 2 (ofDay % 60 + nano / nanosPerSecond)).toList ++
            ((writeFraction (nano % nanosPerSecond)).toList ++ r))))) := by
    simp [writeTime, String.toList_append]
  have hcolon : ∀ s : Chars, StopsDigits (':' :: s) := stopsDigits_cons rfl
  have hsecond : ofDay % 60 + nano / nanosPerSecond ≤ 60 := by
    unfold nanosPerSecond at hnano ⊢
    omega
  have hfraction : nano % nanosPerSecond < nanosPerSecond := Nat.mod_lt _ (by decide)
  rw [readTime, hchars, part_padded (by omega) (hcolon _)]
  dsimp only [bind, Option.bind]
  rw [mark_cons rfl]
  dsimp only
  rw [part_padded (by omega) (hcolon _)]
  dsimp only
  rw [mark_cons rfl]
  dsimp only
  rw [part_padded (by omega) (stopsDigits_writeFraction _ hr)]
  dsimp only
  rw [readFraction_writeFraction hfraction hr hpoint]
  dsimp only
  rw [if_pos (by simp; omega)]
  unfold nanosPerSecond at hnano ⊢
  split
  · next hleap =>
    have hofDay : ofDay / 3600 * 3600 + ofDay / 60 % 60 * 60 + 59 = ofDay := by omega
    have hnano' : 1000000000 + nano % 1000000000 = nano := by omega
    rw [hofDay, hnano']
  · next hleap =>
    have hofDay : ofDay / 3600 * 3600 + ofDay / 60 % 60 * 60 +
        (ofDay % 60 + nano / 1000000000) = ofDay := by omega
    have hnano' : nano % 1000000000 = nano := by omega
    rw [hofDay, hnano']

/-! ### Points in time -/

theorem write_eq (t : Timestamp) :
    t.write = writeDate (CivilDate.ofDays (t.second / secondsPerDay)) ++ "T" ++
      writeTime (t.second % secondsPerDay).toNat t.nano ++ "Z" := by
  simp only [write, writeDate, writeTime, String.append_assoc]

/-- **A civil point in time is read from what is written of it.** -/
theorem read_write {t : Timestamp} (h : t.IsCivil) : read t.write = some t := by
  obtain ⟨date, hdate⟩ : ∃ date, date = CivilDate.ofDays (t.second / secondsPerDay) := ⟨_, rfl⟩
  obtain ⟨ofDay, hofDay⟩ : ∃ ofDay, ofDay = (t.second % secondsPerDay).toNat := ⟨_, rfl⟩
  have hyear := h.year
  have hvalid := CivilDate.isValid_ofDays (t.second / secondsPerDay)
  have hdays := CivilDate.toDays_ofDays (t.second / secondsPerDay)
  have hnano := h.part
  rw [← hdate] at hyear hvalid hdays
  have hchars : t.write.toList =
      (writeDate date).toList ++ ('T' :: ((writeTime ofDay t.nano).toList ++ ['Z'])) := by
    simp [write_eq, hdate, hofDay, String.toList_append]
  have hoffset : readOffset (skipBlanks ['Z']) = some (0, []) := by decide
  have hdayBound : ofDay < 86400 := by
    rw [hofDay]
    unfold secondsPerDay
    omega
  have hpart : t.nano < nanosPerSecond ∨ (ofDay % 60 = 59 ∧ t.nano < 2 * nanosPerSecond) := by
    refine hnano.imp_right fun ⟨hleap, hbound⟩ => ⟨?_, hbound⟩
    rw [hofDay]
    unfold secondsPerDay
    omega
  have hsecond : date.toDays * secondsPerDay + (ofDay : Int) - 0 = t.second := by
    rw [hdays, hofDay]
    unfold secondsPerDay
    omega
  unfold read
  rw [hchars, readDate_writeDate hyear hvalid (stopsDigits_cons rfl _)]
  dsimp only [bind, Option.bind]
  rw [show ∀ s, readBetween ('T' :: s) = some s from fun _ => rfl]
  dsimp only
  rw [readTime_writeTime hdayBound hpart (stopsDigits_cons rfl []) (by decide)]
  dsimp only
  rw [hoffset]
  dsimp only
  rw [hsecond, ← hdate, hyear]
  rfl

/-! ### What is read is civil -/

/-- What is read as digits is a number of no more digits than are allowed. -/
theorem digits_lt {most : Nat} {s rest : Chars} (h : digits most s = some (n, rest)) :
    s.length - rest.length ≤ most ∧ n < 10 ^ (s.length - rest.length) := by
  obtain ⟨ds, hds⟩ : ∃ ds, ds = (s.takeWhile Numeral.isDigit).take most := ⟨_, rfl⟩
  have hall : ∀ d ∈ ds, Numeral.isDigit d = true := fun d hd =>
    List.mem_takeWhile_imp (List.mem_of_mem_take (hds ▸ hd))
  have hle : ds.length ≤ s.length := by
    rw [hds]
    exact Nat.le_trans (List.length_take_le' _ _) (List.takeWhile_sublist _).length_le
  have hmost : ds.length ≤ most := hds ▸ List.length_take_le _ _
  unfold digits at h
  rw [← hds] at h
  dsimp only at h
  split at h
  · exact absurd h nofun
  · obtain ⟨rfl, rfl⟩ := Prod.mk.inj (Option.some.inj h)
    have hvalue := Numeral.valueFrom_lt hall 0
    rw [List.length_drop, show s.length - (s.length - ds.length) = ds.length by omega]
    exact ⟨hmost, by simpa using hvalue⟩

/-- A fraction is less than a second. -/
theorem readFraction_lt {s rest : Chars} (h : readFraction s = some (n, rest)) :
    n < nanosPerSecond := by
  unfold readFraction at h
  split at h
  · next s =>
    obtain ⟨⟨m, rest'⟩, hdigits, hread⟩ := Option.bind_eq_some_iff.1 h
    obtain ⟨rfl, -⟩ := Prod.mk.inj (Option.some.inj hread)
    obtain ⟨hcount, hm⟩ := digits_lt hdigits
    generalize s.length - rest'.length = k at hcount hm
    calc m * 10 ^ (9 - k) < 10 ^ k * 10 ^ (9 - k) :=
          Nat.mul_lt_mul_of_pos_right hm (Nat.pow_pos (by decide))
      _ = 10 ^ 9 := by rw [← Nat.pow_add, Nat.add_sub_cancel' hcount]
  · obtain ⟨rfl, -⟩ := Prod.mk.inj (Option.some.inj h)
    decide

/-- A time of day that is read may be in a leap second if it is at the end of a minute. -/
theorem readTime_part {s rest : Chars} {ofDay nano : Nat}
    (h : readTime s = some ((ofDay, nano), rest)) :
    nano < nanosPerSecond ∨ (ofDay % 60 = 59 ∧ nano < 2 * nanosPerSecond) := by
  unfold readTime at h
  obtain ⟨⟨hour, s₁⟩, -, h⟩ := Option.bind_eq_some_iff.1 h
  obtain ⟨s₂, -, h⟩ := Option.bind_eq_some_iff.1 h
  obtain ⟨⟨minute, s₃⟩, -, h⟩ := Option.bind_eq_some_iff.1 h
  obtain ⟨s₄, -, h⟩ := Option.bind_eq_some_iff.1 h
  obtain ⟨⟨second, s₅⟩, -, h⟩ := Option.bind_eq_some_iff.1 h
  obtain ⟨⟨fraction, s₆⟩, hfraction, h⟩ := Option.bind_eq_some_iff.1 h
  have hlt := readFraction_lt hfraction
  dsimp only at h
  split at h
  · split at h
    · obtain ⟨hpair, -⟩ := Prod.mk.inj (Option.some.inj h)
      obtain ⟨rfl, rfl⟩ := Prod.mk.inj hpair
      unfold nanosPerSecond at hlt ⊢
      omega
    · obtain ⟨hpair, -⟩ := Prod.mk.inj (Option.some.inj h)
      obtain ⟨-, rfl⟩ := Prod.mk.inj hpair
      exact Or.inl hlt
  · exact absurd h nofun

theorem offsetAmount_mod {s rest : Chars} (h : offsetAmount s = some (n, rest)) : n % 60 = 0 := by
  unfold offsetAmount at h
  obtain ⟨⟨hours, s₁⟩, -, h⟩ := Option.bind_eq_some_iff.1 h
  obtain ⟨⟨minutes, s₂⟩, -, h⟩ := Option.bind_eq_some_iff.1 h
  dsimp only at h
  split at h
  · obtain ⟨rfl, -⟩ := Prod.mk.inj (Option.some.inj h)
    omega
  · exact absurd h nofun

/-- An offset is of whole minutes. -/
theorem readOffset_mod {s rest : Chars} {offset : Int} (h : readOffset s = some (offset, rest)) :
    offset % 60 = 0 := by
  unfold readOffset at h
  split at h
  · split at h
    · obtain ⟨rfl, -⟩ := Prod.mk.inj (Option.some.inj h)
      rfl
    split at h
    · obtain ⟨rfl, -⟩ := Prod.mk.inj (Option.some.inj h)
      rfl
    split at h
    · obtain ⟨⟨n, s₁⟩, hamount, hpair⟩ := Option.map_eq_some_iff.1 h
      obtain ⟨rfl, -⟩ := Prod.mk.inj hpair
      have hminutes := offsetAmount_mod hamount
      omega
    split at h
    · obtain ⟨⟨n, s₁⟩, hamount, hpair⟩ := Option.map_eq_some_iff.1 h
      obtain ⟨rfl, -⟩ := Prod.mk.inj hpair
      have hminutes := offsetAmount_mod hamount
      omega
    · exact absurd h nofun
  · exact absurd h nofun

/-- **A point in time that is read is civil.** -/
theorem isCivil_of_read {s : String} {t : Timestamp} (h : read s = some t) : t.IsCivil := by
  unfold read at h
  obtain ⟨⟨date, s₁⟩, -, h⟩ := Option.bind_eq_some_iff.1 h
  obtain ⟨s₂, -, h⟩ := Option.bind_eq_some_iff.1 h
  obtain ⟨⟨⟨ofDay, nano⟩, s₃⟩, htime, h⟩ := Option.bind_eq_some_iff.1 h
  obtain ⟨⟨offset, s₄⟩, hoffset, h⟩ := Option.bind_eq_some_iff.1 h
  have hminutes := readOffset_mod hoffset
  have hpart := readTime_part htime
  dsimp only at h
  split at h
  · next hdatable =>
    obtain rfl := Option.some.inj h
    refine ⟨(Bool.and_eq_true_iff.1 hdatable).2, hpart.imp_right fun ⟨hleap, hbound⟩ => ⟨?_, hbound⟩⟩
    unfold secondsPerDay
    dsimp only
    omega
  · exact absurd h nofun

end Timestamp

end Rendezvous
