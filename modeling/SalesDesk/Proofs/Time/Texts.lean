import SalesDesk.Proofs.Calendar
import SalesDesk.Proofs.Number.Digits
import SalesDesk.Time.Timestamp
import Mathlib.Data.Nat.Digits.Defs

/-!
# Times in texts

The text of a time of universal time is read back as this time. Its digits stand in fields of a fixed
width, so the date and the time of day are read off one field after the other.
-/

namespace SalesDesk

/-! ## Days -/

namespace Calendar

/-- A day within some months lies in one of them. -/
theorem monthAndDay_cases {lengths : List Nat} {day : Nat} (month before : Nat)
    (h : before + day < lengths.foldl (· + ·) before) :
    ∃ k rest, monthAndDay month day lengths = (month + k, rest + 1) ∧ k < lengths.length ∧
      rest < lengths.getD k 0 ∧ before + day = (lengths.take k).foldl (· + ·) before + rest := by
  induction lengths generalizing month before day with
  | nil => simp at h
  | cons length others ih =>
    by_cases hday : day < length
    · exact ⟨0, day, by simp [monthAndDay, hday], by simp, hday, by simp⟩
    · have hlater : before + length + (day - length) < others.foldl (· + ·) (before + length) := by
        rw [Nat.add_assoc, Nat.add_sub_cancel' (Nat.le_of_not_lt hday)]
        exact h
      obtain ⟨k, rest, hmonth, hk, hrest, hsum⟩ := ih (month + 1) (before + length) hlater
      refine ⟨k + 1, rest, ?_, by simpa using hk, hrest, ?_⟩
      · rw [monthAndDay, if_neg hday, hmonth, Nat.add_assoc, Nat.add_comm 1]
      · rw [List.take_succ_cons, List.foldl_cons, ← hsum]
        omega

theorem sum_monthLengths (year : Nat) :
    (monthLengths year).foldl (· + ·) 0 = if isLeap year then 366 else 365 := by
  unfold monthLengths
  cases isLeap year <;> rfl

/-- The months of a year fill it. -/
theorem daysBeforeYear_succ {year : Nat} (h : 1 ≤ year) :
    daysBeforeYear (year + 1) = daysBeforeYear year + (monthLengths year).foldl (· + ·) 0 := by
  obtain ⟨y, rfl⟩ := Nat.exists_eq_add_of_le' h
  have hleap : isLeap (y + 1) = true ↔ 4 ∣ y + 1 ∧ (¬ 100 ∣ y + 1 ∨ 400 ∣ y + 1) := by
    simp [isLeap, Nat.dvd_iff_mod_eq_zero]
  have hcentury : 100 ∣ y + 1 → 4 ∣ y + 1 := Dvd.dvd.trans (by decide)
  have hcycle : 400 ∣ y + 1 → 100 ∣ y + 1 := Dvd.dvd.trans (by decide)
  have hless : y / 100 ≤ y / 4 := Nat.div_le_div_left (by decide) (by decide)
  rw [sum_monthLengths]
  simp only [daysBeforeYear, Nat.add_sub_cancel, Nat.succ_div, hleap]
  by_cases hfour : 4 ∣ y + 1
  · by_cases hhundred : 100 ∣ y + 1
    · by_cases hall : 400 ∣ y + 1
      · simp only [hfour, hhundred, hall, not_true_eq_false, false_or, and_true, if_true]
        omega
      · simp only [hfour, hhundred, hall, not_true_eq_false, or_false, and_false, if_true, if_false]
        omega
    · have hall : ¬ 400 ∣ y + 1 := mt hcycle hhundred
      simp only [hfour, hhundred, hall, not_false_eq_true, true_or, and_true, if_true, if_false]
      omega
  · have hhundred : ¬ 100 ∣ y + 1 := mt hcentury hfour
    have hall : ¬ 400 ∣ y + 1 := mt hcycle hhundred
    simp only [hfour, hhundred, hall, false_and, if_false]
    omega

theorem yearOf_le_lastYear {day : Nat} (h : day < dayCount) : yearOf day ≤ lastYear := by
  by_contra hlate
  have hstart := daysBeforeYear_yearOf_le day
  have hmono := daysBeforeYear_mono (show lastYear + 1 ≤ yearOf day by omega)
  change day < daysBeforeYear (lastYear + 1) at h
  omega

/-- A day is found by its date. -/
theorem toDay?_dateOf {day : Nat} (h : day < dayCount) : (dateOf day).toDay? = some day := by
  have hyear : 1 ≤ yearOf day := Nat.le_add_left 1 _
  have hstart := daysBeforeYear_yearOf_le day
  have hend := lt_daysBeforeYear_yearOf_succ day
  rw [daysBeforeYear_succ hyear] at hend
  have hinside : 0 + (day - daysBeforeYear (yearOf day)) <
      (monthLengths (yearOf day)).foldl (· + ·) 0 := by
    omega
  obtain ⟨k, rest, hmonth, hk, hrest, hday⟩ := monthAndDay_cases 1 0 hinside
  have hdate : dateOf day = ⟨yearOf day, 1 + k, rest + 1⟩ := by simp [dateOf, hmonth]
  have hmonths : k < 12 := hk
  have hvalid : Date.isDayOfYear ⟨yearOf day, 1 + k, rest + 1⟩ = true := by
    simp only [Date.isDayOfYear, Nat.add_sub_cancel_left, decide_eq_true_eq]
    omega
  rw [hdate, Date.toDay?, if_pos ⟨hyear, yearOf_le_lastYear h, hvalid⟩, daysBeforeMonth,
    Nat.add_sub_cancel_left]
  congr 1
  dsimp only
  omega

theorem Date.bounds {d : Date} (h : d.isDayOfYear = true) : d.month ≤ 12 ∧ d.day ≤ 31 := by
  simp only [isDayOfYear, decide_eq_true_eq] at h
  obtain ⟨hfirst, hmonth, -, hday⟩ := h
  refine ⟨hmonth, hday.trans ?_⟩
  have hshort : ∀ n ∈ monthLengths d.year, n ≤ 31 := by
    cases hleap : isLeap d.year <;> simp [monthLengths, hleap]
  rw [List.getD_eq_getElem?_getD]
  cases hlength : (monthLengths d.year)[d.month - 1]? with
  | none => exact Nat.zero_le 31
  | some n => exact hshort n (List.mem_of_getElem? hlength)

end Calendar

/-! ## Fields of digits -/

theorem Decimal.length_padded {width n : Nat} (hwidth : 0 < width) (h : n < 10 ^ width) :
    (padded width n).length = width := by
  have hdigits : (digits n).length ≤ width := Nat.toDigits_length 10 n width hwidth h
  simp only [padded, List.length_append, List.length_replicate]
  omega

namespace Timestamp

namespace Reader

theorem fixed_padded {width n : Nat} (hwidth : 0 < width) (h : n < 10 ^ width) (rest : List Char) :
    fixed width (Decimal.padded width n ++ rest) = some (n, rest) := by
  have hlength := Decimal.length_padded hwidth h
  have htake : (Decimal.padded width n ++ rest).take width = Decimal.padded width n :=
    List.take_left' hlength
  have hdrop : (Decimal.padded width n ++ rest).drop width = rest := List.drop_left' hlength
  have hdigits : (Decimal.padded width n).all Char.isDigit = true :=
    List.all_eq_true.mpr fun _ => Decimal.isDigit_of_mem_padded
  simp only [fixed, htake, hdrop, hlength, hdigits, Decimal.ofDigits_padded, and_self, if_true]

theorem fixed_twoDigits {n : Nat} (h : n < 100) (rest : List Char) :
    fixed 2 (twoDigits n ++ rest) = some (n, rest) :=
  fixed_padded (by decide) h rest

theorem mark_cons (c : Char) (rest : List Char) : mark c (c :: rest) = some rest := if_pos rfl

theorem fraction_fractionText {n : Nat} (h : n < 1000000) :
    fraction ['.'] (fractionText n ++ ['Z']) = some (n, ['Z']) := by
  by_cases hzero : n = 0
  · rw [hzero]
    rfl
  · have hlength : (Decimal.padded 6 n).length = 6 := Decimal.length_padded (by decide) h
    have hdigits : ∀ c ∈ Decimal.padded 6 n, c.isDigit = true := fun _ =>
      Decimal.isDigit_of_mem_padded
    have htake : (Decimal.padded 6 n ++ ['Z']).takeWhile Char.isDigit = Decimal.padded 6 n := by
      rw [List.takeWhile_append_of_pos hdigits]
      simp
    have hdrop : (Decimal.padded 6 n ++ ['Z']).dropWhile Char.isDigit = ['Z'] := by
      rw [List.dropWhile_append_of_pos hdigits]
      rfl
    have hsix : (Decimal.padded 6 n ++ List.replicate 6 '0').take 6 = Decimal.padded 6 n :=
      List.take_left' hlength
    rw [fractionText, if_neg hzero, List.cons_append]
    have hpoint : ['.'].contains '.' = true := rfl
    simp only [fraction, hpoint, if_true, htake, hdrop, hsix, Decimal.padded_ne_nil, if_false,
      Decimal.ofDigits_padded]

end Reader

variable {t : Timestamp}

theorem date_dateText (h : t.dayNumber < Calendar.dayCount) (rest : List Char) :
    Reader.date (t.dateText ++ rest) = some (Calendar.dateOf t.dayNumber, rest) := by
  have hday := Calendar.toDay?_dateOf h
  simp only [dateText]
  generalize Calendar.dateOf t.dayNumber = d at hday ⊢
  obtain ⟨year, month, day⟩ := d
  have hvalid : 1 ≤ year ∧ year ≤ Calendar.lastYear ∧
      Calendar.Date.isDayOfYear ⟨year, month, day⟩ = true := by
    by_contra hnot
    rw [Calendar.Date.toDay?, if_neg hnot] at hday
    cases hday
  obtain ⟨-, hyear, hdate⟩ := hvalid
  obtain ⟨hmonth, hdays⟩ := Calendar.Date.bounds hdate
  simp only [List.append_assoc, List.cons_append, Reader.date]
  rw [Reader.fixed_padded (by decide) (Nat.lt_succ_of_le hyear)]
  simp only [Option.bind_eq_bind, Option.bind_some, Reader.mark_cons]
  rw [Reader.fixed_twoDigits (Nat.lt_of_le_of_lt hmonth (by decide))]
  simp only [Option.bind_some, Reader.mark_cons]
  rw [Reader.fixed_twoDigits (Nat.lt_of_le_of_lt hdays (by decide))]
  simp [hdate]

theorem time_timeText (h : t.timeOfDay < 86400000000) :
    Reader.time ['.'] (t.timeText ++ ['Z']) = some (t.timeOfDay, ['Z']) := by
  simp only [timeText, List.append_assoc, List.cons_append, Reader.time]
  rw [Reader.fixed_twoDigits (by omega)]
  simp only [Option.bind_eq_bind, Option.bind_some, Reader.mark_cons]
  rw [Reader.fixed_twoDigits (by omega)]
  simp only [Option.bind_some, Reader.seconds]
  rw [Reader.fixed_twoDigits (by omega)]
  simp only [Option.bind_eq_bind, Option.bind_some]
  rw [Reader.fraction_fractionText (by omega)]
  have hseconds : t.timeOfDay / 1000000 % 60 < 60 := by omega
  have hclock : t.timeOfDay / 1000000 / 3600 < 24 ∧ t.timeOfDay / 1000000 / 60 % 60 < 60 := by omega
  have htotal : (t.timeOfDay / 1000000 / 3600 * 60 + t.timeOfDay / 1000000 / 60 % 60) * 60000000 +
      (t.timeOfDay / 1000000 % 60 * 1000000 + t.timeOfDay % 1000000) = t.timeOfDay := by
    omega
  simp only [Option.bind_some, if_pos hseconds, if_pos hclock, Option.pure_def, htotal]

/-- The text of a time of universal time is read back as this time. -/
theorem read?_isoZulu (hoffset : t.offset = some 0) (hfirst : 0 ≤ t.wall) (hlast : t.wall < wallEnd) :
    read? t.isoZulu = some t := by
  have hday : t.dayNumber < Calendar.dayCount := by
    simp only [dayNumber, wallEnd, day, second] at hlast ⊢
    omega
  have htime : t.timeOfDay < 86400000000 := by
    simp only [timeOfDay, day, second]
    omega
  have hwall : (t.dayNumber : Int) * day + t.timeOfDay = t.wall := by
    simp only [dayNumber, timeOfDay, day, second]
    omega
  obtain ⟨wall, offset⟩ := t
  cases hoffset
  simp only [isoZulu, if_true, read?, String.toList_ofList, List.append_assoc, List.cons_append,
    date_dateText hday, Calendar.toDay?_dateOf hday, time_timeText htime, Option.bind_eq_bind,
    Option.bind_some, hwall]
  rfl

end Timestamp

end SalesDesk
