import SalesDesk.Time.Calendar
import Mathlib.Tactic.ByContra

/-!
# Years and weeks of the calendar

The year of a day is the one whose days hold it, and the numbered weeks follow each other in the
order of the days: two days lie in one week just when no Monday stands between them.
-/

namespace SalesDesk.Calendar

/-- The days before a year, by the cycles of 400, 100, 4 and 1 years that lie before it. -/
theorem daysBeforeYear_cycles {q c f y : Nat} (hc : c ≤ 3) (hf : f ≤ 24) (hy : y ≤ 3) :
    daysBeforeYear (q * 400 + c * 100 + f * 4 + y + 1) =
      q * 146097 + c * 36524 + f * 1461 + y * 365 := by
  have h4 : (q * 400 + c * 100 + f * 4 + y) / 4 = q * 100 + c * 25 + f := by omega
  have h100 : (q * 400 + c * 100 + f * 4 + y) / 100 = q * 4 + c := by omega
  have h400 : (q * 400 + c * 100 + f * 4 + y) / 400 = q := by omega
  simp only [daysBeforeYear, Nat.add_sub_cancel, h4, h100, h400]
  omega

/-- A day lies some days into its year. A year of 366 days ends a cycle of 4 years, and a cycle of
100 years only where that one ends a cycle of 400. -/
theorem yearOf_cycles (day : Nat) : ∃ q c f y rest, c ≤ 3 ∧ f ≤ 24 ∧ y ≤ 3 ∧
    yearOf day = q * 400 + c * 100 + f * 4 + y + 1 ∧
    day = q * 146097 + c * 36524 + f * 1461 + y * 365 + rest ∧
    (rest < 365 ∨ rest = 365 ∧ y = 3 ∧ (f < 24 ∨ c = 3)) := by
  let c := min 3 (day % 146097 / 36524)
  let in100 := day % 146097 - c * 36524
  let y := min 3 (in100 % 1461 / 365)
  have h100 : in100 < 36524 ∨ c = 3 ∧ in100 < 36525 := by omega
  have hsum : day % 146097 = c * 36524 + in100 := by omega
  exact ⟨day / 146097, c, in100 / 1461, y, in100 % 1461 - y * 365, by omega, by omega, by omega,
    rfl, by omega, by omega⟩

theorem daysBeforeYear_next (year : Nat) :
    daysBeforeYear (year + 1) + 365 ≤ daysBeforeYear (year + 1 + 1) := by
  simp only [daysBeforeYear, Nat.add_sub_cancel]
  omega

theorem daysBeforeYear_mono {a b : Nat} (h : a ≤ b) : daysBeforeYear a ≤ daysBeforeYear b := by
  induction h with
  | refl => exact Nat.le_refl _
  | @step m _ ih =>
    cases m with
    | zero => simpa [daysBeforeYear] using ih
    | succ m =>
      have hnext := daysBeforeYear_next m
      change daysBeforeYear a ≤ daysBeforeYear (m + 1 + 1)
      omega

theorem daysBeforeYear_yearOf_le (day : Nat) : daysBeforeYear (yearOf day) ≤ day := by
  obtain ⟨q, c, f, y, rest, hc, hf, hy, hyear, hday, _⟩ := yearOf_cycles day
  rw [hyear, daysBeforeYear_cycles hc hf hy]
  omega

theorem lt_daysBeforeYear_yearOf_succ (day : Nat) : day < daysBeforeYear (yearOf day + 1) := by
  obtain ⟨q, c, f, y, rest, hc, hf, hy, hyear, hday, hrest⟩ := yearOf_cycles day
  have hstart := daysBeforeYear_cycles (q := q) hc hf hy
  rw [hyear]
  rcases hrest with hshort | ⟨hlong, rfl, hcycle⟩
  · have hnext := daysBeforeYear_next (q * 400 + c * 100 + f * 4 + y)
    omega
  · by_cases hlast : f < 24
    · have hend := daysBeforeYear_cycles (q := q) (y := 0) hc (show f + 1 ≤ 24 by omega)
        (by omega)
      rw [show q * 400 + c * 100 + f * 4 + 3 + 1 + 1 = q * 400 + c * 100 + (f + 1) * 4 + 0 + 1 by
        omega, hend]
      omega
    · have hend := daysBeforeYear_cycles (q := q + 1) (c := 0) (f := 0) (y := 0) (by omega)
        (by omega) (by omega)
      rw [show q * 400 + c * 100 + f * 4 + 3 + 1 + 1 = (q + 1) * 400 + 0 * 100 + 0 * 4 + 0 + 1 by
        omega, hend]
      omega

theorem yearOf_mono {a b : Nat} (h : a ≤ b) : yearOf a ≤ yearOf b := by
  by_contra hlt
  have hle := daysBeforeYear_mono (show yearOf b + 1 ≤ yearOf a by omega)
  have ha := daysBeforeYear_yearOf_le a
  have hb := lt_daysBeforeYear_yearOf_succ b
  omega

theorem weekOf_before_of_lt {a b : Nat} (h : a / 7 < b / 7) :
    (weekOf a).before (weekOf b) = true := by
  let thursday (day : Nat) := day - weekday day + 3
  have hthursday : thursday a + 7 ≤ thursday b := by
    simp only [thursday, weekday]
    omega
  have hyear := yearOf_mono (show thursday a ≤ thursday b by omega)
  have hstart := daysBeforeYear_yearOf_le (thursday a)
  simp only [Week.before, Bool.or_eq_true, Bool.and_eq_true, decide_eq_true_eq, beq_iff_eq]
  rcases Nat.lt_or_eq_of_le hyear with hlt | heq
  · exact Or.inl hlt
  · refine Or.inr ⟨heq, ?_⟩
    change (thursday a - daysBeforeYear (yearOf (thursday a))) / 7 + 1 <
      (thursday b - daysBeforeYear (yearOf (thursday b))) / 7 + 1
    rw [← heq]
    omega

theorem Week.before_irrefl (w : Week) : w.before w = false := by
  simp [Week.before]

theorem Week.before_asymm {v w : Week} (h : v.before w = true) : w.before v = false := by
  simp only [Week.before, Bool.or_eq_true, Bool.and_eq_true, decide_eq_true_eq, beq_iff_eq,
    Bool.or_eq_false_iff, Bool.and_eq_false_iff, decide_eq_false_iff_not, beq_eq_false_iff_ne] at *
  omega

/-- The numbered weeks of two days are equal just when they lie in the same seven days from a
Monday. -/
theorem weekOf_eq_weekOf_iff (a b : Nat) : weekOf a = weekOf b ↔ a / 7 = b / 7 := by
  constructor
  · intro h
    rcases Nat.lt_trichotomy (a / 7) (b / 7) with hlt | heq | hgt
    · simpa [h, Week.before_irrefl] using weekOf_before_of_lt hlt
    · exact heq
    · simpa [h, Week.before_irrefl] using weekOf_before_of_lt hgt
  · intro h
    have hmonday : a - weekday a = b - weekday b := by
      simp only [weekday]
      omega
    simp only [weekOf, hmonday]

/-- The numbered weeks are in the order of their Mondays. -/
theorem weekOf_before_iff (a b : Nat) :
    (weekOf a).before (weekOf b) = true ↔ a / 7 < b / 7 := by
  refine ⟨fun h => ?_, weekOf_before_of_lt⟩
  rcases Nat.lt_trichotomy (a / 7) (b / 7) with hlt | heq | hgt
  · exact hlt
  · simp [(weekOf_eq_weekOf_iff a b).mpr heq, Week.before_irrefl] at h
  · simp [Week.before_asymm (weekOf_before_of_lt hgt)] at h

end SalesDesk.Calendar
