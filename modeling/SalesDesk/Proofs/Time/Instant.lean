import SalesDesk.Time.Timestamp

/-!
# Instants

A reading that can be converted to universal time keeps its instant, and its day is the day of that
instant. Converting a second time changes nothing.
-/

namespace SalesDesk.Timestamp

variable {t u : Timestamp}

theorem toUtc_eq_ok (h : t.toUtc = .ok u) :
    u = ⟨t.instant, some 0⟩ ∧ 0 ≤ t.instant ∧ t.instant < wallEnd := by
  unfold toUtc mk? at h
  split at h
  · cases h
  · split at h
    · rename_i hrange
      cases h
      exact ⟨rfl, hrange⟩
    · cases h

theorem instant_of_toUtc (h : t.toUtc = .ok u) : u.instant = t.instant := by
  obtain ⟨rfl, -⟩ := toUtc_eq_ok h
  simp [instant]

theorem toUtc_of_toUtc (h : t.toUtc = .ok u) : u.toUtc = .ok u := by
  have hsame := instant_of_toUtc h
  obtain ⟨rfl, hlow, hhigh⟩ := toUtc_eq_ok h
  rw [toUtc, hsame, if_neg (by simp), mk?, if_pos ⟨hlow, hhigh⟩]

theorem dayNumber_of_toUtc (h : t.toUtc = .ok u) : (u.dayNumber : Int) = t.instant / day := by
  obtain ⟨rfl, hlow, -⟩ := toUtc_eq_ok h
  exact Int.toNat_of_nonneg (Int.ediv_nonneg hlow (by decide))

/-- A reading whose offset is known, and whose time in universal time is within the calendar. -/
structure Dated (t : Timestamp) : Prop where
  offset : t.offset ≠ none
  low : 0 ≤ t.instant
  high : t.instant < wallEnd

/-- The reading of the same instant on a clock of universal time. -/
def inUtc (t : Timestamp) : Timestamp := ⟨t.instant, some 0⟩

@[simp] theorem instant_inUtc (t : Timestamp) : t.inUtc.instant = t.instant := by
  simp [inUtc, instant]

theorem Dated.toUtc_eq (h : t.Dated) : t.toUtc = .ok t.inUtc := by
  rw [toUtc, if_neg fun hnone => h.offset hnone.1, mk?, if_pos ⟨h.low, h.high⟩, inUtc]

theorem Dated.inUtc (h : t.Dated) : t.inUtc.Dated where
  offset := nofun
  low := by rw [instant_inUtc]; exact h.low
  high := by rw [instant_inUtc]; exact h.high

/-! ## Readings taken for universal time -/

/-- A reading has a time of universal time within the calendar; without an offset it is one itself. -/
def InCalendar (t : Timestamp) : Prop :=
  t.offset = none ∨ 0 ≤ t.instant ∧ t.instant < wallEnd

instance (t : Timestamp) : Decidable t.InCalendar := inferInstanceAs (Decidable (_ ∨ _))

theorem asUtc_of_inCalendar (h : t.InCalendar) : t.asUtc = .ok ⟨t.instant, some 0⟩ := by
  obtain ⟨wall, offset⟩ := t
  cases offset with
  | none => simp [asUtc, instant]
  | some seconds =>
    have hrange := h.resolve_left (by simp)
    simp only [asUtc, toUtc, mk?]
    rw [if_neg (by simp), if_pos hrange]

theorem asUtc_of_not_inCalendar (h : ¬ t.InCalendar) : t.asUtc = .error .outOfRange := by
  obtain ⟨wall, offset⟩ := t
  cases offset with
  | none => exact absurd (Or.inl rfl) h
  | some seconds =>
    simp only [asUtc, toUtc, mk?]
    rw [if_neg (by simp), if_neg fun hrange => h (Or.inr hrange)]

end SalesDesk.Timestamp
