import SalesDesk.Proofs.Quota.Gauge

/-!
# Boundaries of days and weeks

A day begins at midnight of universal time, and a week at midnight of a Monday. A reset is due just
when such a boundary lies after the last reset and not after the clock, so the reset pass applies
exactly the resets whose boundaries were crossed.
-/

namespace SalesDesk.Quota

namespace Reset

variable {r : Reset} {last now m : Timestamp}

/-- The beginning of a day, or of a week, in universal time. -/
structure Boundary (r : Reset) (m : Timestamp) : Prop where
  utc : m.offset = some 0
  midnight : m.timeOfDay = 0
  monday : r = .weekly → Calendar.weekday m.dayNumber = 0

/-- A boundary lies after the one reading and not after the other. -/
def Crossed (r : Reset) (last now : Timestamp) : Prop :=
  ∃ m, r.Boundary m ∧ last.instant < m.instant ∧ m.instant ≤ now.instant

theorem Crossed.lt (h : r.Crossed last now) : last.instant < now.instant := by
  obtain ⟨m, -, hlast, hnow⟩ := h
  omega

/-- The beginning of a week is the beginning of a day too. -/
theorem Crossed.daily (h : r.Crossed last now) : Reset.daily.Crossed last now := by
  obtain ⟨m, hm, hbetween⟩ := h
  exact ⟨m, ⟨hm.utc, hm.midnight, nofun⟩, hbetween⟩

/-- Only the instants of the two readings matter. -/
theorem crossed_congr {last' now' : Timestamp} (hlast : last'.instant = last.instant)
    (hnow : now'.instant = now.instant) : r.Crossed last' now' ↔ r.Crossed last now := by
  unfold Crossed
  rw [hlast, hnow]

theorem Boundary.instant_eq (h : r.Boundary m) : m.instant = m.wall := by
  simp [Timestamp.instant, h.utc]

/-- A boundary after the first instant of the calendar is a multiple of the length of its period. -/
theorem Boundary.length_dvd (h : r.Boundary m) (hm : 0 ≤ m.instant) : r.length ∣ m.instant := by
  rw [h.instant_eq] at hm ⊢
  have hmidnight := h.midnight
  have hmonday := h.monday
  simp only [Timestamp.timeOfDay, Timestamp.dayNumber, Timestamp.day, Timestamp.second,
    Calendar.weekday] at hmidnight hmonday
  cases r with
  | daily =>
    simp only [length, Timestamp.day, Timestamp.second]
    omega
  | weekly =>
    have hweek := hmonday rfl
    simp only [length, Timestamp.day, Timestamp.second]
    omega

theorem boundary_period (h : 0 ≤ now.instant) : r.Boundary ⟨r.period now * r.length, some 0⟩ := by
  have hperiod : 0 ≤ r.period now := Int.ediv_nonneg h (Int.le_of_lt r.length_pos)
  refine ⟨rfl, ?_, fun hweekly => ?_⟩
  · cases r <;>
      simp only [Timestamp.timeOfDay, length, Timestamp.day, Timestamp.second] at * <;> omega
  · subst hweekly
    simp only [Timestamp.dayNumber, Calendar.weekday, length, Timestamp.day,
      Timestamp.second] at *
    omega

/-- A boundary was crossed just when a later period has begun. -/
theorem crossed_iff_period_lt (hlast : 0 ≤ last.instant) :
    r.Crossed last now ↔ r.period last < r.period now := by
  have hpos := r.length_pos
  constructor
  · rintro ⟨m, hm, hafter, hbefore⟩
    -- The boundary is the first instant of its period, so what lies before it lies in an earlier one.
    obtain ⟨k, hk⟩ := hm.length_dvd (by omega)
    have hlt : r.period last < k := Int.ediv_lt_of_lt_mul hpos (by rw [Int.mul_comm]; omega)
    have hle : k ≤ r.period now := Int.le_ediv_of_mul_le hpos (by rw [Int.mul_comm]; omega)
    omega
  · intro hlt
    have hfirst : (⟨r.period now * r.length, some 0⟩ : Timestamp).instant =
        r.period now * r.length := by
      simp [Timestamp.instant]
    have hnow := instant_lt_of_period_lt hlt
    have hbegin : r.Boundary ⟨r.period now * r.length, some 0⟩ := boundary_period (by omega)
    refine ⟨_, hbegin, ?_, ?_⟩
    · have hnext : last.instant < (r.period last + 1) * r.length :=
        Int.lt_ediv_add_one_mul_self _ hpos
      have hle := Int.mul_le_mul_of_nonneg_right (show r.period last + 1 ≤ r.period now by omega)
        (Int.le_of_lt hpos)
      rw [hfirst]
      omega
    · rw [hfirst]
      exact Int.ediv_mul_le _ (Int.ne_of_gt hpos)

end Reset

variable {last now : Timestamp} {r : Reset}

theorem Usage.mem_dueResets_iff_crossed (hlast : 0 ≤ last.instant) :
    r ∈ Usage.dueResets last now ↔ r.Crossed last now := by
  rw [Usage.mem_dueResets, Reset.crossed_iff_period_lt hlast]

/-- Nothing is due unless some boundary was crossed. -/
theorem Usage.dueResets_eq_nil_iff (hlast : 0 ≤ last.instant) :
    Usage.dueResets last now = [] ↔ ∀ r : Reset, ¬ r.Crossed last now := by
  simp only [List.eq_nil_iff_forall_not_mem, Usage.mem_dueResets_iff_crossed hlast]

/-- What the reset pass makes of an account: the boundaries that were crossed since the last reset
decide which resets it applies, and these decide what becomes of the counters. -/
structure Account.Renewed (a : Account) (now : Timestamp) (applied : List Reset)
    (after : Account) : Prop where
  crossed : ∀ r, r ∈ applied ↔ Reset.Crossed r a.usage.lastReset now
  inOrder : applied.Sublist [.daily, .weekly]
  daily : .weekly ∈ applied → .daily ∈ applied
  idle : now.instant ≤ a.usage.lastReset.instant → applied = []
  counters : ∀ g : Gauge, g.value after.snapshot = if g.reset ∈ applied then 0 else g.value a.snapshot
  lastReset : after.usage.lastReset = if applied = [] then a.usage.lastReset else now
  limits : after.limits = a.limits

/-- Where both times have a date in universal time, the reset pass has a result. -/
theorem Account.applyDue_renewed {a : Account} (hlast : a.usage.lastReset.Dated)
    (hnow : now.Dated) :
    ∃ applied after, a.applyDue now = (.ok applied, after) ∧ a.Renewed now applied after := by
  have hdue := Usage.applyDue_eq hnow.toUtc_eq hlast.toUtc_eq
  have hcrossed (r : Reset) : r ∈ Usage.dueResets a.usage.lastReset now ↔
      r.Crossed a.usage.lastReset now :=
    Usage.mem_dueResets_iff_crossed hlast.low
  refine ⟨_, _, by rw [Account.applyDue, hdue], ?_⟩
  exact {
    crossed := hcrossed
    inOrder := List.filter_sublist
    daily := fun hweekly => (hcrossed _).mpr ((hcrossed _).mp hweekly).daily
    idle := fun hle => by
      rw [Usage.dueResets_eq_nil_iff hlast.low]
      intro r hr
      have hlt := hr.lt
      omega
    counters := fun g => Gauge.value_renewed g a.snapshot _
    lastReset := rfl
    limits := rfl }

end SalesDesk.Quota
