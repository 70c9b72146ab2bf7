import SalesDesk.Proofs.Calendar
import SalesDesk.Proofs.Time.Instant
import SalesDesk.Quota.Usage

/-!
# Windows of the resets

Days and weeks of universal time follow each other without a gap, so each instant lies in one
numbered period of either length. A reset is due when the period of the last one is over, and the
reset pass runs exactly the resets that are due.
-/

namespace SalesDesk.Quota

namespace Reset

variable {r : Reset} {s t u v : Timestamp}

/-- The microseconds from one boundary of a reset to the next. -/
def length : Reset → Int
  | daily => Timestamp.day
  | weekly => 7 * Timestamp.day

/-- The number of the day, or of the week, that a reading lies in. -/
def period (r : Reset) (t : Timestamp) : Int := t.instant / r.length

def renew : Reset → Snapshot → Snapshot
  | daily => Snapshot.newDay
  | weekly => Snapshot.newWeek

def other : Reset → Reset
  | daily => weekly
  | weekly => daily

theorem other_of_ne {q : Reset} (h : r ≠ q) : r.other = q := by
  cases r <;> cases q <;> simp_all [other]

theorem length_pos (r : Reset) : 0 < r.length := by
  cases r <;> decide

theorem period_mono (r : Reset) (h : s.instant ≤ t.instant) : r.period s ≤ r.period t :=
  Int.ediv_le_ediv r.length_pos h

theorem instant_lt_of_period_lt (h : r.period s < r.period t) : s.instant < t.instant := by
  by_contra hle
  have hmono := r.period_mono (show t.instant ≤ s.instant by omega)
  omega

theorem period_of_toUtc (r : Reset) (h : t.toUtc = .ok u) : r.period u = r.period t := by
  simp only [period, Timestamp.instant_of_toUtc h]

theorem daily_period_of_toUtc (h : t.toUtc = .ok u) : daily.period t = u.dayNumber :=
  (Timestamp.dayNumber_of_toUtc h).symm

theorem weekly_period_of_toUtc (h : t.toUtc = .ok u) :
    weekly.period t = ((u.dayNumber / 7 : Nat) : Int) := by
  have hday := Timestamp.dayNumber_of_toUtc h
  have hsplit : t.instant / (7 * Timestamp.day) = t.instant / Timestamp.day / 7 := by
    rw [Int.mul_comm, Int.ediv_ediv_of_nonneg (by decide)]
  rw [period, length, hsplit, ← hday]
  rfl

/-- Two readings lie in one daily period just when their dates in universal time are equal. -/
theorem daily_period_eq_iff (hs : s.toUtc = .ok u) (ht : t.toUtc = .ok v) :
    daily.period s = daily.period t ↔ u.dayNumber = v.dayNumber := by
  rw [daily_period_of_toUtc hs, daily_period_of_toUtc ht, Int.ofNat_inj]

/-- Two readings lie in one weekly period just when their numbered weeks in universal time are
equal. -/
theorem weekly_period_eq_iff (hs : s.toUtc = .ok u) (ht : t.toUtc = .ok v) :
    weekly.period s = weekly.period t ↔
      Calendar.weekOf u.dayNumber = Calendar.weekOf v.dayNumber := by
  rw [weekly_period_of_toUtc hs, weekly_period_of_toUtc ht, Int.ofNat_inj,
    Calendar.weekOf_eq_weekOf_iff]

end Reset

namespace Usage

variable {u after : Usage} {now : Timestamp} {applied : List Reset}

theorem needsDaily_eq {today last : Timestamp} (hnow : now.toUtc = .ok today)
    (hlast : u.lastReset.toUtc = .ok last) :
    u.needsDaily now = .ok (decide (Reset.daily.period u.lastReset < Reset.daily.period now)) := by
  rw [Reset.daily_period_of_toUtc hnow, Reset.daily_period_of_toUtc hlast]
  simp only [Int.ofNat_lt, needsDaily, hnow, hlast]
  rfl

theorem needsWeekly_eq {today last : Timestamp} (hnow : now.toUtc = .ok today)
    (hlast : u.lastReset.toUtc = .ok last) :
    u.needsWeekly now =
      .ok (decide (Reset.weekly.period u.lastReset < Reset.weekly.period now)) := by
  have hweek := Calendar.weekOf_before_iff last.dayNumber today.dayNumber
  rw [Reset.weekly_period_of_toUtc hnow, Reset.weekly_period_of_toUtc hlast]
  simp only [Int.ofNat_lt, ← hweek, Bool.decide_eq_true, needsWeekly, hnow, hlast]
  rfl

/-- The resets that are due at a time, after a last reset. -/
def dueResets (last now : Timestamp) : List Reset :=
  [Reset.daily, Reset.weekly].filter fun r => r.period last < r.period now

@[simp] theorem mem_dueResets {r : Reset} {last : Timestamp} :
    r ∈ dueResets last now ↔ r.period last < r.period now := by
  cases r <;> simp [dueResets]

def renewed (s : Snapshot) (resets : List Reset) : Snapshot :=
  resets.foldl (fun s r => r.renew s) s

/-- Where its clock and the time of the last reset can be read, the reset pass runs the resets that
are due; if there are any, the last reset is then that of the pass. -/
theorem applyDue_eq {today last : Timestamp} (hnow : now.toUtc = .ok today)
    (hlast : u.lastReset.toUtc = .ok last) :
    u.applyDue now = .ok
      ({ toSnapshot := renewed u.toSnapshot (dueResets u.lastReset now)
         lastReset := if dueResets u.lastReset now = [] then u.lastReset else now },
        dueResets u.lastReset now) := by
  simp only [applyDue, needsDaily_eq hnow hlast, needsWeekly_eq hnow hlast]
  by_cases hdaily : Reset.daily.period u.lastReset < Reset.daily.period now
  · by_cases hweekly : Reset.weekly.period u.lastReset < Reset.weekly.period now
    · simp [dueResets, hdaily, hweekly]
      rfl
    · simp [dueResets, hdaily, hweekly]
      rfl
  · by_cases hweekly : Reset.weekly.period u.lastReset < Reset.weekly.period now
    · simp [dueResets, hdaily, hweekly]
      rfl
    · simp [dueResets, hdaily, hweekly]
      rfl

/-- A pass that has a result has read both times. -/
theorem applyDue_ok (h : u.applyDue now = .ok (after, applied)) :
    applied = dueResets u.lastReset now ∧ after.toSnapshot = renewed u.toSnapshot applied ∧
      after.lastReset = if applied = [] then u.lastReset else now := by
  cases hnow : now.toUtc with
  | error e =>
    simp only [applyDue, needsDaily, hnow] at h
    cases h
  | ok today =>
    cases hlast : u.lastReset.toUtc with
    | error e =>
      simp only [applyDue, needsDaily, hnow, hlast] at h
      cases h
    | ok last =>
      rw [applyDue_eq hnow hlast] at h
      cases h
      exact ⟨rfl, rfl, rfl⟩

end Usage

end SalesDesk.Quota
