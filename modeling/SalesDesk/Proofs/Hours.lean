import SalesDesk.Hours
import SalesDesk.Proofs.Except
import SalesDesk.Proofs.Time.Instant
import Mathlib.Tactic.NormNum.Basic
import Mathlib.Tactic.SplitIfs

/-!
# Opening hours on a circle

The times of day lie on a circle, and hours are the arc from their start up to their end, which is
the whole circle where these are equal. Whether hours are open depends on the instant only, and
hours with start and end exchanged are open when the others are closed.
-/

namespace SalesDesk

open Timestamp (day second wallEnd)

namespace Timestamp

variable {t : Timestamp} {offsetAt : Int → Int}

/-- What clocks with an offset for each instant show at the instant of a reading. -/
def shownOn (offsetAt : Int → Int) (t : Timestamp) : Int :=
  t.instant + offsetAt t.instant * second

theorem onClock_eq (ht : t.Dated)
    (hshown : 0 ≤ t.shownOn offsetAt ∧ t.shownOn offsetAt < wallEnd) :
    t.onClock offsetAt = .ok ⟨t.shownOn offsetAt, some (offsetAt t.instant)⟩ := by
  unfold onClock
  rw [ht.toUtc_eq]
  exact if_pos hshown

theorem shownOn_congr {u : Timestamp} (h : u.instant = t.instant) :
    u.shownOn offsetAt = t.shownOn offsetAt := by
  unfold shownOn
  rw [h]

end Timestamp

namespace Hours

variable {h : Hours} {t : Timestamp} {offsetAt : Int → Int} {start stop : Nat}

/-- A clock time is one of the 1440 minutes of a day. -/
theorem clock_lt {s : String} {n : Nat} (h : clock s = .ok n) : n < 1440 := by
  unfold clock at h
  split at h
  · cases h
  · rename_i before after _
    obtain ⟨hours, -, hread⟩ := bind_eq_ok_iff.mp h
    obtain ⟨minutes, -, hchecked⟩ := bind_eq_ok_iff.mp hread
    obtain ⟨_, -, hsecond⟩ := bind_eq_ok_iff.mp hchecked
    obtain ⟨_, -, hin⟩ := bind_eq_ok_iff.mp hsecond
    split_ifs at hin with hhours hminutes
    cases hin
    omega

/-- Hours from start to stop hold the times that are passed on the way from one to the other. -/
theorem within_iff {time : Nat} (hstart : start < 1440) (hstop : stop < 1440)
    (htime : (time : Int) < day) : within (start * minute) (stop * minute) time = true ↔
      start = stop ∨
        ((time : Int) - start * minute) % day < ((stop * minute : Int) - start * minute) % day := by
  have hday : day = 86400000000 := rfl
  unfold within minute
  rw [hday] at htime ⊢
  split_ifs with hsame hbefore
  · simp only [true_iff]
    omega
  · simp only [Bool.and_eq_true, decide_eq_true_eq]
    omega
  · simp only [Bool.or_eq_true, decide_eq_true_eq]
    omega

theorem within_swap {time : Nat} (hne : start ≠ stop) :
    within stop start time = !within start stop time := by
  unfold within
  rw [if_neg hne, if_neg (Ne.symm hne), Bool.eq_iff_iff]
  rcases Nat.lt_or_gt_of_ne hne with hbefore | hafter
  · rw [if_neg (Nat.lt_asymm hbefore), if_pos hbefore]
    simp only [Bool.not_eq_true', Bool.or_eq_true, Bool.and_eq_false_iff, decide_eq_true_eq,
      decide_eq_false_iff_not]
    omega
  · rw [if_pos hafter, if_neg (Nat.lt_asymm hafter)]
    simp only [Bool.not_eq_true', Bool.and_eq_true, Bool.or_eq_false_iff, decide_eq_true_eq,
      decide_eq_false_iff_not]
    omega

/-- The same hours with start and end exchanged. -/
def swapped (h : Hours) : Hours := { h with start := h.stop, stop := h.start }

theorem isOpenOn_eq (hstart : clock h.start = .ok start) (hstop : clock h.stop = .ok stop)
    (ht : t.Dated) (hshown : 0 ≤ t.shownOn offsetAt ∧ t.shownOn offsetAt < wallEnd) :
    h.isOpenOn offsetAt t =
      .ok (within (start * minute) (stop * minute) (t.shownOn offsetAt % day).toNat) := by
  unfold isOpenOn
  rw [Timestamp.onClock_eq ht hshown, hstart, hstop]
  rfl

end Hours

end SalesDesk
