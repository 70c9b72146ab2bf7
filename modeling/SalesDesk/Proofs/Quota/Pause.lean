import SalesDesk.Desk.Basic
import SalesDesk.Proofs.Number.Quotient

/-!
# Pauses before sends

A pause is a base drawn from 2 to 8 seconds, taken once, twice or three times. It has a value as
long as the share of the day's messages is in the range of the numbers, which only a counter of more
than 64 bits that has left its limit behind can leave.
-/

namespace SalesDesk

theorem Draws.next_bounds (d : Draws) {low high : Int} (h : low ≤ high) :
    low ≤ d.next low high ∧ d.next low high ≤ high := by
  have hpos : 0 < high - low + 1 := by omega
  have hlow := Int.emod_nonneg (d.numbers.getD (d.taken % d.numbers.length) 0) hpos.ne'
  have hhigh := Int.emod_lt_of_pos (d.numbers.getD (d.taken % d.numbers.length) 0) hpos
  simp only [Draws.next]
  omega

namespace Quota

theorem delayFactor_bounds (ratio : Binary64) : 1 ≤ delayFactor ratio ∧ delayFactor ratio ≤ 3 := by
  simp only [delayFactor]
  split
  · decide
  · split <;> decide

theorem exists_ratio? {s : Snapshot} {l : Limits}
    (h : (s.messagesToday.natAbs : Int) ≤ max (Word.bound 64) l.messagesPerDay) :
    ∃ ratio, s.ratio? l = some ratio := by
  unfold Snapshot.ratio?
  by_cases hlimit : l.messagesPerDay ≤ 0
  · exact ⟨_, if_pos hlimit⟩
  · have hword : Word.bound 64 = 2 ^ 63 := rfl
    have hrange : s.messagesToday.natAbs < 2 ^ 64 * l.messagesPerDay.natAbs := by omega
    obtain ⟨x, hx⟩ := Binary64.exists_ofQuotient? (by omega) (by decide) hrange
    rw [if_neg hlimit, hx]
    exact ⟨_, rfl⟩

namespace Account

variable {a : Account} {base pause : Int} {fault : Error}

/-- A base from 2 to 8 seconds gives a pause from 2 to 24 seconds. -/
theorem delay_bounds (hbase : baseDelayMin ≤ base ∧ base ≤ baseDelayMax)
    (h : a.delay base = .ok pause) : 2 ≤ pause ∧ pause ≤ 24 := by
  unfold delay Snapshot.delay? at h
  cases hratio : a.snapshot.ratio? a.limits with
  | none => simp [hratio] at h
  | some ratio =>
    obtain ⟨hone, hthree⟩ := delayFactor_bounds ratio
    simp only [hratio, Option.map_some, Except.ok.injEq] at h
    simp only [baseDelayMin, baseDelayMax] at hbase
    subst h
    constructor
    · nlinarith
    · nlinarith

theorem beyond_of_delay_error (h : a.delay base = .error fault) :
    max (Word.bound 64) a.limits.messagesPerDay < a.snapshot.messagesToday.natAbs := by
  by_contra hle
  obtain ⟨ratio, hratio⟩ := exists_ratio? (l := a.limits) (not_lt.mp hle)
  simp [delay, Snapshot.delay?, hratio] at h

end Account

end Quota

end SalesDesk
