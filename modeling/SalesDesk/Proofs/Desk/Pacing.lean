import SalesDesk.Proofs.Desk.Acts
import SalesDesk.Proofs.Number.Rounding

/-!
# Progressive pauses

A base is taken three times once more than four fifths of the day's messages are used up, and twice
once more than half of them are. The share is a rounded quotient and four fifths is no number, but
with limits of up to fifteen digits the comparison goes as it would without rounding.
-/

namespace SalesDesk

open Binary64

namespace Quota

/-- The number that stands for four fifths. -/
def fourFifths : Magnitude := ⟨7205759403792794, -53, by decide⟩

def half : Magnitude := ⟨4503599627370496, -53, by decide⟩

/-- The pause for a base, from the share of the day's messages without rounding. -/
def pace (limit used base : Int) : Int :=
  if limit ≤ 0 ∨ 4 * limit < 5 * used then 3 * base
  else if limit < 2 * used then 2 * base
  else base

theorem pace_bounds {limit used base : Int} (h : baseDelayMin ≤ base ∧ base ≤ baseDelayMax) :
    2 ≤ pace limit used base ∧ pace limit used base ≤ 24 := by
  simp only [baseDelayMin, baseDelayMax] at h
  unfold pace
  split
  · omega
  · split <;> omega

theorem pace_mono {limit used later base : Int} (hbase : 0 ≤ base) (h : used ≤ later) :
    pace limit used base ≤ pace limit later base := by
  unfold pace
  split_ifs <;> omega

theorem delayFactor_finite (x : Magnitude) : delayFactor (.finite false x) =
    if fourFifths.value < x.value then 3 else if half.value < x.value then 2 else 1 := by
  have hfour : Binary64.ofDecimal false 8 (-1) = .finite false fourFifths := by decide +kernel
  have hhalf : Binary64.ofDecimal false 5 (-1) = .finite false half := by decide +kernel
  simp only [delayFactor, hfour, hhalf, Magnitude.lt_iff_value_lt]

section Shares

variable {used limit : Nat} {x : Magnitude} (hpos : 0 < limit) (hlimit : limit ≤ 10 ^ 15)
  (h : Magnitude.ofQuotient? used limit = some x)

include hpos hlimit h

theorem fourFifths_lt_iff : fourFifths.value < x.value ↔ 4 * limit < 5 * used := by
  let next : Magnitude := ⟨7205759403792795, -53, by decide⟩
  refine Magnitude.value_lt_ofQuotient?_iff next (by decide) ?_ ?_ ?_ hpos hlimit h <;>
    norm_num [fourFifths, next, Magnitude.value]

theorem half_lt_iff : half.value < x.value ↔ limit < 2 * used := by
  let next : Magnitude := ⟨4503599627370497, -53, by decide⟩
  have hiff : half.value < x.value ↔ 1 * limit < 2 * used := by
    refine Magnitude.value_lt_ofQuotient?_iff next (by decide) ?_ ?_ ?_ hpos hlimit h <;>
      norm_num [half, next, Magnitude.value]
  rwa [one_mul] at hiff

end Shares

theorem delay?_eq_pace {s : Snapshot} {l : Limits} (hused : 0 ≤ s.messagesToday)
    (hword : s.messagesToday < Word.bound 64) (hlimit : l.messagesPerDay ≤ 10 ^ 15) (base : Int) :
    s.delay? l base = some (pace l.messagesPerDay s.messagesToday base) := by
  unfold Snapshot.delay? Snapshot.ratio?
  by_cases hnone : l.messagesPerDay ≤ 0
  · have hfactor : delayFactor (.ofInt 1) = 3 := by decide +kernel
    rw [if_pos hnone, Option.map_some, hfactor, pace, if_pos (Or.inl hnone), mul_comm]
  · obtain ⟨used, hused⟩ := Int.eq_ofNat_of_zero_le hused
    obtain ⟨limit, hl⟩ := Int.eq_ofNat_of_zero_le (not_le.mp hnone).le
    rw [hused] at hword ⊢
    rw [hl] at hlimit hnone ⊢
    have hbound : Word.bound 64 = 2 ^ 63 := rfl
    have hpos : 0 < limit := by omega
    have hmost : limit ≤ 10 ^ 15 := by omega
    have hrange : used < 2 ^ 63 * limit := by
      have hone : 2 ^ 63 * 1 ≤ 2 ^ 63 * limit := Nat.mul_le_mul_left _ hpos
      omega
    obtain ⟨x, hx⟩ := exists_ofQuotient? hpos (by decide) hrange
    have hsign : decide ((used : Int) < 0) = false := by simp
    have hfour := fourFifths_lt_iff hpos hmost hx
    have hhalf := half_lt_iff hpos hmost hx
    rw [if_neg hnone, Int.natAbs_natCast, Int.natAbs_natCast, hx, hsign]
    simp only [Option.map_some, delayFactor_finite, hfour, hhalf, Option.some.injEq, pace]
    split_ifs <;> omega

theorem Account.delay_eq_pace {a : Account} (hused : 0 ≤ a.snapshot.messagesToday)
    (hword : a.snapshot.messagesToday < Word.bound 64) (hlimit : a.limits.messagesPerDay ≤ 10 ^ 15)
    (base : Int) :
    a.delay base = .ok (pace a.limits.messagesPerDay a.snapshot.messagesToday base) := by
  unfold Account.delay
  rw [delay?_eq_pace hused hword hlimit base]

end Quota

namespace Desk

open Quota

/-- A pause is the base that was drawn, times three beyond four fifths of the day's messages and
times two beyond half of them. It lasts from two to twenty-four seconds, and with the same limits and
the same base it does not get shorter as more messages are counted. -/
theorem pause_progressive {a : Account} {base : Int}
    (hbase : baseDelayMin ≤ base ∧ base ≤ baseDelayMax) (hused : 0 ≤ a.snapshot.messagesToday)
    (hword : a.snapshot.messagesToday < Word.bound 64)
    (hlimit : a.limits.messagesPerDay ≤ 10 ^ 15) :
    let seconds (used : Int) := pace a.limits.messagesPerDay used base
    let today := a.snapshot.messagesToday
    a.delay base = .ok (seconds today) ∧
      (∀ (d : Desk) (tenant : String), d.ledger.account tenant d.clock.toUtc = .ok a →
        d.base = base →
        (pause tenant).run d = (.ok (seconds today), d.drawn.withAccount tenant a)) ∧
      2 ≤ seconds today ∧ seconds today ≤ 24 ∧
      ∀ later : Account, later.limits = a.limits → today ≤ later.snapshot.messagesToday →
        later.snapshot.messagesToday < Word.bound 64 →
        later.delay base = .ok (seconds later.snapshot.messagesToday) ∧
          seconds today ≤ seconds later.snapshot.messagesToday := by
  intro seconds today
  have hdelay : a.delay base = .ok (seconds today) := a.delay_eq_pace hused hword hlimit base
  have hbounds : 2 ≤ seconds today ∧ seconds today ≤ 24 := pace_bounds hbase
  refine ⟨hdelay, fun d tenant ha hd => ?_, hbounds.1, hbounds.2, fun later hlimits hmore hlater => ?_⟩
  · rw [run_pause ha, hd, hdelay]
    rfl
  · have hlaterDelay := later.delay_eq_pace (hused.trans hmore) hlater (by rwa [hlimits]) base
    rw [hlimits] at hlaterDelay
    have hpositive : 0 ≤ base := le_trans (by decide) hbase.1
    exact ⟨hlaterDelay, pace_mono hpositive hmore⟩

/-- One message beyond four fifths of the largest limit, with the longest base. -/
theorem pause_progressive_past_four_fifths :
    let a : Account :=
      { limits := { messagesPerDay := 10 ^ 15 }
        usage := { messagesToday := 8 * 10 ^ 14 + 1, lastReset := ⟨0, some 0⟩ } }
    (baseDelayMin ≤ 8 ∧ (8 : Int) ≤ baseDelayMax ∧ a.snapshot.messagesToday < Word.bound 64 ∧
      a.limits.messagesPerDay ≤ 10 ^ 15) ∧ a.delay 8 = .ok 24 := by
  intro a
  refine ⟨by decide, ?_⟩
  exact (@pause_progressive a 8 (by decide) (by decide) (by decide) (by decide)).1

end Desk

end SalesDesk
