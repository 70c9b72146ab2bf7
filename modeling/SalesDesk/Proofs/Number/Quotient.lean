import SalesDesk.Number.Binary64
import Mathlib.Tactic.Ring
import Mathlib.Tactic.Linarith

/-!
# Rounded quotients

A quotient is scaled by a power of two so that its integer part has 53 bits, or fewer at the least
exponent, and then rounded. Below `2 ^ 1022` the result is in the range of the numbers.
-/

namespace SalesDesk.Binary64

@[simp] theorem twoTo_eq (n : Nat) : twoTo n = 2 ^ n := rfl

theorem scale_lt {num den k : Nat} {e : Int} (hd : den ≠ 0)
    (h : (num.log2 : Int) + 1 ≤ k + den.log2 + e) :
    (scale num den e).1 < 2 ^ k * (scale num den e).2 := by
  have hnum := Nat.lt_log2_self (n := num)
  have hden := Nat.log2_self_le hd
  simp only [scale, twoTo_eq]
  calc num * 2 ^ (-e).toNat < 2 ^ (num.log2 + 1) * 2 ^ (-e).toNat :=
        Nat.mul_lt_mul_of_pos_right hnum (by positivity)
    _ = 2 ^ (num.log2 + 1 + (-e).toNat) := (pow_add _ _ _).symm
    _ ≤ 2 ^ (k + den.log2 + e.toNat) := Nat.pow_le_pow_right (by decide) (by omega)
    _ = 2 ^ k * (2 ^ den.log2 * 2 ^ e.toNat) := by rw [pow_add, pow_add, mul_assoc]
    _ ≤ 2 ^ k * (den * 2 ^ e.toNat) :=
        Nat.mul_le_mul_left _ (Nat.mul_le_mul_right _ hden)

theorem le_scale {num den k : Nat} {e : Int} (hn : num ≠ 0)
    (h : k + (den.log2 + 1) + e ≤ (num.log2 : Int)) :
    2 ^ k * (scale num den e).2 ≤ (scale num den e).1 := by
  have hnum := Nat.log2_self_le hn
  have hden := Nat.lt_log2_self (n := den)
  simp only [scale, twoTo_eq]
  calc 2 ^ k * (den * 2 ^ e.toNat) ≤ 2 ^ k * (2 ^ (den.log2 + 1) * 2 ^ e.toNat) :=
        Nat.mul_le_mul_left _ (Nat.mul_le_mul_right _ hden.le)
    _ = 2 ^ (k + (den.log2 + 1) + e.toNat) := by rw [pow_add _ (k + _), pow_add _ k, mul_assoc]
    _ ≤ 2 ^ (num.log2 + (-e).toNat) := Nat.pow_le_pow_right (by decide) (by omega)
    _ = 2 ^ num.log2 * 2 ^ (-e).toNat := pow_add _ _ _
    _ ≤ num * 2 ^ (-e).toNat := Nat.mul_le_mul_right _ hnum

/-- The next exponent halves the scaled quotient. -/
theorem scale_succ (num den : Nat) (e : Int) :
    (scale num den (e + 1)).1 * 2 * (scale num den e).2 =
      (scale num den e).1 * (scale num den (e + 1)).2 := by
  simp only [scale, twoTo_eq]
  rcases lt_or_ge e 0 with hneg | hpos
  · have hlow : (-e).toNat = (-(e + 1)).toNat + 1 := by omega
    rw [hlow, show (e + 1).toNat = 0 by omega, show e.toNat = 0 by omega, pow_succ]
    ring
  · have hhigh : (e + 1).toNat = e.toNat + 1 := by omega
    rw [hhigh, show (-(e + 1)).toNat = 0 by omega, show (-e).toNat = 0 by omega, pow_succ]
    ring

theorem scale_den_pos (num : Nat) {den : Nat} (hd : 0 < den) (e : Int) :
    0 < (scale num den e).2 := by
  simp only [scale, twoTo_eq]
  positivity

/-- At the exponent of a positive quotient its integer part has at most 53 bits, and exactly so
many unless the exponent is the least one. -/
theorem scale_exponentOf {num den : Nat} (hn : num ≠ 0) (hd : den ≠ 0) :
    -1074 ≤ exponentOf num den ∧
      exponentOf num den ≤ max (-1074) ((num.log2 : Int) - den.log2 - 53) + 1 ∧
      (scale num den (exponentOf num den)).1 < 2 ^ 53 * (scale num den (exponentOf num den)).2 ∧
      (2 ^ 52 * (scale num den (exponentOf num den)).2 ≤ (scale num den (exponentOf num den)).1 ∨
        exponentOf num den = -1074) := by
  have hpos := Nat.pos_of_ne_zero hd
  let guess := max (-1074) ((num.log2 : Int) - den.log2 - 53)
  have hguess := scale_den_pos num hpos guess
  have hnext := scale_den_pos num hpos (guess + 1)
  have hhalf := scale_succ num den guess
  have hbelow : (scale num den guess).1 < 2 ^ 54 * (scale num den guess).2 :=
    scale_lt hd (by omega)
  -- The guess is one too small just when the integer part has 54 bits there.
  by_cases hfull : 2 ^ 53 ≤ (scale num den guess).1 / (scale num den guess).2
  · have hexponent : exponentOf num den = guess + 1 := if_pos hfull
    have habove := (Nat.le_div_iff_mul_le hguess).mp hfull
    rw [hexponent]
    refine ⟨by omega, by omega, ?_, Or.inl ?_⟩
    · nlinarith
    · nlinarith
  · have hexponent : exponentOf num den = guess := if_neg hfull
    rw [hexponent]
    refine ⟨by omega, by omega, ?_, ?_⟩
    · exact (Nat.div_lt_iff_lt_mul hguess).mp (by omega)
    · rcases lt_or_ge (-1074) guess with hlarge | hleast
      · exact Or.inl (le_scale hn (by omega))
      · exact Or.inr (by omega)

theorem roundQuotient_le {num den bound : Nat} (hd : 0 < den) (h : num ≤ bound * den) :
    roundQuotient num den ≤ bound := by
  have hbelow : num / den ≤ bound := Nat.div_le_of_le_mul (by rwa [mul_comm])
  -- Where the integer part is the bound there is no rest to be rounded.
  have hrest : num / den = bound → num % den = 0 := by
    intro hfull
    have hsplit := Nat.div_add_mod num den
    rw [hfull, mul_comm] at hsplit
    omega
  simp only [roundQuotient]
  split
  · omega
  · split <;> omega

theorem le_roundQuotient {num den bound : Nat} (hd : 0 < den) (h : bound * den ≤ num) :
    bound ≤ roundQuotient num den := by
  have hbelow : bound ≤ num / den := (Nat.le_div_iff_mul_le hd).mpr h
  simp only [roundQuotient]
  split
  · omega
  · split <;> omega

/-- A quotient below `2 ^ 1022` is in the range of the numbers. -/
theorem exists_ofQuotient? {num den k : Nat} (hd : 0 < den) (hk : k ≤ 1022)
    (h : num < 2 ^ k * den) : ∃ x, Magnitude.ofQuotient? num den = some x := by
  by_cases hn : num = 0
  · exact ⟨Magnitude.zero, if_pos hn⟩
  obtain ⟨hleast, hmost, hbelow, hfull⟩ := scale_exponentOf hn hd.ne'
  have hlog : num.log2 < k + (den.log2 + 1) := by
    apply (Nat.log2_lt hn).mpr
    rw [pow_add]
    exact h.trans (Nat.mul_lt_mul_of_pos_left Nat.lt_log2_self (by positivity))
  have hden := scale_den_pos num hd (exponentOf num den)
  have hle := roundQuotient_le hden hbelow.le
  have hnormal : 2 ^ 52 ≤ roundQuotient (scale num den (exponentOf num den)).1
      (scale num den (exponentOf num den)).2 ∨ exponentOf num den = -1074 :=
    hfull.imp (le_roundQuotient hden) id
  unfold Magnitude.ofQuotient?
  rw [if_neg hn]
  by_cases hcanonical : Canonical (roundQuotient (scale num den (exponentOf num den)).1
      (scale num den (exponentOf num den)).2) (exponentOf num den)
  · exact ⟨_, dif_pos hcanonical⟩
  · -- The rounded significand is out of range only where it was rounded up to the next power.
    have hround : roundQuotient (scale num den (exponentOf num den)).1
        (scale num den (exponentOf num den)).2 = 2 ^ 53 := by
      by_contra hne
      exact hcanonical ⟨lt_of_le_of_ne hle hne, hleast, by omega, hnormal⟩
    have hcarried : Canonical (twoTo 52) (exponentOf num den + 1) :=
      ⟨by decide, by omega, by omega, Or.inl le_rfl⟩
    exact ⟨_, (dif_neg hcanonical).trans (dif_pos ⟨hround, hcarried⟩)⟩

end SalesDesk.Binary64
