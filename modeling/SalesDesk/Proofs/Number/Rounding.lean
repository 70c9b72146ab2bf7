import SalesDesk.Proofs.Number.Quotient
import Mathlib.Algebra.Order.Field.Basic
import Mathlib.Algebra.Order.Field.Power
import Mathlib.Data.Rat.Cast.Order

/-!
# Rounding between numbers

Rounding a quotient never crosses a number: a quotient that is at most a number is rounded to at
most that number, and one that is at least a number to at least that number. So a comparison of a
rounded quotient with a constant can be told from the quotient itself, where no quotient of small
numbers lies between the constant and the fraction that it stands for.
-/

namespace SalesDesk.Binary64

theorem twoTo_div_twoTo (e : Int) : (twoTo e.toNat : ℚ) / twoTo (-e).toNat = 2 ^ e := by
  simp only [twoTo_eq, Nat.cast_pow, Nat.cast_ofNat]
  rw [← zpow_natCast, ← zpow_natCast, ← zpow_sub₀ (by norm_num)]
  congr 1
  omega

theorem scale_div_scale (num den : Nat) (e : Int) :
    ((scale num den e).1 : ℚ) / (scale num den e).2 = num / den / 2 ^ e := by
  rw [← twoTo_div_twoTo, div_div_div_eq]
  simp only [scale, Nat.cast_mul]

/-- A quotient between two integers is rounded to an integer between them. -/
theorem roundQuotient_le_of_div {num den bound : Nat} (hd : 0 < den)
    (h : (num : ℚ) / den ≤ bound) : roundQuotient num den ≤ bound := by
  rw [div_le_iff₀ (by exact_mod_cast hd)] at h
  exact roundQuotient_le hd (by exact_mod_cast h)

theorem le_roundQuotient_of_div {num den bound : Nat} (hd : 0 < den)
    (h : (bound : ℚ) ≤ num / den) : bound ≤ roundQuotient num den := by
  rw [le_div_iff₀ (by exact_mod_cast hd)] at h
  exact le_roundQuotient hd (by exact_mod_cast h)

namespace Magnitude

variable {num den : Nat} {x y : Magnitude}

def value (x : Magnitude) : ℚ := x.significand * 2 ^ x.exponent

theorem num_div_den (x : Magnitude) : (x.num : ℚ) / x.den = x.value := by
  rw [value, ← twoTo_div_twoTo, Magnitude.num, Magnitude.den, Nat.cast_mul, mul_div_assoc]

theorem value_nonneg (x : Magnitude) : 0 ≤ x.value := by
  unfold value
  positivity

theorem lt_iff_value_lt (x y : Magnitude) :
    lt (.finite false x) (.finite false y) = true ↔ x.value < y.value := by
  have hx : (0 : ℚ) < x.den := by simp [Magnitude.den]
  have hy : (0 : ℚ) < y.den := by simp [Magnitude.den]
  simp only [lt, toQuotient, Bool.false_eq_true, if_false, decide_eq_true_eq]
  rw [← num_div_den, ← num_div_den, div_lt_div_iff₀ hx hy]
  norm_cast

/-- The value of a rounded quotient, at the exponent at which it was rounded. -/
theorem value_ofQuotient? (hn : num ≠ 0) (h : ofQuotient? num den = some x) :
    x.value = roundQuotient (scale num den (exponentOf num den)).1
      (scale num den (exponentOf num den)).2 * 2 ^ exponentOf num den := by
  unfold ofQuotient? at h
  rw [if_neg hn] at h
  dsimp only at h
  split at h
  · cases h
    rfl
  · split at h
    · rename_i hcarried
      cases h
      rw [hcarried.1, value, zpow_add₀ (by norm_num)]
      simp only [twoTo_eq]
      push_cast
      ring
    · cases h

/-- A number below another exponent has a smaller value than every full significand there. -/
theorem value_lt_of_exponent_lt {e : Int} (h : y.exponent < e) : y.value < 2 ^ 52 * 2 ^ e := by
  obtain ⟨hbelow, -⟩ := y.canonical
  have hsignificand : (y.significand : ℚ) < 2 ^ 53 := by exact_mod_cast hbelow
  calc y.value < 2 ^ 53 * 2 ^ y.exponent :=
        mul_lt_mul_of_pos_right hsignificand (by positivity)
    _ = 2 ^ 52 * 2 ^ (y.exponent + 1) := by rw [zpow_add₀ (by norm_num)]; ring
    _ ≤ 2 ^ 52 * 2 ^ e := by
        have hpower : (2 : ℚ) ^ (y.exponent + 1) ≤ 2 ^ e :=
          zpow_le_zpow_right₀ (by norm_num) (by omega)
        linarith

/-- A number is an integer at every exponent up to its own. -/
theorem exists_value_eq {e : Int} (h : e ≤ y.exponent) : ∃ n : Nat, y.value = n * 2 ^ e := by
  refine ⟨y.significand * 2 ^ (y.exponent - e).toNat, ?_⟩
  push_cast
  rw [value, mul_assoc, ← zpow_natCast, ← zpow_add₀ (by norm_num)]
  congr 2
  omega

theorem ofQuotient?_le (hd : 0 < den) (hx : ofQuotient? num den = some x)
    (h : (num : ℚ) / den ≤ y.value) : x.value ≤ y.value := by
  by_cases hn : num = 0
  · have hzero : x = zero := by simpa [ofQuotient?, hn] using hx.symm
    rw [hzero, value, zero]
    simpa using y.value_nonneg
  obtain ⟨-, -, -, hfull⟩ := scale_exponentOf hn hd.ne'
  have hden := scale_den_pos num hd (exponentOf num den)
  have hscale := scale_div_scale num den (exponentOf num den)
  rw [value_ofQuotient? hn hx]
  generalize exponentOf num den = e at *
  have hpower : (0 : ℚ) < 2 ^ e := by positivity
  rcases le_or_gt e y.exponent with hle | hgt
  · obtain ⟨n, hvalue⟩ := exists_value_eq hle
    rw [hvalue] at h ⊢
    have hround : roundQuotient (scale num den e).1 (scale num den e).2 ≤ n := by
      apply roundQuotient_le_of_div hden
      rw [hscale, div_le_iff₀ hpower]
      exact h
    exact mul_le_mul_of_nonneg_right (by exact_mod_cast hround) hpower.le
  · -- A quotient that is rounded at a higher exponent is larger than the number.
    have hleast := y.canonical.2.1
    have hnormal := hfull.resolve_right (by omega)
    have hlarge : (2 : ℚ) ^ 52 * 2 ^ e ≤ num / den := by
      rw [← le_div_iff₀ hpower, ← hscale, le_div_iff₀ (by exact_mod_cast hden)]
      exact_mod_cast hnormal
    exact absurd (hlarge.trans h) (not_le.mpr (value_lt_of_exponent_lt hgt))

theorem le_ofQuotient? (hd : 0 < den) (hx : ofQuotient? num den = some x)
    (h : y.value ≤ (num : ℚ) / den) : y.value ≤ x.value := by
  by_cases hn : num = 0
  · rw [hn, Nat.cast_zero, zero_div] at h
    exact h.trans x.value_nonneg
  obtain ⟨-, -, -, hfull⟩ := scale_exponentOf hn hd.ne'
  have hden := scale_den_pos num hd (exponentOf num den)
  have hscale := scale_div_scale num den (exponentOf num den)
  rw [value_ofQuotient? hn hx]
  generalize exponentOf num den = e at *
  have hpower : (0 : ℚ) < 2 ^ e := by positivity
  rcases le_or_gt e y.exponent with hle | hgt
  · obtain ⟨n, hvalue⟩ := exists_value_eq hle
    rw [hvalue] at h ⊢
    have hround : n ≤ roundQuotient (scale num den e).1 (scale num den e).2 := by
      apply le_roundQuotient_of_div hden
      rw [hscale, le_div_iff₀ hpower]
      exact h
    exact mul_le_mul_of_nonneg_right (by exact_mod_cast hround) hpower.le
  · have hleast := y.canonical.2.1
    have hround := le_roundQuotient hden (hfull.resolve_right (by omega))
    have hlarge : (2 : ℚ) ^ 52 * 2 ^ e ≤
        roundQuotient (scale num den e).1 (scale num den e).2 * 2 ^ e :=
      mul_le_mul_of_nonneg_right (by exact_mod_cast hround) hpower.le
    exact (value_lt_of_exponent_lt hgt).le.trans hlarge

/-- A number that stands for a fraction is passed by the rounded quotients that pass the fraction,
as long as the next number is as close to the fraction as no other quotient of small numbers. -/
theorem value_lt_ofQuotient?_iff {a b bound : Nat} (next : Magnitude) (hb : 0 < b)
    (hfraction : (a : ℚ) / b ≤ y.value) (hnext : y.value < next.value)
    (hclose : next.value ≤ a / b + 1 / (b * bound)) (hd : 0 < den) (hbound : den ≤ bound)
    (hx : ofQuotient? num den = some x) : y.value < x.value ↔ a * den < b * num := by
  have hb' : (0 : ℚ) < b := by exact_mod_cast hb
  have hd' : (0 : ℚ) < den := by exact_mod_cast hd
  constructor
  · intro hlt
    by_contra hle
    have hle' : (b * num : ℚ) ≤ a * den := by exact_mod_cast not_lt.mp hle
    have hquotient : (num : ℚ) / den ≤ a / b := by
      rw [div_le_div_iff₀ hd' hb']
      linarith
    exact absurd (ofQuotient?_le hd hx (hquotient.trans hfraction)) (not_le.mpr hlt)
  · intro hlt
    have hlt' : (a * den + 1 : ℚ) ≤ b * num := by exact_mod_cast hlt
    have hquotient : (a : ℚ) / b + 1 / (b * bound) ≤ num / den :=
      calc (a : ℚ) / b + 1 / (b * bound) ≤ a / b + 1 / (b * den) := by
            have hinverse : (1 : ℚ) / (b * bound) ≤ 1 / (b * den) :=
              one_div_le_one_div_of_le (by positivity)
                (mul_le_mul_of_nonneg_left (by exact_mod_cast hbound) hb'.le)
            linarith
        _ = (a * den + 1) / (b * den) := by
            rw [add_div, mul_div_mul_right _ _ hd'.ne']
        _ ≤ b * num / (b * den) := div_le_div_of_nonneg_right hlt' (by positivity)
        _ = num / den := mul_div_mul_left _ _ hb'.ne'
    exact hnext.trans_le (le_ofQuotient? hd hx (hclose.trans hquotient))

end Magnitude

end SalesDesk.Binary64
