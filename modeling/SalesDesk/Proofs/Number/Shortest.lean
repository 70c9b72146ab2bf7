import SalesDesk.Number.Decimal
import SalesDesk.Proofs.Number.Rounding

/-!
# Reading numbers back

What a quotient is rounded to depends on its value alone, and a quotient that is a number is rounded
to this number. So the shortest decimal of a number reads back as the number, with its zeros written
out or not.
-/

namespace SalesDesk

namespace Binary64

/-- An exponent at which a value has at most 53 bits before its binary point, and exactly so many
unless the exponent is the least one. -/
structure IsExponent (value : ℚ) (e : Int) : Prop where
  least : -1074 ≤ e
  below : value < 2 ^ 53 * 2 ^ e
  full : 2 ^ 52 * 2 ^ e ≤ value ∨ e = -1074

namespace IsExponent

variable {value : ℚ} {e e' : Int}

theorem le (h : IsExponent value e) (h' : IsExponent value e') : e ≤ e' := by
  by_contra hlt
  have hleast := h'.least
  have habove := h.full.resolve_right (by omega)
  have hstep : (2 : ℚ) ^ (e' + 1) ≤ 2 ^ e := zpow_le_zpow_right₀ (by norm_num) (by omega)
  have hdouble : (2 : ℚ) ^ (e' + 1) = 2 ^ e' * 2 := zpow_add_one₀ (by norm_num) e'
  have hbelow := h'.below
  linarith

theorem unique (h : IsExponent value e) (h' : IsExponent value e') : e = e' :=
  le_antisymm (h.le h') (h'.le h)

end IsExponent

variable {num den : Nat}

theorem isExponent_exponentOf (hn : num ≠ 0) (hd : den ≠ 0) :
    IsExponent (num / den) (exponentOf num den) := by
  obtain ⟨hleast, -, hbelow, hfull⟩ := scale_exponentOf hn hd
  have hden : (0 : ℚ) < (scale num den (exponentOf num den)).2 := by
    exact_mod_cast scale_den_pos num (Nat.pos_of_ne_zero hd) _
  have hscale := scale_div_scale num den (exponentOf num den)
  generalize exponentOf num den = e at *
  have hpower : (0 : ℚ) < 2 ^ e := by positivity
  refine ⟨hleast, ?_, hfull.imp_left fun hnormal => ?_⟩
  · rw [← div_lt_iff₀ hpower, ← hscale, div_lt_iff₀ hden]
    exact_mod_cast hbelow
  · rw [← le_div_iff₀ hpower, ← hscale, le_div_iff₀ hden]
    exact_mod_cast hnormal

theorem Magnitude.isExponent (x : Magnitude) : IsExponent x.value x.exponent := by
  obtain ⟨hbelow, hleast, -, hfull⟩ := x.canonical
  have hpower : (0 : ℚ) < 2 ^ x.exponent := by positivity
  refine ⟨hleast, mul_lt_mul_of_pos_right (by exact_mod_cast hbelow) hpower,
    hfull.imp_left fun hnormal => mul_le_mul_of_nonneg_right ?_ hpower.le⟩
  exact_mod_cast hnormal

theorem Magnitude.eq_zero_of_significand {x : Magnitude} (hx : x.significand = 0) : x = zero := by
  obtain ⟨significand, exponent, hcanonical⟩ := x
  subst hx
  have hexponent : exponent = -1074 := hcanonical.2.2.2.resolve_left (by decide)
  subst hexponent
  rfl

theorem exponentOf_congr {num' den' : Nat} (hn : num ≠ 0) (hd : den ≠ 0) (hn' : num' ≠ 0)
    (hd' : den' ≠ 0) (h : (num : ℚ) / den = num' / den') :
    exponentOf num den = exponentOf num' den' :=
  (isExponent_exponentOf hn hd).unique (h ▸ isExponent_exponentOf hn' hd')

theorem roundQuotient_mul {k : Nat} (hk : 0 < k) (num den : Nat) :
    roundQuotient (k * num) (k * den) = roundQuotient num den := by
  have hcompare (a b : Nat) : 2 * (k * a) < k * b ↔ 2 * a < b := by
    rw [← mul_assoc, mul_comm 2 k, mul_assoc]
    exact Nat.mul_lt_mul_left hk
  have hcompare' (a b : Nat) : k * b < 2 * (k * a) ↔ b < 2 * a := by
    rw [← mul_assoc, mul_comm 2 k, mul_assoc]
    exact Nat.mul_lt_mul_left hk
  simp only [roundQuotient, Nat.mul_div_mul_left _ _ hk, Nat.mul_mod_mul_left, hcompare, hcompare']

theorem roundQuotient_mul_right {den : Nat} (hd : 0 < den) (n : Nat) :
    roundQuotient (n * den) den = n :=
  le_antisymm (roundQuotient_le hd le_rfl) (le_roundQuotient hd le_rfl)

namespace Magnitude

/-- What a quotient is rounded to does not depend on common factors. -/
theorem ofQuotient?_mul {k : Nat} (hk : 0 < k) (hd : 0 < den) (num : Nat) :
    ofQuotient? (k * num) (k * den) = ofQuotient? num den := by
  by_cases hn : num = 0
  · rw [hn, mul_zero]
    rfl
  have hmul : k * num ≠ 0 := mul_ne_zero hk.ne' hn
  have hvalue : ((k * num : Nat) : ℚ) / (k * den : Nat) = num / den := by
    push_cast
    exact mul_div_mul_left _ _ (by exact_mod_cast hk.ne')
  have hexponent := exponentOf_congr hmul (mul_ne_zero hk.ne' hd.ne') hn hd.ne' hvalue
  have hround (e : Int) : roundQuotient (scale (k * num) (k * den) e).1
      (scale (k * num) (k * den) e).2 = roundQuotient (scale num den e).1 (scale num den e).2 := by
    simp only [scale, mul_assoc]
    exact roundQuotient_mul hk _ _
  simp only [ofQuotient?, if_neg hn, if_neg hmul, hexponent, hround]

/-- A quotient that is a number is rounded to this number. -/
theorem ofQuotient?_of_value (x : Magnitude) (hd : 0 < den) (h : (num : ℚ) / den = x.value) :
    ofQuotient? num den = some x := by
  have hpower : (0 : ℚ) < 2 ^ x.exponent := by positivity
  by_cases hx : x.significand = 0
  · have hn : num = 0 := by
      rw [value, hx, Nat.cast_zero, zero_mul, div_eq_zero_iff] at h
      exact_mod_cast h.resolve_right (by exact_mod_cast hd.ne')
    rw [eq_zero_of_significand hx, hn]
    rfl
  have hn : num ≠ 0 := by
    rintro rfl
    rw [Nat.cast_zero, zero_div, value, eq_comm, mul_eq_zero] at h
    exact hx (by exact_mod_cast h.resolve_right hpower.ne')
  have hexponent : exponentOf num den = x.exponent :=
    (isExponent_exponentOf hn hd.ne').unique (h ▸ x.isExponent)
  -- At its own exponent the number is its significand, and nothing is left to be rounded.
  have hden := scale_den_pos num hd x.exponent
  have hscale := scale_div_scale num den x.exponent
  rw [h, value, mul_div_assoc, div_self hpower.ne', mul_one,
    div_eq_iff (by exact_mod_cast hden.ne')] at hscale
  have hexact : (scale num den x.exponent).1 = x.significand * (scale num den x.exponent).2 := by
    exact_mod_cast hscale
  have hround : roundQuotient (scale num den x.exponent).1 (scale num den x.exponent).2 =
      x.significand := by
    rw [hexact, roundQuotient_mul_right hden]
  simp only [ofQuotient?, if_neg hn, hexponent, hround, dif_pos x.canonical]

end Magnitude

theorem ofQuotient_congr {num' den' : Nat} (negative : Bool)
    (h : Magnitude.ofQuotient? num den = Magnitude.ofQuotient? num' den') :
    ofQuotient negative num den = ofQuotient negative num' den' := by
  rw [ofQuotient, h, ofQuotient]

/-! ## Decimals -/

/-- The sign plays no part in the rounding. -/
theorem ofDecimal_sign {digits : Nat} {e : Int} {x : Magnitude}
    (h : ofDecimal false digits e = finite false x) (negative : Bool) :
    ofDecimal negative digits e = finite negative x := by
  unfold ofDecimal at h ⊢
  split_ifs at h ⊢
  · cases h
    rfl
  · cases h
    rfl
  · unfold ofQuotient at h ⊢
    split at h
    · cases h
      rfl
    · cases h

theorem ne_zero_of_ofDecimal {digits : Nat} {e : Int} {x : Magnitude} (hx : x.significand ≠ 0)
    (h : ofDecimal false digits e = finite false x) : digits ≠ 0 := by
  rintro rfl
  have hzero : x = Magnitude.zero := by
    simp only [ofDecimal, if_true, finite.injEq, true_and] at h
    exact h.symm
  exact hx (by rw [hzero]; rfl)

/-- A decimal may be written with its zeros, and with one more behind a point. -/
theorem ofDecimal_zeros (negative : Bool) {digits : Nat} (hdigits : digits ≠ 0) {zeros : Nat}
    (h : zeros ≤ 400) :
    ofDecimal negative (digits * 10 ^ zeros * 10) (-1) = ofDecimal negative digits zeros := by
  have hlong : digits * 10 ^ zeros * 10 ≠ 0 := by positivity
  have hround := Magnitude.ofQuotient?_mul (show 0 < 10 by decide) Nat.one_pos (digits * 10 ^ zeros)
  have hmul : 10 * (digits * 10 ^ zeros) = digits * 10 ^ zeros * 10 * 1 := by ring
  have hsmall : ¬ (400 : Int) < zeros := by omega
  have hlarge (n : Nat) : ¬ (n.log2 : Int) + 1100 < -(zeros : Int) := by omega
  have hplace (n : Nat) : ¬ (n.log2 : Int) + 1100 < - -1 := by omega
  have hnone : (-(zeros : Int)).toNat = 0 := by omega
  simp only [ofDecimal, if_neg hlong, if_neg hdigits, if_neg hsmall, if_neg (hlarge _),
    if_neg (hplace _), if_neg (show ¬ (400 : Int) < -1 by decide), hnone, Int.toNat_natCast]
  rw [hmul] at hround
  exact ofQuotient_congr negative hround

end Binary64

namespace Decimal

open Binary64

variable {x : Magnitude}

/-- The exact decimal of a number stands for its value. -/
theorem exact_value (x : Magnitude) : (((exact x).1 * tenTo (exact x).2.toNat : Nat) : ℚ) /
    tenTo (-(exact x).2).toNat = x.value := by
  by_cases hneg : x.exponent < 0
  · have hexact : exact x = (x.significand * 5 ^ (-x.exponent).toNat, x.exponent) := if_pos hneg
    obtain ⟨places, hplaces⟩ : ∃ places : Nat, x.exponent = -places :=
      ⟨(-x.exponent).toNat, by omega⟩
    have hten : (10 : ℚ) ^ places = 2 ^ places * 5 ^ places := by
      rw [← mul_pow]
      norm_num
    have hnone : (-(places : Int)).toNat = 0 := by omega
    rw [hexact, Magnitude.value, hplaces, zpow_neg, zpow_natCast, ← div_eq_mul_inv]
    simp only [tenTo, Nat.pow_eq, hnone, neg_neg, Int.toNat_natCast, pow_zero, mul_one,
      Nat.cast_mul, Nat.cast_pow, Nat.cast_ofNat, hten]
    exact mul_div_mul_right _ _ (by positivity)
  · have hexact : exact x = (x.num, 0) := if_neg hneg
    have hden : x.den = 1 := by
      simp [Magnitude.den, show (-x.exponent).toNat = 0 by omega]
    rw [hexact, ← Magnitude.num_div_den, hden]
    simp [tenTo]

/-- It has few enough places for the rounding to look at its digits. -/
theorem ofDecimal_exact (hx : x.significand ≠ 0) :
    ofDecimal false (exact x).1 (exact x).2 = finite false x := by
  have hleast := x.canonical.2.1
  have hplaces : (exact x).2 ≤ 0 ∧ -1074 ≤ (exact x).2 := by
    unfold exact
    split_ifs <;> constructor <;> dsimp only <;> omega
  have hdigits : (exact x).1 ≠ 0 := by
    unfold exact Magnitude.num
    split_ifs <;> simp [hx]
  have hpositive : 0 < tenTo (-(exact x).2).toNat := by simp [tenTo]
  rw [ofDecimal, if_neg hdigits, if_neg (by omega), if_neg (by omega), ofQuotient,
    Magnitude.ofQuotient?_of_value x hpositive (exact_value x)]

/-- The shortest decimal of a number reads back as the number. -/
theorem ofDecimal_shortest (hx : x.significand ≠ 0) :
    ofDecimal false (shortest x).1 (shortest x).2 = finite false x := by
  unfold shortest
  cases hfound : (candidates x).find? (readsBack x) with
  | none => exact ofDecimal_exact hx
  | some candidate =>
    have hread := List.find?_some hfound
    exact eq_of_beq hread

end Decimal

end SalesDesk
