import SalesDesk.Json.Printer
import SalesDesk.Json.Reader
import SalesDesk.Proofs.Number.Digits
import SalesDesk.Proofs.Number.Shortest

/-!
# Reading written numbers

An integer and a number are read back from their texts, as long as what follows cannot belong to a
number. The text of a number has places or a power of ten, so it is never read as an integer.
-/

namespace SalesDesk.Json

open Binary64

variable {c : Char} {ds rest tail mid whole places : List Char} {power : Option Int} {limit : Nat}

namespace Reader

/-- No number goes on with what a text begins with. -/
def EndsNumber (rest : List Char) : Prop :=
  ∀ c ∈ rest.head?, c.isDigit = false ∧ c ≠ '.' ∧ c ≠ 'e' ∧ c ≠ 'E'

theorem endsNumber_nil : EndsNumber [] := nofun

theorem endsNumber_cons (h : c.isDigit = false) (hpoint : c ≠ '.') (hsmall : c ≠ 'e')
    (hlarge : c ≠ 'E') (rest : List Char) : EndsNumber (c :: rest) := by
  rintro _ ⟨⟩
  exact ⟨h, hpoint, hsmall, hlarge⟩

theorem head_notDigit (h : c.isDigit = false) (cs : List Char) :
    ∀ x ∈ (c :: cs).head?, x.isDigit = false := by
  rintro _ ⟨⟩
  exact h

/-! ## Parts of a number -/

theorem takeDigits_append (hds : ∀ c ∈ ds, c.isDigit = true)
    (hrest : ∀ c ∈ rest.head?, c.isDigit = false) : takeDigits (ds ++ rest) = (ds, rest) := by
  rw [takeDigits, List.takeWhile_append_of_pos hds, List.dropWhile_append_of_pos hds]
  cases rest with
  | nil => simp
  | cons c rest =>
    have hc : ¬ c.isDigit = true := by simp [hrest c rfl]
    rw [List.takeWhile_cons_of_neg hc, List.dropWhile_cons_of_neg hc, List.append_nil]

theorem fraction_of_ends (h : EndsNumber rest) : fraction rest = ([], rest) := by
  cases rest with
  | nil => rfl
  | cons c rest =>
    unfold fraction
    split
    · rename_i hpoint
      cases hpoint
      exact absurd rfl (h '.' rfl).2.1
    · rfl

theorem exponent_of_ends (h : EndsNumber rest) : exponent rest = (none, rest) := by
  cases rest with
  | nil => rfl
  | cons c rest =>
    obtain ⟨-, -, hsmall, hlarge⟩ := h c rfl
    simp only [exponent, hsmall, hlarge, or_self, if_false]

theorem fraction_point (hds : ∀ c ∈ ds, c.isDigit = true) (hne : ds ≠ [])
    (hrest : ∀ c ∈ rest.head?, c.isDigit = false) :
    fraction ('.' :: (ds ++ rest)) = (ds, rest) := by
  simp only [fraction, takeDigits_append hds hrest, if_neg hne]

/-- A power of ten as it is written, after its mark. -/
def powerChars (e : Int) : List Char :=
  (if e < 0 then '-' else '+') :: Decimal.padded 2 e.natAbs

theorem exponent_powerChars (e : Int) (h : EndsNumber rest) :
    exponent ('e' :: (powerChars e ++ rest)) = (some e, rest) := by
  have hdigits : takeDigits (Decimal.padded 2 e.natAbs ++ rest) = (Decimal.padded 2 e.natAbs, rest) :=
    takeDigits_append (fun _ => Decimal.isDigit_of_mem_padded) fun c hc => (h c hc).1
  have hne := Decimal.padded_ne_nil 2 e.natAbs
  have habs : (e.natAbs : Int) = |e| := Int.natCast_natAbs e
  by_cases hneg : e < 0
  · simp only [exponent, powerChars, if_pos hneg, List.cons_append, hdigits, if_neg hne,
      Decimal.ofDigits_padded, true_or, if_true, habs, abs_of_neg hneg, neg_neg]
  · simp only [exponent, powerChars, if_neg hneg, List.cons_append, hdigits, if_neg hne,
      Decimal.ofDigits_padded, true_or, if_true, habs, abs_of_nonneg (not_lt.mp hneg),
      Bool.false_eq_true, if_false]

/-- The digits of a whole number: a zero, or digits that start with another one. -/
def IsWhole (whole : List Char) : Prop :=
  whole = ['0'] ∨ (∀ c ∈ whole, c.isDigit = true) ∧ ∃ c rest, whole = c :: rest ∧ c ≠ '0'

theorem isWhole_digits (n : Nat) : IsWhole (Decimal.digits n) := by
  by_cases hn : n = 0
  · exact .inl (hn ▸ rfl)
  · exact .inr ⟨fun _ => Decimal.isDigit_of_mem_digits, Decimal.exists_digits_eq_cons hn⟩

namespace IsWhole

theorem ne_nil (h : IsWhole whole) : whole ≠ [] := by
  rcases h with rfl | ⟨-, c, rest, rfl, -⟩ <;> exact List.cons_ne_nil _ _

theorem all_isDigit (h : IsWhole whole) : ∀ c ∈ whole, c.isDigit = true := by
  rcases h with rfl | ⟨hdigits, -⟩
  · simp
  · exact hdigits

theorem takeSign_append (h : IsWhole whole) (tail : List Char) :
    takeSign (whole ++ tail) = (false, whole ++ tail) := by
  obtain ⟨c, rest, rfl⟩ := List.exists_cons_of_ne_nil h.ne_nil
  have hc := h.all_isDigit c List.mem_cons_self
  unfold takeSign
  split
  · rename_i hminus
    cases hminus
    exact absurd hc (by decide)
  · rfl

theorem takeWhole_append (h : IsWhole whole) (htail : ∀ c ∈ tail.head?, c.isDigit = false) :
    takeWhole (whole ++ tail) = (whole, tail) := by
  rcases h with rfl | ⟨hdigits, c, rest, rfl, hc⟩
  · rfl
  · unfold takeWhole
    split
    · rename_i hzero
      cases hzero
      exact absurd rfl hc
    · exact takeDigits_append hdigits htail

end IsWhole

/-! ## Numbers -/

/-- A text after its sign. -/
def signed (negative : Bool) (cs : List Char) : List Char := if negative then '-' :: cs else cs

theorem takeSign_signed (negative : Bool) (h : IsWhole whole) (tail : List Char) :
    takeSign (signed negative (whole ++ tail)) = (negative, whole ++ tail) := by
  cases negative with
  | true => rfl
  | false => exact h.takeSign_append tail

theorem number_integer (negative : Bool) (h : IsWhole whole) (hlimit : whole.length ≤ limit)
    (hrest : EndsNumber rest) : number limit (signed negative (whole ++ rest)) =
      .ok (.int (if negative then -Decimal.ofDigits whole else Decimal.ofDigits whole), rest) := by
  simp only [number, takeSign_signed negative h, h.takeWhole_append fun c hc => (hrest c hc).1,
    if_neg h.ne_nil, fraction_of_ends hrest, exponent_of_ends hrest, and_self, if_true,
    if_neg (not_lt.mpr hlimit)]

theorem number_of_parts (limit : Nat) (negative : Bool) (h : IsWhole whole)
    (htail : ∀ c ∈ tail.head?, c.isDigit = false) (hplaces : fraction tail = (places, mid))
    (hpower : exponent mid = (power, rest)) (hnumber : places ≠ [] ∨ power ≠ none) :
    number limit (signed negative (whole ++ tail)) = .ok (.float (.ofDecimal negative
      (Decimal.ofDigits (whole ++ places)) (power.getD 0 - places.length)), rest) := by
  have hnot : ¬ (places = [] ∧ power = none) := fun hboth =>
    hnumber.elim (absurd hboth.1) (absurd hboth.2)
  simp only [number, takeSign_signed negative h, h.takeWhole_append htail, if_neg h.ne_nil,
    hplaces, hpower, if_neg hnot]

theorem number_intText (m : Int) (hlimit : (Decimal.digits m.natAbs).length ≤ limit)
    (hrest : EndsNumber rest) : number limit (Decimal.intText m ++ rest) = .ok (.int m, rest) := by
  have hnumber := number_integer (decide (m < 0)) (isWhole_digits m.natAbs) hlimit hrest
  rw [Decimal.ofDigits_digits] at hnumber
  unfold Decimal.intText
  by_cases hneg : m < 0
  · have hm : -(m.natAbs : Int) = m := by omega
    simp only [hneg, decide_true, signed, if_true, hm] at hnumber
    rwa [if_pos hneg, List.cons_append]
  · have hm : (m.natAbs : Int) = m := by omega
    simp only [hneg, decide_false, signed, Bool.false_eq_true, if_false, hm] at hnumber
    rwa [if_neg hneg]

/-- Places after a point, which are read as such. -/
theorem number_places (limit : Nat) (negative : Bool) (h : IsWhole whole)
    (hplaces : ∀ c ∈ places, c.isDigit = true) (hne : places ≠ []) (hrest : EndsNumber rest) :
    number limit (signed negative (whole ++ '.' :: (places ++ rest))) = .ok (.float (.ofDecimal
      negative (Decimal.ofDigits (whole ++ places)) (-places.length)), rest) := by
  have hparts := number_of_parts limit negative h (head_notDigit (c := '.') rfl _)
    (fraction_point hplaces hne fun c hc => (hrest c hc).1) (exponent_of_ends hrest) (.inl hne)
  rwa [Option.getD_none, Int.zero_sub] at hparts

/-- A number that is read begins with a digit, after its sign. -/
theorem exists_signed_of_number {v : Json} (h : number limit ds = .ok (v, rest)) :
    ∃ negative c cs, ds = signed negative (c :: cs) ∧ c.isDigit = true := by
  have hwhole (body : List Char) (hne : (takeWhole body).1 ≠ []) :
      ∃ c cs, body = c :: cs ∧ c.isDigit = true := by
    unfold takeWhole at hne
    split at hne
    · exact ⟨'0', _, rfl, rfl⟩
    · cases body with
      | nil => exact absurd rfl hne
      | cons c cs =>
        refine ⟨c, cs, rfl, ?_⟩
        by_contra hc
        exact hne (by simp [takeDigits, hc])
  have hsign : ∃ negative body, takeSign ds = (negative, body) ∧ ds = signed negative body := by
    unfold takeSign
    split
    · exact ⟨true, _, rfl, rfl⟩
    · exact ⟨false, _, rfl, rfl⟩
  obtain ⟨negative, body, hbody, rfl⟩ := hsign
  by_cases hne : (takeWhole body).1 = []
  · simp only [number, hbody, hne, if_true] at h
    cases h
  · obtain ⟨c, cs, rfl, hc⟩ := hwhole body hne
    exact ⟨negative, c, cs, rfl, hc⟩

/-- No word begins like a number. -/
theorem scalar_of_number {v : Json} (h : number limit ds = .ok (v, rest)) :
    scalar limit ds = .ok (v, rest) := by
  obtain ⟨negative, c, cs, rfl, hc⟩ := exists_signed_of_number h
  have hne (x : Char) (hx : x.isDigit = false) : (x == c) = false := by
    rw [beq_eq_false_iff_ne]
    rintro rfl
    simp [hx] at hc
  have hnone : words.find? (fun w => w.1.toList.isPrefixOf (signed negative (c :: cs))) = none := by
    cases negative <;> simp [words, signed, List.isPrefixOf, hne]
  rw [scalar, hnone, h]

/-! ## Texts of numbers -/

section Decimals

variable {d : Nat} {e : Int}

theorem ofDigits_zero_cons (cs : List Char) :
    Decimal.ofDigits ('0' :: cs) = Decimal.ofDigits cs :=
  Decimal.ofDigits_zeros_append 1 cs

theorem isDigit_zeroPlace : ∀ x ∈ ['0'], x.isDigit = true := by simp

/-- Digits that begin as those of a number do, up to zeros behind them or the digits left out. -/
theorem isWhole_of_cons (hc : c ≠ '0') (h : ∀ x ∈ c :: ds, x.isDigit = true) :
    IsWhole (c :: ds) :=
  .inr ⟨h, c, ds, rfl, hc⟩

theorem number_positional (limit : Nat) (negative : Bool) (hd : d ≠ 0)
    (hmost : (Decimal.digits d).length + e ≤ 400) (hrest : EndsNumber rest) :
    number limit (signed negative
      (Decimal.positional (Decimal.digits d) ((Decimal.digits d).length + e) ++ rest)) =
        .ok (.float (.ofDecimal negative d e), rest) := by
  have hdigits : ∀ x ∈ Decimal.digits d, x.isDigit = true := fun _ => Decimal.isDigit_of_mem_digits
  have hnumber := Decimal.ofDigits_digits d
  obtain ⟨c, ds, hds, hc⟩ := Decimal.exists_digits_eq_cons hd
  rw [hds] at hmost hdigits hnumber ⊢
  generalize hpoint : ((c :: ds).length : Int) + e = point at hmost ⊢
  unfold Decimal.positional
  split_ifs with hleft hright
  · -- The point stands in front of the digits, with zeros between.
    have hzeros : ∀ x ∈ List.replicate (-point).toNat '0' ++ c :: ds, x.isDigit = true :=
      List.forall_mem_append.mpr ⟨Decimal.isDigit_replicate _, hdigits⟩
    have hplaces := number_places limit negative (.inl rfl) hzeros (by simp) hrest
    have he : -((List.replicate (-point).toNat '0' ++ c :: ds).length : Int) = e := by
      rw [List.length_append, List.length_replicate]
      omega
    simp only [List.singleton_append, ofDigits_zero_cons, Decimal.ofDigits_zeros_append, hnumber,
      he] at hplaces
    simpa only [List.cons_append, List.nil_append, List.append_assoc] using hplaces
  · -- The point stands behind the digits, with zeros between and one more after it.
    obtain ⟨zeros, rfl⟩ : ∃ zeros : Nat, e = zeros := ⟨e.toNat, by omega⟩
    have hbetween : point.toNat - (c :: ds).length = zeros := by omega
    have hwhole : IsWhole (c :: ds ++ List.replicate zeros '0') :=
      isWhole_of_cons hc (List.forall_mem_append.mpr ⟨hdigits, Decimal.isDigit_replicate zeros⟩)
    have hplaces := number_places limit negative hwhole isDigit_zeroPlace (by simp) hrest
    have hlong := Decimal.ofDigits_append_zeros (c :: ds ++ List.replicate zeros '0') 1
    rw [List.replicate_one, Decimal.ofDigits_append_zeros, hnumber, pow_one] at hlong
    rw [hlong, List.length_singleton, Nat.cast_one,
      ofDecimal_zeros negative hd (by omega)] at hplaces
    rw [hbetween]
    simpa only [List.cons_append, List.nil_append, List.append_assoc] using hplaces
  · obtain ⟨more, hmore⟩ : ∃ more : Nat, point.toNat = more + 1 := ⟨point.toNat - 1, by omega⟩
    have hwhole : IsWhole ((c :: ds).take point.toNat) := by
      rw [hmore, List.take_succ_cons]
      apply isWhole_of_cons hc
      intro x hx
      rw [← List.take_succ_cons] at hx
      exact hdigits x (List.mem_of_mem_take hx)
    have hplaces := number_places limit negative hwhole
      (fun x hx => hdigits x (List.mem_of_mem_drop hx))
      (List.drop_eq_nil_iff.not.mpr hright) hrest
    have he : -(((c :: ds).drop point.toNat).length : Int) = e := by
      rw [List.length_drop]
      omega
    rw [List.take_append_drop, hnumber, he] at hplaces
    simpa only [List.cons_append, List.append_assoc] using hplaces

theorem number_scientific (limit : Nat) (negative : Bool) (hd : d ≠ 0) (hrest : EndsNumber rest) :
    number limit (signed negative
      (Decimal.scientific (Decimal.digits d) ((Decimal.digits d).length + e - 1) ++ rest)) =
        .ok (.float (.ofDecimal negative d e), rest) := by
  have hdigits : ∀ x ∈ Decimal.digits d, x.isDigit = true := fun _ => Decimal.isDigit_of_mem_digits
  have hnumber := Decimal.ofDigits_digits d
  obtain ⟨c, ds, hds, hc⟩ := Decimal.exists_digits_eq_cons hd
  rw [hds] at hdigits hnumber ⊢
  have hpower := exponent_powerChars ((c :: ds).length + e - 1) hrest
  have hwhole : IsWhole [c] := isWhole_of_cons hc fun x hx =>
    hdigits x (List.mem_singleton.mp hx ▸ List.mem_cons_self)
  have hmark := head_notDigit (c := 'e') rfl
  cases ds with
  | nil =>
    have hnone (cs : List Char) : fraction ('e' :: cs) = ([], 'e' :: cs) := rfl
    have hparts := number_of_parts limit negative hwhole (hmark _) (hnone _) hpower
      (.inr (Option.some_ne_none _))
    have he : (([c].length : Nat) : Int) + e - 1 - (([] : List Char).length : Nat) = e := by
      simp
    rw [List.append_nil, hnumber, Option.getD_some, he] at hparts
    exact hparts
  | cons c' ds =>
    have hparts := number_of_parts limit negative hwhole (head_notDigit (c := '.') rfl _)
      (fraction_point (fun x hx => hdigits x (List.mem_cons_of_mem c hx)) (List.cons_ne_nil _ _)
        (hmark _)) hpower (.inl (List.cons_ne_nil _ _))
    have he : ((c :: c' :: ds).length : Int) + e - 1 - (c' :: ds).length = e := by
      simp only [List.length_cons]
      omega
    simp only [List.singleton_append, hnumber, Option.getD_some, he] at hparts
    simpa only [Decimal.scientific, powerChars, List.cons_append, List.nil_append,
      List.append_assoc] using hparts

end Decimals

theorem number_finiteText (limit : Nat) (negative : Bool) (x : Magnitude)
    (hrest : EndsNumber rest) : number limit (Decimal.finiteText negative x ++ rest) =
      .ok (.float (.finite negative x), rest) := by
  have hsigned (cs : List Char) : (if negative then '-' :: cs else cs) ++ rest =
      signed negative (cs ++ rest) := by
    cases negative <;> rfl
  rw [Decimal.finiteText, hsigned, Decimal.magnitudeText]
  by_cases hx : x.significand = 0
  · have hzero := number_places limit negative (.inl rfl) isDigit_zeroPlace (by simp) hrest
    rw [if_pos hx, Magnitude.eq_zero_of_significand hx]
    exact hzero
  · have hread := Decimal.ofDecimal_shortest hx
    have hd := ne_zero_of_ofDecimal hx hread
    rw [if_neg hx, ← ofDecimal_sign hread negative]
    dsimp only
    split_ifs with hpoint
    · exact number_positional limit negative hd (by omega) hrest
    · exact number_scientific limit negative hd hrest

end Reader

/-! ## Control characters -/

theorem isDigit_printable (h : c.isDigit = true) : 0x20 ≤ c.toNat := by
  have hzero : '0' ≤ c := by
    simp only [Char.isDigit, Bool.and_eq_true, decide_eq_true_eq] at h
    exact h.1
  have hvalue : '0'.toNat ≤ c.toNat := hzero
  exact le_trans (by decide) hvalue

theorem intText_printable {m : Int} (h : c ∈ Decimal.intText m) : 0x20 ≤ c.toNat := by
  unfold Decimal.intText at h
  split_ifs at h
  · rcases List.mem_cons.mp h with rfl | h
    · decide
    · exact isDigit_printable (Decimal.isDigit_of_mem_digits h)
  · exact isDigit_printable (Decimal.isDigit_of_mem_digits h)

theorem positional_printable {point : Int} (hds : ∀ x ∈ ds, x.isDigit = true)
    (h : c ∈ Decimal.positional ds point) : 0x20 ≤ c.toNat := by
  have hchar : c = '0' ∨ c = '.' ∨ c ∈ ds := by
    unfold Decimal.positional at h
    split_ifs at h
    · simp only [List.mem_append, List.mem_cons, List.mem_replicate] at h
      tauto
    · simp only [List.mem_append, List.mem_cons, List.mem_replicate, List.not_mem_nil] at h
      tauto
    · rcases List.mem_append.mp h with h | h
      · exact .inr (.inr (List.mem_of_mem_take h))
      · rcases List.mem_cons.mp h with h | h
        · exact .inr (.inl h)
        · exact .inr (.inr (List.mem_of_mem_drop h))
  rcases hchar with rfl | rfl | hc
  · decide
  · decide
  · exact isDigit_printable (hds c hc)

theorem scientific_printable {e : Int} (hds : ∀ x ∈ ds, x.isDigit = true)
    (h : c ∈ Decimal.scientific ds e) : 0x20 ≤ c.toNat := by
  have hchar : c = '.' ∨ c = 'e' ∨ c = '-' ∨ c = '+' ∨ c ∈ ds ∨ c ∈ Decimal.padded 2 e.natAbs := by
    unfold Decimal.scientific at h
    rcases List.mem_append.mp h with h | h
    · split at h
      · simp only [List.mem_cons] at h ⊢
        tauto
      · tauto
    · split_ifs at h <;> simp only [List.mem_cons] at h <;> tauto
  rcases hchar with rfl | rfl | rfl | rfl | hc | hc
  · decide
  · decide
  · decide
  · decide
  · exact isDigit_printable (hds c hc)
  · exact isDigit_printable (Decimal.isDigit_of_mem_padded hc)

theorem finiteText_printable {negative : Bool} {x : Magnitude}
    (h : c ∈ Decimal.finiteText negative x) : 0x20 ≤ c.toNat := by
  have hmagnitude (h : c ∈ Decimal.magnitudeText x) : 0x20 ≤ c.toNat := by
    unfold Decimal.magnitudeText at h
    split_ifs at h
    · simp only [List.mem_cons, List.not_mem_nil, or_false] at h
      rcases h with rfl | rfl | rfl <;> decide
    · dsimp only at h
      split_ifs at h
      · exact positional_printable (fun _ => Decimal.isDigit_of_mem_digits) h
      · exact scientific_printable (fun _ => Decimal.isDigit_of_mem_digits) h
  unfold Decimal.finiteText at h
  split_ifs at h
  · rcases List.mem_cons.mp h with rfl | h
    · decide
    · exact hmagnitude h
  · exact hmagnitude h

end SalesDesk.Json
