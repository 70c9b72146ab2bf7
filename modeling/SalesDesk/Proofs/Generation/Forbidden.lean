import SalesDesk.Generation.Guard
import Mathlib.Data.List.Basic

/-!
# Forbidden terms

A term occurs in a text at a position when the characters of the text from there on are those of the
term, up to case, and when a short term touches no character of a word there. The search of the guard
finds a term exactly when there is such a position, and the guard names the first term for which
there is one.
-/

namespace SalesDesk

/-- Two characters have the same lower case, or lower cases in one class. -/
def Text.CaseEquivalent (a b : Char) : Prop :=
  lowerChar a = lowerChar b ∨
    ∃ k ∈ caseClasses, (lowerChar a).toNat ∈ k ∧ (lowerChar b).toNat ∈ k

theorem Text.alike_iff {a b : Char} : Text.alike a b = true ↔ Text.CaseEquivalent a b := by
  simp [alike, CaseEquivalent]

namespace Generation

variable {term text after : List Char} {i : Nat}

/-- A character that continues a word. -/
def InWord (c : Char) : Prop :=
  Text.isAlphanumeric c = true ∨ c = '_' ∨ c = '\'' ∨ c = '’'

theorem isWordChar_iff {c : Char} : isWordChar c = true ↔ InWord c := by
  simp [isWordChar, InWord, or_assoc]

/-- A term occurs in a text at a position. -/
structure OccursAt (term text : List Char) (i : Nat) : Prop where
  fits : i + term.length ≤ text.length
  same : ∀ j w c, term[j]? = some w → text[i + j]? = some c → Text.CaseEquivalent w c
  /-- A term of at most three characters touches no character of a word. -/
  whole : term.length ≤ 3 →
    (∀ k c, k + 1 = i → text[k]? = some c → ¬ InWord c) ∧
      ∀ c, text[i + term.length]? = some c → ¬ InWord c

def Occurs (term text : String) : Prop := ∃ i, OccursAt term.toList text.toList i

/-! ## The search -/

/-- A term stands at the front of a text just when all its characters do. -/
theorem dropTerm_eq_some_iff : dropTerm term text = some after ↔
    term.length ≤ text.length ∧ text.drop term.length = after ∧
      ∀ (j : Nat) w c, term[j]? = some w → text[j]? = some c → Text.CaseEquivalent w c := by
  induction term generalizing text with
  | nil => simp [dropTerm]
  | cons w ws ih =>
    cases text with
    | nil => simp [dropTerm]
    | cons c cs =>
      have hsplit : (∀ (j : Nat) x y, (w :: ws)[j]? = some x → (c :: cs)[j]? = some y →
            Text.CaseEquivalent x y) ↔
          Text.CaseEquivalent w c ∧
            ∀ (j : Nat) x y, ws[j]? = some x → cs[j]? = some y → Text.CaseEquivalent x y := by
        constructor
        · intro h
          exact ⟨h 0 w c rfl rfl, fun j x y hx hy => h (j + 1) x y hx hy⟩
        · rintro ⟨hfirst, hrest⟩ j x y hx hy
          cases j with
          | zero =>
            cases hx
            cases hy
            exact hfirst
          | succ j => exact hrest j x y hx hy
      rw [hsplit, ← Text.alike_iff, dropTerm]
      by_cases halike : Text.alike w c = true
      · simp [halike, ih]
      · simp [halike]

/-- Occurring behind some characters depends on the last of them alone. -/
theorem occursAt_append_iff (front text : List Char) :
    OccursAt term (front ++ text) front.length ↔
      (term.length ≤ text.length ∧
        ∀ (j : Nat) w c, term[j]? = some w → text[j]? = some c → Text.CaseEquivalent w c) ∧
      (term.length ≤ 3 → (∀ c, front.getLast? = some c → ¬ InWord c) ∧
        ∀ c, text[term.length]? = some c → ¬ InWord c) := by
  have hbehind (j : Nat) : (front ++ text)[front.length + j]? = text[j]? := by
    rw [List.getElem?_append_right (by omega), Nat.add_sub_cancel_left]
  have hbefore : (∀ (k : Nat) c, k + 1 = front.length → (front ++ text)[k]? = some c → ¬ InWord c) ↔
      ∀ c, front.getLast? = some c → ¬ InWord c := by
    rw [List.getLast?_eq_getElem?]
    constructor
    · intro h c hc
      obtain ⟨hlt, -⟩ := List.getElem?_eq_some_iff.mp hc
      refine h (front.length - 1) c (by omega) ?_
      rwa [List.getElem?_append_left hlt]
    · intro h k c hk hc
      rw [List.getElem?_append_left (by omega)] at hc
      exact h c (by rwa [← hk, Nat.add_sub_cancel])
  constructor
  · intro h
    have hfits := h.fits
    have hsame := h.same
    have hwhole := h.whole
    simp only [hbehind, hbefore] at hsame hwhole
    rw [List.length_append] at hfits
    exact ⟨⟨by omega, hsame⟩, hwhole⟩
  · rintro ⟨⟨hfits, hsame⟩, hwhole⟩
    refine ⟨by rw [List.length_append]; omega, ?_, ?_⟩
    · simpa only [hbehind] using hsame
    · simpa only [hbehind, hbefore] using hwhole

theorem occursHere_iff (front text : List Char) :
    occursHere term front.getLast? text = true ↔ OccursAt term (front ++ text) front.length := by
  have hword (o : Option Char) : (!o.any isWordChar) = true ↔ ∀ c, o = some c → ¬ InWord c := by
    cases o <;> simp [← isWordChar_iff]
  rw [occursAt_append_iff]
  unfold occursHere
  cases hdrop : dropTerm term text with
  | none =>
    simp only [Bool.false_eq_true, false_iff]
    rintro ⟨⟨hfits, hsame⟩, -⟩
    have hsome := dropTerm_eq_some_iff.mpr ⟨hfits, rfl, hsame⟩
    rw [hdrop] at hsome
    cases hsome
  | some after =>
    obtain ⟨hfits, rfl, hsame⟩ := dropTerm_eq_some_iff.mp hdrop
    simp only [Bool.or_eq_true, decide_eq_true_eq, Bool.and_eq_true, hword, List.head?_drop]
    constructor
    · rintro (hlong | hwhole)
      · exact ⟨⟨hfits, hsame⟩, fun hshort => absurd hshort (Nat.not_le_of_lt hlong)⟩
      · exact ⟨⟨hfits, hsame⟩, fun _ => hwhole⟩
    · rintro ⟨-, hwhole⟩
      by_cases hlong : 3 < term.length
      · exact Or.inl hlong
      · exact Or.inr (hwhole (by omega))

/-- The search goes through all positions from the front on. -/
theorem occursFrom_iff (front text : List Char) : occursFrom term front.getLast? text = true ↔
    ∃ i, front.length ≤ i ∧ OccursAt term (front ++ text) i := by
  induction text generalizing front with
  | nil =>
    rw [occursFrom, Bool.or_false, occursHere_iff]
    constructor
    · intro h
      exact ⟨_, Nat.le_refl _, h⟩
    · rintro ⟨i, hle, h⟩
      have hfits := h.fits
      rw [List.append_nil] at hfits
      obtain rfl : i = front.length := by omega
      exact h
  | cons c rest ih =>
    have hnext := ih (front ++ [c])
    rw [List.getLast?_concat, List.append_assoc, List.length_append] at hnext
    rw [occursFrom, Bool.or_eq_true, occursHere_iff, hnext]
    constructor
    · rintro (h | ⟨i, hle, h⟩)
      · exact ⟨_, Nat.le_refl _, h⟩
      · exact ⟨i, Nat.le_of_succ_le hle, h⟩
    · rintro ⟨i, hle, h⟩
      by_cases hi : i = front.length
      · exact Or.inl (hi ▸ h)
      · exact Or.inr ⟨i, by simp only [List.length_singleton]; omega, h⟩

theorem occursFrom_none_iff {term text : String} :
    occursFrom term.toList none text.toList = true ↔ Occurs term text := by
  have hall : occursFrom term.toList List.nil.getLast? text.toList = true ↔ _ :=
    occursFrom_iff [] text.toList
  simpa [Occurs] using hall

/-! ## The guard -/

/-- The first of some terms that occurs in a text; the empty term is none. -/
def FirstOccurring (terms : List String) (text word : String) : Prop :=
  ∃ earlier later, terms = earlier ++ word :: later ∧ word ≠ "" ∧ Occurs word text ∧
    ∀ other ∈ earlier, other ≠ "" → ¬ Occurs other text

namespace Guard

variable {g : Guard} {text word : String}

theorem isForbidden_iff :
    (word ≠ "" && occursFrom word.toList none text.toList) = true ↔ word ≠ "" ∧ Occurs word text := by
  rw [Bool.and_eq_true, decide_eq_true_eq, occursFrom_none_iff]

theorem forbiddenIn?_eq_some_iff :
    g.forbiddenIn? text = some word ↔ FirstOccurring g.forbidden text word := by
  rw [forbiddenIn?, List.find?_eq_some_iff_append]
  simp only [Bool.not_eq_true', ← Bool.not_eq_true, isForbidden_iff, not_and]
  constructor
  · rintro ⟨⟨hword, hoccurs⟩, earlier, later, hterms, hnone⟩
    exact ⟨earlier, later, hterms, hword, hoccurs, hnone⟩
  · rintro ⟨earlier, later, hterms, hword, hoccurs, hnone⟩
    exact ⟨⟨hword, hoccurs⟩, earlier, later, hterms, hnone⟩

theorem forbiddenIn?_eq_none_iff : g.forbiddenIn? text = none ↔
    ∀ word ∈ g.forbidden, word ≠ "" → ¬ Occurs word text := by
  simp only [forbiddenIn?, List.find?_eq_none, isForbidden_iff, not_and]

end Guard

end Generation

end SalesDesk
