import SalesDesk.Text.LowerCase
import Mathlib.Data.List.TakeWhile
import Mathlib.Data.List.Infix

/-!
# Lower case in context

The lower case of a character does not depend on the characters around it, but for a capital sigma:
it becomes the final sigma at the end of a word. So a text keeps its lower case inside a longer one
just when each of its capital sigmas keeps its form there. A text keeps it everywhere just when each
of its capital sigmas is settled: then the text itself says whether a word ends there.
-/

namespace SalesDesk.Text

variable {seen rest cs before after front back : List Char} {c : Char}

/-- Does a capital sigma end a word here? `seen` holds the characters before, the last one first. -/
def endsWord (seen rest : List Char) : Bool := meetsCased seen && !meetsCased rest

/-- The lower-case form of a character among others. -/
def lowerAt (seen : List Char) (c : Char) (rest : List Char) : List Char :=
  if c = 'İ' then ['i', '\u0307']
  else if c = 'Σ' then [if endsWord seen rest then 'ς' else 'σ']
  else [lowerChar c]

/-- The lower-case form of a text before others. -/
def lowerWithin (seen : List Char) : List Char → List Char → List Char
  | [], _ => []
  | c :: rest, after => lowerAt seen c (rest ++ after) ++ lowerWithin (c :: seen) rest after

theorem lowerFrom_cons (seen : List Char) (c : Char) (rest : List Char) :
    lowerFrom seen (c :: rest) = lowerAt seen c rest ++ lowerFrom (c :: seen) rest :=
  rfl

theorem lowerFrom_append (seen cs after : List Char) :
    lowerFrom seen (cs ++ after) =
      lowerWithin seen cs after ++ lowerFrom (cs.reverse ++ seen) after := by
  induction cs generalizing seen with
  | nil => rfl
  | cons c rest ih =>
    rw [List.cons_append, lowerFrom_cons, ih, lowerWithin, List.append_assoc, List.reverse_cons,
      List.append_assoc, List.singleton_append]

theorem lowerWithin_nil (seen cs : List Char) : lowerWithin seen cs [] = lowerFrom seen cs := by
  have h := lowerFrom_append seen cs []
  rw [List.append_nil] at h
  simpa [lowerFrom] using h.symm

/-! ## The form of a capital sigma -/

theorem lowerAt_eq_iff (seen rest before after : List Char) (c : Char) :
    lowerAt seen c rest = lowerAt before c after ↔
      (c = 'Σ' → endsWord seen rest = endsWord before after) := by
  by_cases hsigma : c = 'Σ'
  · subst hsigma
    cases hhere : endsWord seen rest <;> cases hthere : endsWord before after <;>
      simp [lowerAt, hhere, hthere]
  · simp [lowerAt, hsigma]

theorem length_lowerAt (seen rest before after : List Char) (c : Char) :
    (lowerAt seen c rest).length = (lowerAt before c after).length := by
  unfold lowerAt
  split_ifs <;> rfl

theorem length_lowerWithin (seen before cs after : List Char) :
    (lowerWithin seen cs after).length = (lowerFrom before cs).length := by
  induction cs generalizing seen before with
  | nil => rfl
  | cons c rest ih =>
    rw [lowerWithin, lowerFrom_cons, List.length_append, List.length_append,
      ih (c :: seen) (c :: before), length_lowerAt]

/-- The places of the capital sigmas of a text, from its first character on. -/
theorem forall_sigma_cons {p : List Char → List Char → Prop} :
    (∀ front back, c :: rest = front ++ 'Σ' :: back → p front back) ↔
      (c = 'Σ' → p [] rest) ∧
        ∀ front back, rest = front ++ 'Σ' :: back → p (c :: front) back := by
  constructor
  · intro h
    refine ⟨fun hc => h [] rest ?_, fun front back hsplit => h (c :: front) back ?_⟩
    · rw [hc, List.nil_append]
    · rw [hsplit, List.cons_append]
  · intro h front back hsplit
    obtain ⟨hhere, hthere⟩ := h
    cases front with
    | nil =>
      obtain ⟨hc, hback⟩ := List.cons.inj hsplit
      rw [← hback]
      exact hhere hc
    | cons x xs =>
      obtain ⟨hx, hxs⟩ := List.cons.inj hsplit
      rw [← hx]
      exact hthere xs back hxs

/-- A text has one lower case in two contexts just when its capital sigmas have one form there. -/
theorem lowerWithin_eq_iff (seen before cs after : List Char) :
    lowerWithin (seen ++ before) cs after = lowerFrom seen cs ↔
      ∀ front back, cs = front ++ 'Σ' :: back →
        endsWord (front.reverse ++ (seen ++ before)) (back ++ after) =
          endsWord (front.reverse ++ seen) back := by
  induction cs generalizing seen with
  | nil => simp [lowerWithin, lowerFrom]
  | cons c rest ih =>
    have hsplit : lowerWithin (seen ++ before) (c :: rest) after = lowerFrom seen (c :: rest) ↔
        lowerAt (seen ++ before) c (rest ++ after) = lowerAt seen c rest ∧
          lowerWithin (c :: seen ++ before) rest after = lowerFrom (c :: seen) rest := by
      rw [lowerWithin, lowerFrom_cons]
      constructor
      · intro h
        exact List.append_inj h (length_lowerAt _ _ _ _ c)
      · intro h
        rw [h.1, ← h.2, List.cons_append]
    rw [hsplit, lowerAt_eq_iff, ih, forall_sigma_cons]
    simp only [List.reverse_nil, List.nil_append, List.reverse_cons, List.append_assoc,
      List.cons_append]

/-- Each capital sigma of a text has the form between two other texts that it has alone. -/
def KeepsForm (before cs after : List Char) : Prop :=
  ∀ front back, cs = front ++ 'Σ' :: back →
    endsWord (front.reverse ++ before.reverse) (back ++ after) = endsWord front.reverse back

theorem keepsForm_iff (before cs after : List Char) :
    KeepsForm before cs after ↔ lowerWithin before.reverse cs after = lowerChars cs := by
  have h := lowerWithin_eq_iff [] before.reverse cs after
  simp only [List.nil_append, List.append_nil] at h
  exact h.symm

theorem lowerChars_append_append (before cs after : List Char) :
    lowerChars (before ++ cs ++ after) = lowerWithin [] before (cs ++ after) ++
      lowerWithin before.reverse cs after ++ lowerFrom (cs.reverse ++ before.reverse) after := by
  rw [lowerChars, List.append_assoc, lowerFrom_append, List.append_nil, lowerFrom_append,
    List.append_assoc]

theorem KeepsForm.isInfix (h : KeepsForm before cs after) :
    lowerChars cs <:+: lowerChars (before ++ cs ++ after) := by
  rw [lowerChars_append_append, (keepsForm_iff _ _ _).mp h]
  exact ⟨_, _, rfl⟩

/-! ## Settled texts -/

/-- No capital sigma of a text has to look past its ends to tell whether a word ends there: unless a
letter follows, there is a character before it that is not passed over, and unless no letter is
before it, there is one after it. -/
def Settled (cs : List Char) : Prop :=
  ∀ front back, cs = front ++ 'Σ' :: back →
    (meetsCased back = true ∨ ∃ c ∈ front, isCaseIgnorable c = false) ∧
      (meetsCased front.reverse = false ∨ ∃ c ∈ back, isCaseIgnorable c = false)

theorem settled_of_notMem (h : 'Σ' ∉ cs) : Settled cs := by
  intro front back hsplit
  subst hsplit
  simp at h

theorem meetsCased_append_of_all (h : ∀ c ∈ front, isCaseIgnorable c = true) :
    meetsCased (front ++ back) = meetsCased back := by
  rw [meetsCased, meetsCased, List.dropWhile_append_of_pos h]

theorem meetsCased_of_all (h : ∀ c ∈ front, isCaseIgnorable c = true) :
    meetsCased front = false := by
  have happend : meetsCased (front ++ []) = meetsCased [] := meetsCased_append_of_all h
  rw [List.append_nil] at happend
  rw [happend]
  rfl

theorem meetsCased_append_of_exists (h : ∃ c ∈ front, isCaseIgnorable c = false) :
    meetsCased (front ++ back) = meetsCased front := by
  have hkept : front.dropWhile isCaseIgnorable ≠ [] := by
    obtain ⟨c, hc, hkeep⟩ := h
    intro hnil
    have hall := List.dropWhile_eq_nil_iff.mp hnil c hc
    simp [hkeep] at hall
  obtain ⟨x, xs, hdrop⟩ := List.exists_cons_of_ne_nil hkept
  have hwhole : (front ++ back).dropWhile isCaseIgnorable = x :: (xs ++ back) := by
    rw [List.dropWhile_append, hdrop]
    rfl
  rw [meetsCased, meetsCased, hwhole, hdrop]

theorem Settled.keepsForm (h : Settled cs) (before after : List Char) :
    KeepsForm before cs after := by
  intro front back hsplit
  obtain ⟨hfront, hback⟩ := h front back hsplit
  have hreverse (hkept : ∃ c ∈ front, isCaseIgnorable c = false) :
      meetsCased (front.reverse ++ before.reverse) = meetsCased front.reverse := by
    obtain ⟨c, hc, hkeep⟩ := hkept
    exact meetsCased_append_of_exists ⟨c, List.mem_reverse.mpr hc, hkeep⟩
  by_cases hafter : ∃ c ∈ back, isCaseIgnorable c = false
  · have hsame : meetsCased (back ++ after) = meetsCased back := meetsCased_append_of_exists hafter
    rcases hfront with hcased | hkept
    · simp [endsWord, hsame, hcased]
    · simp [endsWord, hsame, hreverse hkept]
  · have hnone : meetsCased front.reverse = false := hback.resolve_right hafter
    have hend : meetsCased back = false := by
      apply meetsCased_of_all
      intro c hc
      by_contra hkeep
      exact hafter ⟨c, hc, by simpa using hkeep⟩
    have hkept := hfront.resolve_left (by simp [hend])
    simp [endsWord, hreverse hkept, hnone]

/-! ## Texts that are not settled -/

theorem toNat_ofNat (n : Nat) : (Char.ofNat n).toNat = if n.isValidChar then n else 0 := by
  by_cases hvalid : n.isValidChar
  · rw [if_pos hvalid, Char.ofNat, dif_pos hvalid]
    rfl
  · rw [if_neg hvalid, Char.ofNat, dif_neg hvalid]
    rfl

/-- The only characters whose lower case is the letter a are the two of this letter. -/
theorem lowerChar_eq_a (h : lowerChar c = 'a') : c = 'a' ∨ c = 'A' := by
  have htable : ∀ r ∈ caseRuns, (r.first : Int) ≤ 97 - r.shift → 97 - r.shift ≤ r.last →
      97 - r.shift = 65 := by decide +kernel
  unfold lowerChar at h
  split at h
  · rename_i r hfound
    have hmem := List.mem_of_find?_eq_some hfound
    have hcontains := List.find?_some hfound
    simp only [CaseRun.contains, Bool.and_eq_true, decide_eq_true_eq] at hcontains
    have hcode : (c.toNat + r.shift).toNat = 97 := by
      have hsame := congrArg Char.toNat h
      rw [toNat_ofNat] at hsame
      split at hsame
      · exact hsame
      · cases hsame
    have hcapital := htable r hmem (by omega) (by omega)
    have hA : c.toNat = 'A'.toNat := by
      change c.toNat = 65
      omega
    exact Or.inr (Char.toNat_inj.mp hA)
  · exact Or.inl h

theorem notMem_lowerAt (h : isCaseIgnorable c = true ∨ c = 'Σ') : 'a' ∉ lowerAt seen c rest := by
  have hlower : lowerChar c ≠ 'a' := by
    intro ha
    have hkept : isCaseIgnorable c = false ∧ c ≠ 'Σ' := by
      rcases lowerChar_eq_a ha with hc | hc <;> rw [hc] <;> decide +kernel
    rcases h with h | h
    · rw [hkept.1] at h
      cases h
    · exact hkept.2 h
  unfold lowerAt
  split_ifs <;> simp [hlower.symm]

theorem notMem_lowerFrom (h : ∀ c ∈ cs, isCaseIgnorable c = true ∨ c = 'Σ') :
    'a' ∉ lowerFrom seen cs := by
  induction cs generalizing seen with
  | nil => simp [lowerFrom]
  | cons c rest ih =>
    rw [lowerFrom_cons, List.mem_append, not_or]
    exact ⟨notMem_lowerAt (h c List.mem_cons_self),
      ih fun x hx => h x (List.mem_cons_of_mem _ hx)⟩

theorem lowerAt_ne_nil (seen : List Char) (c : Char) (rest : List Char) :
    lowerAt seen c rest ≠ [] := by
  unfold lowerAt
  split_ifs <;> simp

/-- Where nothing before its first capital sigma can tell whether a word ends there, the lower case
of a text behind the letter A can be found at its own place only: no such text begins with an a. -/
theorem eq_of_infix_before (hfront : ∀ c ∈ front, isCaseIgnorable c = true)
    (h : lowerChars (front ++ 'Σ' :: back) <:+: lowerChars ('A' :: (front ++ 'Σ' :: back))) :
    lowerFrom ['A'] (front ++ 'Σ' :: back) = lowerChars (front ++ 'Σ' :: back) := by
  have hcapital : lowerChars ('A' :: (front ++ 'Σ' :: back)) =
      'a' :: lowerFrom ['A'] (front ++ 'Σ' :: back) := rfl
  rw [hcapital, List.infix_cons_iff] at h
  rcases h with hstart | hlater
  · obtain ⟨c, rest, hsplit, hc⟩ : ∃ c rest, front ++ 'Σ' :: back = c :: rest ∧
        (isCaseIgnorable c = true ∨ c = 'Σ') := by
      cases front with
      | nil => exact ⟨'Σ', back, rfl, Or.inr rfl⟩
      | cons c cs => exact ⟨c, cs ++ 'Σ' :: back, rfl, Or.inl (hfront c List.mem_cons_self)⟩
    rw [hsplit, lowerChars, lowerFrom_cons] at hstart
    obtain ⟨first, others, hfirst⟩ := List.exists_cons_of_ne_nil (lowerAt_ne_nil [] c rest)
    rw [hfirst, List.cons_append, List.cons_prefix_cons] at hstart
    have hmem : 'a' ∈ lowerAt [] c rest := by
      rw [hfirst, hstart.1]
      exact List.mem_cons_self
    exact absurd hmem (notMem_lowerAt hc)
  · refine (hlater.eq_of_length ?_).symm
    rw [← lowerWithin_nil ['A'], length_lowerWithin]
    rfl

/-- Where nothing after its last capital sigma can tell whether a word ends there, the lower case of a
text before the letter A can be found at its own place only: no such text ends in an a. -/
theorem eq_of_infix_after (hback : ∀ c ∈ back, isCaseIgnorable c = true)
    (h : lowerChars (front ++ 'Σ' :: back) <:+: lowerChars (front ++ 'Σ' :: back ++ ['A'])) :
    lowerWithin [] (front ++ 'Σ' :: back) ['A'] = lowerChars (front ++ 'Σ' :: back) := by
  have hcapital : lowerChars (front ++ 'Σ' :: back ++ ['A']) =
      lowerWithin [] (front ++ 'Σ' :: back) ['A'] ++ ['a'] := lowerFrom_append [] _ _
  rw [hcapital, List.infix_concat_iff] at h
  rcases h with hend | hearlier
  · have hnot : 'a' ∉ lowerFrom (front.reverse ++ []) ('Σ' :: back) := by
      apply notMem_lowerFrom
      intro c hc
      rcases List.mem_cons.mp hc with hsigma | hc
      · exact Or.inr hsigma
      · exact Or.inl (hback c hc)
    have hne : lowerFrom (front.reverse ++ []) ('Σ' :: back) ≠ [] := by
      rw [lowerFrom_cons]
      simp [lowerAt_ne_nil]
    rw [lowerChars, lowerFrom_append] at hend
    have hlast := hend.getLast (List.append_ne_nil_of_right_ne_nil _ hne)
    rw [List.getLast_append_of_ne_nil _ hne, List.getLast_concat] at hlast
    exact absurd (hlast ▸ List.getLast_mem hne) hnot
  · refine (hearlier.eq_of_length ?_).symm
    rw [length_lowerWithin]
    rfl

/-- A text is settled just when its lower case is found in that of every text that contains it. -/
theorem settled_iff_isInfix :
    Settled cs ↔ ∀ before after, lowerChars cs <:+: lowerChars (before ++ cs ++ after) := by
  constructor
  · intro h before after
    exact (h.keepsForm before after).isInfix
  · intro h front back hsplit
    constructor
    · by_contra hnot
      simp only [not_or, not_exists, not_and, Bool.not_eq_true, Bool.not_eq_false] at hnot
      obtain ⟨hend, hfront⟩ := hnot
      have hpart := h ['A'] []
      rw [List.append_nil, List.singleton_append, hsplit] at hpart
      have hsame := eq_of_infix_before hfront hpart
      rw [← lowerWithin_nil, ← hsplit] at hsame
      have hform := (keepsForm_iff ['A'] cs []).mpr hsame front back hsplit
      have hreverse : ∀ c ∈ front.reverse, isCaseIgnorable c = true := by simpa using hfront
      have hA : meetsCased ['A'] = true := by decide +kernel
      simp [endsWord, meetsCased_append_of_all hreverse, meetsCased_of_all hreverse, hend, hA] at hform
    · by_contra hnot
      simp only [not_or, not_exists, not_and, Bool.not_eq_false] at hnot
      obtain ⟨hseen, hback⟩ := hnot
      have hpart := h [] ['A']
      rw [List.nil_append, hsplit] at hpart
      have hsame := eq_of_infix_after hback hpart
      rw [← hsplit] at hsame
      have hform := (keepsForm_iff [] cs ['A']).mpr hsame front back hsplit
      have hA : meetsCased ['A'] = true := by decide +kernel
      simp [endsWord, meetsCased_append_of_all hback, meetsCased_of_all hback, hseen, hA] at hform

end SalesDesk.Text
