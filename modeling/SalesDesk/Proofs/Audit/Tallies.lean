import SalesDesk.Audit.Report
import Mathlib.Algebra.Ring.Nat
import Mathlib.Data.Finset.Card
import Mathlib.Data.List.Induction

/-!
# Tallies

A tally has one entry for every name that occurs, with the number of its occurrences. So its numbers
add up to the number of all names, it has as many entries as there are distinct names, and it is
the tally of the names in every other order.
-/

namespace SalesDesk.Audit.Tally

variable {t other : Tally} {name : Option String} {n : Option String} {k : Nat}
  {names later : List (Option String)}

/-- The names that have an entry. -/
def entered (t : Tally) : List (Option String) := t.map Prod.fst

def total (t : Tally) : Nat := (t.map Prod.snd).sum

theorem mem_entered_iff : n ∈ t.entered ↔ ∃ k, (n, k) ∈ t := by
  simp [entered]

/-! ## Counting one more name -/

theorem count_cons_self (name : Option String) (k : Nat) (rest : Tally) :
    count ((name, k) :: rest) name = (name, k + 1) :: rest :=
  if_pos rfl

theorem count_cons_of_ne (h : n ≠ name) (k : Nat) (rest : Tally) :
    count ((n, k) :: rest) name = (n, k) :: count rest name :=
  if_neg h

theorem entered_count (t : Tally) (name : Option String) : (t.count name).entered =
    if name ∈ t.entered then t.entered else t.entered ++ [name] := by
  induction t with
  | nil => rfl
  | cons e rest ih =>
    obtain ⟨n, k⟩ := e
    by_cases hn : n = name
    · subst hn
      rw [count_cons_self]
      simp [entered]
    · have hcons (l : Tally) : entered ((n, k) :: l) = n :: l.entered := rfl
      rw [count_cons_of_ne hn, hcons, hcons, ih]
      by_cases hmem : name ∈ entered rest
      · simp [hmem]
      · simp [hmem, Ne.symm hn]

theorem nodup_entered_count (h : t.entered.Nodup) (name : Option String) :
    (t.count name).entered.Nodup := by
  rw [entered_count]
  by_cases hmem : name ∈ t.entered
  · rwa [if_pos hmem]
  · rw [if_neg hmem, ← List.concat_eq_append]
    exact h.concat hmem

theorem total_count (t : Tally) (name : Option String) : (t.count name).total = t.total + 1 := by
  induction t with
  | nil => rfl
  | cons e rest ih =>
    obtain ⟨n, k⟩ := e
    have hcons (k : Nat) (l : Tally) : total ((n, k) :: l) = k + l.total := by simp [total]
    by_cases hn : n = name
    · subst hn
      rw [count_cons_self, hcons, hcons]
      omega
    · rw [count_cons_of_ne hn, hcons, hcons, ih]
      omega

theorem mem_count_of_ne (h : n ≠ name) : (n, k) ∈ t.count name ↔ (n, k) ∈ t := by
  induction t with
  | nil => simp [count, h]
  | cons e rest ih =>
    obtain ⟨m, j⟩ := e
    by_cases hm : m = name
    · subst hm
      simp [count_cons_self, h]
    · simp [count_cons_of_ne hm, ih]

/-- The entry of a name that is counted is one more, or a new one. -/
theorem mem_count_self (h : t.entered.Nodup) : (name, k) ∈ t.count name ↔
    (∃ j, (name, j) ∈ t ∧ k = j + 1) ∨ name ∉ t.entered ∧ k = 1 := by
  induction t with
  | nil => simp [count, entered]
  | cons e rest ih =>
    obtain ⟨m, j⟩ := e
    obtain ⟨hnew, hrest⟩ := List.nodup_cons.mp h
    by_cases hm : m = name
    · subst hm
      have habsent (i : Nat) : (m, i) ∉ rest := fun hmem => hnew (mem_entered_iff.mpr ⟨i, hmem⟩)
      simp [count_cons_self, habsent, entered]
    · have hsame : name ∈ entered ((m, j) :: rest) ↔ name ∈ entered rest := by
        simp [entered, Ne.symm hm]
      rw [count_cons_of_ne hm, List.mem_cons, ih hrest, hsame]
      simp [Ne.symm hm]

/-! ## The tally of some names -/

/-- The entries of a tally are the names that occur, each once, with how often it occurs. -/
structure Counts (t : Tally) (names : List (Option String)) : Prop where
  distinct : t.entered.Nodup
  mem_iff : ∀ n k, (n, k) ∈ t ↔ 0 < k ∧ k = names.count n
  total : t.total = names.length

theorem Counts.mem_entered_iff (h : t.Counts names) : n ∈ t.entered ↔ n ∈ names := by
  rw [Tally.mem_entered_iff, ← List.count_pos_iff]
  constructor
  · rintro ⟨k, hmem⟩
    obtain ⟨hpos, rfl⟩ := (h.mem_iff n k).mp hmem
    exact hpos
  · exact fun hpos => ⟨_, (h.mem_iff n _).mpr ⟨hpos, rfl⟩⟩

theorem counts_nil : Counts [] [] := by
  refine ⟨List.nodup_nil, fun n k => ?_, rfl⟩
  simp only [List.not_mem_nil, List.count_nil, false_iff]
  omega

theorem Counts.count (h : t.Counts names) (name : Option String) :
    (t.count name).Counts (names ++ [name]) := by
  refine ⟨nodup_entered_count h.distinct name, fun n k => ?_, ?_⟩
  · by_cases hn : n = name
    · subst hn
      have hone : (names ++ [n]).count n = names.count n + 1 := by simp
      rw [mem_count_self h.distinct, h.mem_entered_iff, hone]
      constructor
      · rintro (⟨j, hj, rfl⟩ | ⟨hnew, rfl⟩)
        · obtain ⟨-, rfl⟩ := (h.mem_iff n j).mp hj
          exact ⟨Nat.succ_pos _, rfl⟩
        · rw [List.count_eq_zero_of_not_mem hnew]
          exact ⟨Nat.one_pos, rfl⟩
      · rintro ⟨-, rfl⟩
        by_cases hmem : n ∈ names
        · exact Or.inl ⟨_, (h.mem_iff n _).mpr ⟨List.count_pos_iff.mpr hmem, rfl⟩, rfl⟩
        · exact Or.inr ⟨hmem, by rw [List.count_eq_zero_of_not_mem hmem]⟩
    · have hsame : (names ++ [name]).count n = names.count n := by
        simp [Ne.symm hn]
      rw [mem_count_of_ne hn, h.mem_iff, hsame]
  · rw [total_count, h.total, List.length_append]
    rfl

theorem counts_ofNames (names : List (Option String)) : (ofNames names).Counts names := by
  induction names using List.reverseRecOn with
  | nil => exact counts_nil
  | append_singleton names name ih =>
    have hconcat : ofNames (names ++ [name]) = (ofNames names).count name := by
      simp [ofNames, List.foldl_append]
    rw [hconcat]
    exact ih.count name

/-- The order of the names does not matter. -/
theorem Counts.of_perm (h : t.Counts names) (hperm : names.Perm later) : t.Counts later where
  distinct := h.distinct
  mem_iff n k := by rw [h.mem_iff, hperm.count_eq]
  total := h.total.trans hperm.length_eq

/-- Two tallies of the same names have the same entries. -/
theorem Counts.perm (h : t.Counts names) (hother : other.Counts names) : t.Perm other := by
  refine (List.perm_ext_iff_of_nodup (.of_map _ h.distinct) (.of_map _ hother.distinct)).mpr ?_
  rintro ⟨n, k⟩
  rw [h.mem_iff, hother.mem_iff]

theorem Counts.length_eq (h : t.Counts names) : t.length = names.toFinset.card := by
  have hperm : t.entered.Perm names.dedup :=
    (List.perm_ext_iff_of_nodup h.distinct names.nodup_dedup).mpr fun n => by
      rw [h.mem_entered_iff, List.mem_dedup]
  rw [List.card_toFinset, ← hperm.length_eq, entered, List.length_map]

end SalesDesk.Audit.Tally
