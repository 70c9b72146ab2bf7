import SalesDesk.Alert
import SalesDesk.Proofs.Text.LowerCase

/-!
# Noticing keywords

A detector compares lower-case forms, and gives the trigger of the first list with a keyword in the
message. So a keyword is noticed wherever it keeps its lower case: in every message that contains it,
if it is settled, and else in all but those in which one of its capital sigmas becomes a final sigma
or is no longer one.
-/

namespace SalesDesk

theorem Catalogue.contains_iff_isInfix (text part : List Char) :
    contains text part = true ↔ part <:+: text := by
  induction text with
  | nil => simp [contains, List.isPrefixOf_iff_prefix]
  | cons c rest ih =>
    rw [contains, Bool.or_eq_true, List.isPrefixOf_iff_prefix, ih, List.infix_cons_iff]

namespace Alert

open Text

/-- Kinds of triggers by their priority, the least important first. -/
def Kind.priority : Kind → Nat
  | repeatedMisunderstanding => 0
  | sensitiveWord => 1
  | anger => 2
  | threat => 3
  | legalSituation => 4

/-- The keywords for a kind of triggers. -/
def Detector.words (d : Detector) : Kind → List String
  | .repeatedMisunderstanding => []
  | .sensitiveWord => d.sensitive
  | .anger => d.anger
  | .threat => d.threats
  | .legalSituation => d.legal

variable {d : Detector} {kind : Kind} {message word : String} {n : Int}

theorem mentions_iff (message word : String) : mentions (lowerChars message.toList) word = true ↔
    lowerChars word.toList <:+: lowerChars message.toList :=
  Catalogue.contains_iff_isInfix _ _

/-- A message with a keyword has a trigger, and one that is at least as important. -/
theorem Detector.exists_detect_of_mentions (hword : word ∈ d.words kind)
    (h : mentions (lowerChars message.toList) word = true) :
    ∃ t, d.detect (some message) n = some t ∧ kind.priority ≤ t.kind.priority := by
  have hany (list : List String) (hmem : word ∈ list) :
      list.any (mentions (lowerChars message.toList)) = true :=
    List.any_eq_true.mpr ⟨word, hmem, h⟩
  -- A list that is passed over does not have the keyword, so its kind is none of those.
  simp only [detect, Option.getD_some]
  by_cases hlegal : d.legal.any (mentions (lowerChars message.toList)) = true
  · rw [if_pos hlegal]
    exact ⟨_, rfl, by cases kind <;> decide⟩
  rw [if_neg hlegal]
  by_cases hthreat : d.threats.any (mentions (lowerChars message.toList)) = true
  · rw [if_pos hthreat]
    refine ⟨_, rfl, ?_⟩
    cases kind with
    | legalSituation => exact absurd (hany _ hword) hlegal
    | _ => decide
  rw [if_neg hthreat]
  by_cases hanger : d.anger.any (mentions (lowerChars message.toList)) = true
  · rw [if_pos hanger]
    refine ⟨_, rfl, ?_⟩
    cases kind with
    | legalSituation => exact absurd (hany _ hword) hlegal
    | threat => exact absurd (hany _ hword) hthreat
    | _ => decide
  rw [if_neg hanger]
  cases kind with
  | legalSituation => exact absurd (hany _ hword) hlegal
  | threat => exact absurd (hany _ hword) hthreat
  | anger => exact absurd (hany _ hword) hanger
  | repeatedMisunderstanding => exact absurd hword List.not_mem_nil
  | sensitiveWord =>
    cases hfound : d.sensitive.find? (mentions (lowerChars message.toList)) with
    | some found => exact ⟨_, rfl, Nat.le_refl _⟩
    | none => exact absurd h (List.find?_eq_none.mp hfound word hword)

/-- Where a word is the only keyword, a message in which it is not found has no trigger. -/
theorem detect_of_not_mentions (h : mentions (lowerChars message.toList) word = false) :
    ({ legal := [word], threats := [], anger := [] } : Detector).detect (some message) 0 = none := by
  simp [Detector.detect, h]

/-- A keyword that keeps its form in a message is noticed there. Just the settled keywords are
noticed in every message that contains them, by every detector that has them. -/
theorem Detector.notices_iff_settled (word : String) :
    (∀ (before after : String), KeepsForm before.toList word.toList after.toList →
      ∀ (d : Detector) (kind : Kind) (n : Int), word ∈ d.words kind →
        ∃ t, d.detect (some (before ++ word ++ after)) n = some t ∧
          kind.priority ≤ t.kind.priority) ∧
    ((∀ (before after : String) (d : Detector) (kind : Kind) (n : Int), word ∈ d.words kind →
        ∃ t, d.detect (some (before ++ word ++ after)) n = some t ∧
          kind.priority ≤ t.kind.priority) ↔
      Settled word.toList) := by
  have hkept (before after : String) (h : KeepsForm before.toList word.toList after.toList)
      (d : Detector) (kind : Kind) (n : Int) (hword : word ∈ d.words kind) :
      ∃ t, d.detect (some (before ++ word ++ after)) n = some t ∧
        kind.priority ≤ t.kind.priority := by
    apply exists_detect_of_mentions hword
    rw [mentions_iff, String.toList_append, String.toList_append]
    exact h.isInfix
  refine ⟨hkept, ?_, ?_⟩
  · intro hall
    rw [settled_iff_isInfix]
    intro before after
    by_contra hnot
    obtain ⟨t, hdetect, -⟩ := hall (String.ofList before) (String.ofList after)
      { legal := [word], threats := [], anger := [] } .legalSituation 0 List.mem_cons_self
    rw [detect_of_not_mentions] at hdetect
    · cases hdetect
    · rw [← Bool.not_eq_true, mentions_iff]
      simpa using hnot
  · intro hsettled before after
    exact hkept before after (hsettled.keepsForm _ _)

/-- A threat is noticed beside an angry word. -/
theorem Detector.notices_iff_settled_threat :
    Settled "détruire".toList ∧ "détruire" ∈ ({} : Detector).words .threat ∧
    ∃ t, ({} : Detector).detect (some "Arnaque ! Je vais tout détruire.") 0 = some t ∧
      Kind.threat.priority ≤ t.kind.priority := by
  have hsettled : Settled "détruire".toList := settled_of_notMem (by decide)
  have hword : "détruire" ∈ ({} : Detector).words .threat := by decide
  refine ⟨hsettled, hword, ?_⟩
  exact (notices_iff_settled "détruire").2.mpr hsettled "Arnaque ! Je vais tout " "." {} .threat 0 hword

/-- The law, a keyword in capitals, is not noticed in a bill, although its letters are all there: it
ends in a final sigma, and the bill goes on with another letter. -/
theorem Detector.unsettled_unnoticed :
    "ΝΟΜΟΣ" ∈ ({ legal := ["ΝΟΜΟΣ"] } : Detector).words .legalSituation ∧
    "ΝΟΜΟΣΧΕΔΙΟ" = "" ++ "ΝΟΜΟΣ" ++ "ΧΕΔΙΟ" ∧
    ({ legal := ["ΝΟΜΟΣ"] } : Detector).detect (some "ΝΟΜΟΣΧΕΔΙΟ") 0 = none := by
  refine ⟨by decide, by decide, by decide +kernel⟩

end Alert

end SalesDesk
