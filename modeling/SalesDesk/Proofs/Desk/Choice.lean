import SalesDesk.Proofs.Desk.View

/-!
# The first choice of a cycle

A cycle first chooses to answer where automation runs, the conversation is not left to humans, the
hours are open, the tenant is below its limits and the message is calm. Everywhere else it chooses
something that sends nothing.
-/

namespace SalesDesk

open Quota

/-- The first rule that applies sends nothing and names what speaks against an answer; without such
a rule the answer has no words yet. -/
theorem Situation.decide_cases (c : Situation) :
    (c.decide = .respondText "" ∧ c.isActiveHours = true ∧ c.quotasAvailable = true ∧
      normalSentiment c.sentiment ≠ "anger" ∧ normalSentiment c.sentiment ≠ "threat") ∨
    (c.decide.outbound = none ∧ (c.isActiveHours = false ∨ c.quotasAvailable = false ∨
      normalSentiment c.sentiment = "anger" ∨ normalSentiment c.sentiment = "threat")) := by
  unfold Situation.decide
  cases hinside : c.isActiveHours with
  | false => exact Or.inr ⟨rfl, Or.inl rfl⟩
  | true =>
    cases hquota : c.quotasAvailable with
    | false => exact Or.inr ⟨rfl, Or.inr (Or.inl rfl)⟩
    | true =>
      by_cases hsentiment : alertSentiments.contains (normalSentiment c.sentiment) = true
      · have hnamed : normalSentiment c.sentiment = "anger" ∨
            normalSentiment c.sentiment = "threat" := by
          simpa [alertSentiments] using hsentiment
        refine Or.inr ⟨?_, Or.inr (Or.inr hnamed)⟩
        simp only [hsentiment]
        rfl
      · have hcalm : ¬ (normalSentiment c.sentiment = "anger" ∨
            normalSentiment c.sentiment = "threat") := by
          simpa [alertSentiments] using hsentiment
        refine Or.inl ⟨?_, rfl, rfl, fun h => hcalm (Or.inl h), fun h => hcalm (Or.inr h)⟩
        simp only [hsentiment]
        rfl

namespace Desk

variable {d : Desk} {r : Incoming} {t : Timestamp} {inside : Bool}

/-- A tenant is below both limits of its messages. -/
def Below (d : Desk) (tenant : String) : Prop :=
  (d.ledger.counters tenant).messagesToday < (d.ledger.limitsOf tenant).messagesPerDay ∧
  (d.ledger.counters tenant).messagesThisWeek < (d.ledger.limitsOf tenant).messagesPerWeek

instance (d : Desk) (tenant : String) : Decidable (d.Below tenant) :=
  inferInstanceAs (Decidable (_ ∧ _))

def trigger (d : Desk) (r : Incoming) : Option Alert.Trigger :=
  d.settings.detector.detect r.message r.misunderstandings

/-- The conditions under which a cycle has a reply generated. -/
structure MaySpeak (d : Desk) (r : Incoming) (t : Timestamp) : Prop where
  running : (d.registry.status r.conversation).stopped = false
  notEscalated : (d.registry.status r.conversation).state ≠ .escalated
  notFrozen : (d.registry.status r.conversation).state ≠ .frozen
  isOpen : d.settings.isOpen t = .ok true
  below : d.Below r.tenant
  notAngry : normalSentiment (effectiveSentiment r.sentiment (d.trigger r)) ≠ "anger"
  notThreatening : normalSentiment (effectiveSentiment r.sentiment (d.trigger r)) ≠ "threat"

def situation (d : Desk) (r : Incoming) (inside : Bool) : Situation :=
  { message := r.message
    state := (d.registry.status r.conversation).state
    quotasAvailable := d.view.canSend r.tenant
    isActiveHours := inside
    sentiment := effectiveSentiment r.sentiment (d.trigger r) }

theorem canSend_iff (d : Desk) (tenant : String) :
    d.view.canSend tenant = true ↔ d.Below tenant := by
  change (d.ledger.counters tenant).canSendMessage (d.ledger.limitsOf tenant) = true ↔ _
  simp only [Snapshot.canSendMessage, Below, Bool.and_eq_true, decide_eq_true_eq]

theorem isTerminal_eq_false_iff (s : Conversation.State) :
    s.isTerminal = false ↔ s ≠ .escalated ∧ s ≠ .frozen := by
  cases s <;> decide

/-- The first choice is to answer just when a cycle may speak; any other choice sends nothing, and
is to stop where automation is stopped. -/
theorem choose_cases (hhours : d.settings.isOpen t = .ok inside) :
    (d.MaySpeak r t ∧ choose (d.registry.status r.conversation) (d.situation r inside) =
      .respondText "") ∨
    (¬ d.MaySpeak r t ∧
      (choose (d.registry.status r.conversation) (d.situation r inside)).outbound = none ∧
      ((d.registry.status r.conversation).stopped = true →
        choose (d.registry.status r.conversation) (d.situation r inside) = .stopAutomation)) := by
  cases hstopped : (d.registry.status r.conversation).stopped with
  | true =>
    refine Or.inr ⟨fun h => ?_, ?_, fun _ => ?_⟩
    · simp [h.running] at hstopped
    · simp [choose, hstopped, Action.outbound]
    · simp [choose, hstopped]
  | false =>
    rcases (d.situation r inside).decide_cases with
      ⟨hdecide, hinside, hquota, hanger, hthreat⟩ | ⟨hsilent, hagainst⟩
    · cases hterminal : (d.registry.status r.conversation).state.isTerminal with
      | true =>
        refine Or.inr ⟨fun h => ?_, ?_, by simp⟩
        · have hopen := (isTerminal_eq_false_iff _).mpr ⟨h.notEscalated, h.notFrozen⟩
          simp [hopen] at hterminal
        · simp [choose, hstopped, hdecide, hterminal, Action.isSending, Action.outbound]
      | false =>
        obtain ⟨hescalated, hfrozen⟩ := (isTerminal_eq_false_iff _).mp hterminal
        have hopen : inside = true := hinside
        rw [hopen] at hhours
        refine Or.inl ⟨⟨hstopped, hescalated, hfrozen, hhours, (canSend_iff d r.tenant).mp hquota,
          hanger, hthreat⟩, ?_⟩
        simp [choose, hstopped, hdecide, hterminal]
    · have hfirst : choose (d.registry.status r.conversation) (d.situation r inside) =
          (d.situation r inside).decide := by
        simp [choose, hstopped, Action.isSending, hsilent]
      refine Or.inr ⟨fun h => ?_, by rw [hfirst]; exact hsilent, by simp⟩
      rcases hagainst with hinside | hquota | hanger | hthreat
      · have hclosed : inside = false := hinside
        simp [h.isOpen, hclosed] at hhours
      · have hcan := (canSend_iff d r.tenant).mpr h.below
        have hcannot : d.view.canSend r.tenant = false := hquota
        simp [hcannot] at hcan
      · exact h.notAngry hanger
      · exact h.notThreatening hthreat

end Desk

end SalesDesk
