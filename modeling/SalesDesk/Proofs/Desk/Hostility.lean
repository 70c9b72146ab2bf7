import SalesDesk.Proofs.Desk.Speaking

/-!
# Hostile messages

A trigger lends a message its sentiment where none is given, and an angry or threatening message is
not answered. A sentiment of blanks counts as given and says nothing: it hides the trigger, and the
message is answered as a calm one.
-/

namespace SalesDesk

open Quota

/-- A message with such a trigger is hostile. -/
def Alert.Kind.IsHostile (k : Kind) : Prop := k = .legalSituation ∨ k = .threat ∨ k = .anger

theorem Alert.Kind.IsHostile.sentiment {k : Kind} (h : k.IsHostile) :
    k.sentiment = some "anger" ∨ k.sentiment = some "threat" := by
  rcases h with rfl | rfl | rfl
  · exact Or.inr rfl
  · exact Or.inr rfl
  · exact Or.inl rfl

theorem effectiveSentiment_of_empty {given : Option String} (h : given.getD "" = "")
    (trigger : Alert.Trigger) :
    Desk.effectiveSentiment given (some trigger) = trigger.kind.sentiment := by
  cases given with
  | none => rfl
  | some s =>
    have hs : s = "" := h
    rw [hs]
    rfl

theorem effectiveSentiment_of_nonempty {given : Option String} (h : given.getD "" ≠ "")
    (trigger : Option Alert.Trigger) : Desk.effectiveSentiment given trigger = given := by
  cases given with
  | none => exact absurd rfl h
  | some s => exact if_neg h

theorem normalSentiment_of_blank {given : Option String}
    (h : ∀ c ∈ (given.getD "").toList, Text.isBlank c = true) : normalSentiment given = "" := by
  have hnothing : (given.getD "").toList.dropWhile Text.isBlank = [] :=
    List.dropWhile_eq_nil_iff.mpr h
  have hstrip : Text.strip (given.getD "") = "" := by
    rw [Text.strip, Text.trim, hnothing]
    rfl
  rw [normalSentiment, hstrip]
  rfl

namespace Desk

variable {d : Desk} {r : Incoming} {t : Timestamp} {trigger : Alert.Trigger}
  {result : Except Fault CycleOutcome} {after : Desk}

/-- A cycle does not answer: it is the same whatever is done while a generator is at work, sends
nothing to the client and nothing but alerts to others, and counts nothing. -/
structure Unanswered (d : Desk) (r : Incoming) (result : Except Fault CycleOutcome)
    (after : Desk) : Prop where
  unasked : ∀ errands, (cycle errands r).run d = (result, after)
  unwritten : ∀ o, result = .ok o → o.reply = none ∧ o.call = none
  unsaid : ∀ o, result = .ok o → o.action.outbound = none
  counters : after.ledger.counters = d.ledger.counters
  posts : ∃ posts, after.outbox.posts = d.outbox.posts ++ posts ∧
    ∀ p ∈ posts, ∃ text, d.settings.channel.post? text = some p

theorem Silent.unanswered {o : CycleOutcome} (h : d.Silent r o after) :
    d.Unanswered r (.ok o) after where
  unasked := h.unasked
  unwritten := by
    rintro _ ⟨⟩
    exact ⟨h.reply, h.call⟩
  unsaid := by
    rintro _ ⟨⟩
    exact h.outbound
  counters := h.counters
  posts := h.posts

/-- Entering a conversation and a tenant changes no view, even where the tenant cannot be entered. -/
theorem view_opened_eq (d : Desk) (r : Incoming) : (d.opened r).view = d.view := by
  let entered : Desk := { d with registry := d.registry.touch r.conversation }
  have hentered : entered.view = d.view := view_touch r.conversation
  cases ha : d.ledger.account r.tenant d.clock.toUtc with
  | ok a =>
    have haccount : entered.ledger.account r.tenant entered.clock.toUtc = .ok a := ha
    rw [opened_of_account ha]
    exact (view_entered haccount).trans hentered
  | error e =>
    rw [opened_of_account_error ha]
    exact hentered

/-- A cycle that ends in a fault, and has changed no view, does not answer. -/
theorem unanswered_of_fault {fault : Fault}
    (h : ∀ errands, (cycle errands r).run d = (.error fault, after)) (hview : after.view = d.view) :
    d.Unanswered r (.error fault) after where
  unasked := h
  unwritten _ ho := nomatch ho
  unsaid _ ho := nomatch ho
  counters := congrArg View.counters hview
  posts := by
    refine ⟨[], ?_, nofun⟩
    rw [List.append_nil]
    exact congrArg View.posts hview

/-- A cycle that may not speak does not answer, whatever comes of it. -/
theorem exists_unanswered (h : ∀ t, ¬ d.MaySpeak r t) :
    ∃ result after, d.Unanswered r result after := by
  cases hclock : d.clock.toUtc with
  | error e =>
    exact ⟨_, _, unanswered_of_fault (fun errands => run_cycle_of_unread hclock errands r)
      (view_opened_eq d r)⟩
  | ok t =>
    cases hhours : d.settings.isOpen t with
    | error e =>
      have hrun (errands : Errands) :
          (cycle errands r).run d = (.error (.hours e), d.opened r) := by
        rw [run_cycle hclock, hhours]
        rfl
      exact ⟨_, _, unanswered_of_fault hrun (view_opened_eq d r)⟩
    | ok inside =>
      obtain ⟨o, after, hsilent⟩ := exists_silent hclock hhours (h t)
      exact ⟨_, _, hsilent.unanswered⟩

theorem not_maySpeak_of_hostile (hgiven : r.sentiment.getD "" = "")
    (htrigger : d.trigger r = some trigger) (h : trigger.kind.IsHostile) : ¬ d.MaySpeak r t := by
  intro hmay
  have hcalm := hmay.notAngry
  have hpeaceful := hmay.notThreatening
  rw [htrigger, effectiveSentiment_of_empty hgiven] at hcalm hpeaceful
  rcases h.sentiment with hanger | hthreat
  · rw [hanger] at hcalm
    exact hcalm (by decide +kernel)
  · rw [hthreat] at hpeaceful
    exact hpeaceful (by decide +kernel)

/-- At noon, with nothing else going on, a hostile message with a sentiment of blanks is answered. -/
theorem exists_answered_of_blank {given : Option String}
    (hblank : ∀ c ∈ (given.getD "").toList, Text.isBlank c = true) (hgiven : given.getD "" ≠ "") :
    ∃ (d : Desk) (r : Incoming), r.sentiment = given ∧
      d.trigger r = some { kind := .legalSituation } ∧
      ∃ errands o after, (cycle errands r).run d = (.ok o, after) ∧
        ∃ text, o.action = .respondText text := by
  let noon : Timestamp := ⟨738000 * Timestamp.day + 43200 * Timestamp.second, some 0⟩
  let d : Desk := Desk.new {} none default noon
  let calm : Incoming :=
    { tenant := "shop", conversation := "chat", message := some "Je vais au tribunal" }
  let r : Incoming := { calm with sentiment := given }
  let errands : Errands := fun _ d => (none, d)
  have hsentiment : normalSentiment (effectiveSentiment r.sentiment (d.trigger r)) = "" := by
    rw [effectiveSentiment_of_nonempty hgiven, normalSentiment_of_blank hblank]
  have hmay : d.MaySpeak r noon := by
    refine ⟨?_, ?_, ?_, ?_, ?_, ?_, ?_⟩
    · change (d.registry.status calm.conversation).stopped = false
      decide +kernel
    · change (d.registry.status calm.conversation).state ≠ .escalated
      decide +kernel
    · change (d.registry.status calm.conversation).state ≠ .frozen
      decide +kernel
    · decide +kernel
    · change d.Below calm.tenant
      decide +kernel
    · rw [hsentiment]
      decide
    · rw [hsentiment]
      decide
  -- Nothing is written that depends on the sentiment.
  have hready : (d.answered errands calm).Ready calm.tenant :=
    ⟨⟨noon, by decide +kernel⟩, by decide +kernel⟩
  obtain ⟨o, after, hrun, hwords, -⟩ := @cycle_speaks_iff d r noon errands true rfl hmay.isOpen
    (fun _ hg => nomatch hg) fun _ => hready
  have hbelow : (d.answered errands calm).Below calm.tenant := by decide +kernel
  refine ⟨d, r, rfl, ?_, errands, o, after, hrun, hwords.mpr ⟨hmay, hbelow⟩⟩
  change d.trigger calm = _
  decide +kernel

/-- Among the sentiments that say nothing, just those that are not given, or given as an empty text,
leave every hostile message unanswered. -/
theorem hostile_unanswered_iff (given : Option String)
    (hblank : ∀ c ∈ (given.getD "").toList, Text.isBlank c = true) :
    (∀ (d : Desk) (r : Incoming) (trigger : Alert.Trigger), r.sentiment = given →
        d.trigger r = some trigger → trigger.kind.IsHostile →
        ∃ result after, d.Unanswered r result after) ↔
      given.getD "" = "" := by
  constructor
  · intro hall
    by_contra hgiven
    obtain ⟨d, r, hsentiment, htrigger, errands, o, after, hrun, text, haction⟩ :=
      exists_answered_of_blank hblank hgiven
    obtain ⟨result, last, hunanswered⟩ := hall d r _ hsentiment htrigger (Or.inl rfl)
    have hsame := hunanswered.unasked errands
    rw [hrun] at hsame
    have hresult : result = .ok o := (congrArg Prod.fst hsame).symm
    have hsilent := hunanswered.unsaid o hresult
    simp [haction, Action.outbound] at hsilent
  · intro hgiven d r trigger hsentiment htrigger hhostile
    apply exists_unanswered
    intro t
    apply not_maySpeak_of_hostile _ htrigger hhostile
    rw [hsentiment, hgiven]

/-- A message about a court, with no sentiment, is left to a human. -/
theorem hostile_unanswered_iff_court :
    let noon : Timestamp := ⟨738000 * Timestamp.day + 43200 * Timestamp.second, some 0⟩
    let d : Desk := Desk.new {} none default noon
    let r : Incoming := { tenant := "shop", conversation := "chat"
                          message := some "Je vais au tribunal" }
    (∀ c ∈ (r.sentiment.getD "").toList, Text.isBlank c = true) ∧
    d.trigger r = some { kind := .legalSituation } ∧ ∃ result after, d.Unanswered r result after := by
  intro noon d r
  have hblank : ∀ c ∈ (r.sentiment.getD "").toList, Text.isBlank c = true := by
    intro c hc
    have hnil : (r.sentiment.getD "").toList = [] := rfl
    rw [hnil] at hc
    exact absurd hc List.not_mem_nil
  have htrigger : d.trigger r = some { kind := .legalSituation } := by decide +kernel
  refine ⟨hblank, htrigger, ?_⟩
  exact (hostile_unanswered_iff none hblank).mpr rfl d r _ rfl htrigger (Or.inl rfl)

/-- The same message with a blank for its sentiment is answered, and the answer is counted. -/
theorem blank_sentiment_answered :
    let noon : Timestamp := ⟨738000 * Timestamp.day + 43200 * Timestamp.second, some 0⟩
    let generator : Generation.Generator := .rehearsed (.reply (.str "Bonjour !") (.str "stub"))
    let d : Desk := { Desk.new {} (some generator) default noon with
      catalogue := Catalogue.load [{ id := "soap", name := "Savon" }] }
    let r : Incoming := { tenant := "shop", conversation := "chat"
                          message := some "Je vais au tribunal", sentiment := some " "
                          product := some "soap" }
    let run := (cycle (fun _ d => (none, d)) r).run d
    d.trigger r = some { kind := .legalSituation } ∧
    run.1.toOption.map (·.action) = some (.respondText "Bonjour !") ∧
    (run.2.ledger.counters "shop").messagesToday = 1 := by
  intro noon generator d r run
  refine ⟨?_, ?_, ?_⟩
  all_goals decide +kernel

end Desk

end SalesDesk
