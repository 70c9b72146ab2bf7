import SalesDesk.Conversation.State

/-!
# Runs of a conversation

Events come one after another. A run on names, in which anything may stand for a name, is the run on
states and events: names of no event are passed over, and from a name of no state nothing happens. On
the way a conversation that is frozen stays frozen, one that is terminal stays terminal, and a
negative one is only left for the freeze.
-/

namespace SalesDesk.Conversation

variable {s last : State} {e : Event} {v start : Json}

/-! ## Names -/

theorem State.named?_name (s : State) : named? s.name = some s := by
  cases s <;> decide

theorem State.named?_eq_some_iff {name : String} : named? name = some s ↔ name = s.name := by
  constructor
  · intro h
    have hname := List.find?_some h
    exact (of_decide_eq_true hname).symm
  · rintro rfl
    exact named?_name s

theorem State.ofJson?_name (s : State) : ofJson? (.str s.name) = some s := named?_name s

theorem State.ofJson?_eq_some_iff : ofJson? v = some s ↔ v = .str s.name := by
  cases v with
  | str name => simp [ofJson?, named?_eq_some_iff]
  | _ => simp [ofJson?]

theorem State.ofJson?_eq_none_iff : ofJson? v = none ↔ ∀ s : State, v ≠ .str s.name := by
  simp only [Option.eq_none_iff_forall_ne_some, ne_eq, ofJson?_eq_some_iff]

theorem nextByName_unknown (h : State.ofJson? start = none) (event : Json) :
    (nextByName start event).1 = start := by
  simp only [nextByName, h]

/-- On the name of a state, a name of no event does nothing. -/
theorem nextByName_name (s : State) (event : Json) : (nextByName (.str s.name) event).1 =
    .str ((Event.ofJson? event).elim s s.next).name := by
  unfold nextByName
  rw [State.ofJson?_name]
  cases Event.ofJson? event <;> rfl

/-! ## One event -/

/-- No event leads out of a terminal state. -/
theorem State.isTerminal_next {s : State} (h : s.isTerminal = true) (e : Event) :
    (s.next e).isTerminal = true := by
  cases s with
  | escalated => cases e <;> decide
  | frozen => cases e <;> decide
  | _ => simp [isTerminal] at h

theorem State.next_frozen (e : Event) : State.frozen.next e = .frozen := by
  cases e <;> decide

theorem State.next_negative (e : Event) :
    State.negative.next e = .negative ∨ State.negative.next e = .frozen := by
  cases e <;> decide

/-- What a state that follows another one keeps of it. -/
structure State.Follows (s last : State) : Prop where
  terminal : s.isTerminal = true → last.isTerminal = true
  frozen : s = .frozen → last = .frozen
  negative : s = .negative → last = .negative ∨ last = .frozen

namespace State.Follows

theorem refl (s : State) : s.Follows s := ⟨id, id, Or.inl⟩

theorem trans {between : State} (h : s.Follows between) (hlast : between.Follows last) :
    s.Follows last where
  terminal hs := hlast.terminal (h.terminal hs)
  frozen hs := hlast.frozen (h.frozen hs)
  negative hs := (h.negative hs).elim hlast.negative fun hfrozen => .inr (hlast.frozen hfrozen)

theorem next (s : State) (e : Event) : s.Follows (s.next e) where
  terminal hs := isTerminal_next hs e
  frozen hs := hs ▸ next_frozen e
  negative hs := hs ▸ next_negative e

end State.Follows

/-! ## Runs -/

/-- The state after some events. -/
def State.run (s : State) (events : List Event) : State := events.foldl State.next s

/-- The name after some events, all given by names. -/
def runByName (start : Json) (events : List Json) : Json :=
  events.foldl (fun name event => (nextByName name event).1) start

theorem State.follows_run (s : State) (events : List Event) : s.Follows (s.run events) := by
  induction events generalizing s with
  | nil => exact .refl s
  | cons e events ih => exact (State.Follows.next s e).trans (ih (s.next e))

theorem runByName_unknown (h : State.ofJson? start = none) (events : List Json) :
    runByName start events = start := by
  induction events with
  | nil => rfl
  | cons event events ih =>
    rw [runByName, List.foldl_cons, nextByName_unknown h]
    exact ih

theorem runByName_name (s : State) (events : List Json) :
    runByName (.str s.name) events = .str (s.run (events.filterMap Event.ofJson?)).name := by
  induction events generalizing s with
  | nil => rfl
  | cons event events ih =>
    rw [runByName, List.foldl_cons, nextByName_name, List.filterMap_cons]
    cases Event.ofJson? event with
    | none => exact ih s
    | some e => exact ih (s.next e)

theorem runByName_append (start : Json) (earlier later : List Json) :
    runByName start (earlier ++ later) = runByName (runByName start earlier) later :=
  List.foldl_append

/-- A run on names is the run of the events that have one, from the state that has one; and each
state on the way is followed by all later ones. -/
theorem runByName_refines (start : Json) (events : List Json) :
    ((∀ s : State, start ≠ .str s.name) → runByName start events = start) ∧
      (∀ s : State, start = .str s.name →
        runByName start events = .str (s.run (events.filterMap Event.ofJson?)).name) ∧
      ∀ earlier later, events = earlier ++ later → ∀ reached : State,
        runByName start earlier = .str reached.name →
          ∃ last : State, runByName start events = .str last.name ∧
            (reached.isTerminal = true → last.isTerminal = true) ∧
            (reached = .frozen → last = .frozen) ∧
            (reached = .negative → last = .negative ∨ last = .frozen) := by
  refine ⟨fun h => runByName_unknown (State.ofJson?_eq_none_iff.mpr h) events, ?_, ?_⟩
  · rintro s rfl
    exact runByName_name s events
  · rintro earlier later rfl reached hreached
    have hfollows := reached.follows_run (later.filterMap Event.ofJson?)
    refine ⟨reached.run (later.filterMap Event.ofJson?), ?_, hfollows.terminal, hfollows.frozen,
      hfollows.negative⟩
    rw [runByName_append, hreached, runByName_name]

/-- A conversation that turned negative is frozen, past names of all kinds that are no events; a name
that differs from a state in a letter stays as it is. -/
theorem runByName_refines_negative :
    let earlier := [.str "NegativeResponse", .null, .str "Negative", .int 7]
    let events := earlier ++ [.str "ThreatDetected", .str "Freeze", .str "ProductQuestion"]
    runByName (.str "Interest") earlier = .str "Negative" ∧
      runByName (.str "Interest") events = .str "Frozen" ∧
      (∃ last : State, runByName (.str "Interest") events = .str last.name ∧
        (last = .negative ∨ last = .frozen)) ∧
      runByName (.str "interest") events = .str "interest" := by
  intro earlier events
  have hunknown : ∀ s : State, Json.str "interest" ≠ .str s.name := by
    intro s h
    have hname := Json.str.inj h
    cases s <;> exact absurd hname (by decide)
  obtain ⟨-, hknown, hlater⟩ := runByName_refines (.str "Interest") events
  have hreached : runByName (.str "Interest") earlier = .str State.negative.name :=
    (runByName_refines (.str "Interest") earlier).2.1 .interest rfl
  obtain ⟨last, hlast, -, -, hleft⟩ := hlater earlier _ rfl .negative hreached
  exact ⟨hreached, hknown .interest rfl, ⟨last, hlast, hleft rfl⟩,
    (runByName_refines (.str "interest") events).1 hunknown⟩

end SalesDesk.Conversation
