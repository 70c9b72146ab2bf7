import SalesDesk.Log

/-!
# States of a conversation

A conversation moves between seven states on seven events, by one table and never by generated
text. A pair of state and event that is missing from the table leaves the state unchanged.
-/

namespace SalesDesk.Conversation

inductive State where
  | discovery
  | interest
  | intent
  | objection
  | negative
  | escalated
  | frozen
  deriving DecidableEq, Repr, Inhabited

inductive Event where
  | productQuestion
  | priceInterest
  | purchaseIntent
  | objectionRaised
  | negativeResponse
  | threatDetected
  | freeze
  deriving DecidableEq, Repr

namespace State

def all : List State := [discovery, interest, intent, objection, negative, escalated, frozen]

def name : State → String
  | discovery => "Discovery"
  | interest => "Interest"
  | intent => "Intent"
  | objection => "Objection"
  | negative => "Negative"
  | escalated => "Escalated"
  | frozen => "Frozen"

def named? (s : String) : Option State := all.find? fun x => x.name = s

/-- The state named by a value, which has to be a text. -/
def ofJson? : Json → Option State
  | .str s => named? s
  | _ => none

def initial : State := discovery

/-- An escalated or frozen conversation must not be automated any more. -/
def isTerminal (s : State) : Bool := s == escalated || s == frozen

end State

namespace Event

def all : List Event :=
  [productQuestion, priceInterest, purchaseIntent, objectionRaised, negativeResponse,
    threatDetected, freeze]

def name : Event → String
  | productQuestion => "ProductQuestion"
  | priceInterest => "PriceInterest"
  | purchaseIntent => "PurchaseIntent"
  | objectionRaised => "ObjectionRaised"
  | negativeResponse => "NegativeResponse"
  | threatDetected => "ThreatDetected"
  | freeze => "Freeze"

def named? (s : String) : Option Event := all.find? fun x => x.name = s

/-- The event named by a value, which has to be a text. -/
def ofJson? : Json → Option Event
  | .str s => named? s
  | _ => none

end Event

structure Transition where
  source : State
  event : Event
  target : State
  deriving DecidableEq, Repr

/-- The table of all state changes. Negative and escalated conversations are only left by an
explicit freeze. -/
def transitions : List Transition :=
  [⟨.discovery, .productQuestion, .interest⟩,
   ⟨.discovery, .negativeResponse, .negative⟩,
   ⟨.discovery, .threatDetected, .escalated⟩,
   ⟨.interest, .priceInterest, .intent⟩,
   ⟨.interest, .objectionRaised, .objection⟩,
   ⟨.interest, .negativeResponse, .negative⟩,
   ⟨.interest, .threatDetected, .escalated⟩,
   ⟨.intent, .purchaseIntent, .intent⟩,
   ⟨.intent, .objectionRaised, .objection⟩,
   ⟨.intent, .negativeResponse, .negative⟩,
   ⟨.intent, .threatDetected, .escalated⟩,
   ⟨.objection, .productQuestion, .interest⟩,
   ⟨.objection, .negativeResponse, .negative⟩,
   ⟨.objection, .threatDetected, .escalated⟩,
   ⟨.negative, .freeze, .frozen⟩,
   ⟨.escalated, .freeze, .frozen⟩]

def State.next (s : State) (e : Event) : State :=
  match transitions.find? fun t => t.source = s ∧ t.event = e with
  | some t => t.target
  | none => s

/-- The notice that a name given for a state or an event is not known. -/
def unknownName (message : String) (state event : Json) : Log.Notice :=
  { level := .warning, part := "state_machine", message,
    context := [("state", .ofJson state), ("event", .ofJson event)] }

/-- The state change on names as they are sent. A name that is not known leaves the state as it is
and gives a notice. -/
def nextByName (state event : Json) : Json × Option Log.Notice :=
  match State.ofJson? state with
  | none =>
    (state, some (unknownName "Unknown conversation state, leaving unchanged" state event))
  | some s =>
    match Event.ofJson? event with
    | none =>
      (.str s.name,
        some (unknownName "Unknown conversation event, leaving state unchanged" state event))
    | some e => (.str (s.next e).name, none)

end SalesDesk.Conversation
