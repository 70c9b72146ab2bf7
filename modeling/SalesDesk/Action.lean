import SalesDesk.Conversation.State
import SalesDesk.Text.LowerCase
import SalesDesk.Words

/-!
# Actions

For every message exactly one action is chosen from a closed set. The decision says whether
something may happen, never what words are said: an answer is chosen with an empty text, which is
filled in by guarded generation.
-/

namespace SalesDesk

inductive Action where
  | respondText (text : Words)
  | respondWithMedia (text mediaId : String)
  | ignore
  | delay (seconds : Int)
  | alertHuman (reason : String)
  | stopAutomation
  deriving DecidableEq, Repr, Inhabited

namespace Action

def name : Action → String
  | respondText _ => "RespondText"
  | respondWithMedia _ _ => "RespondWithMedia"
  | ignore => "Ignore"
  | delay _ => "Delay"
  | alertHuman _ => "AlertHuman"
  | stopAutomation => "StopAutomation"

def details : Action → Option Words
  | respondText text => some text
  | respondWithMedia text mediaId => some (.text (text ++ " (media: " ++ mediaId ++ ")"))
  | ignore => none
  | delay seconds => some (.text (toString seconds ++ " seconds"))
  | alertHuman reason => some (.text reason)
  | stopAutomation => none

/-- The text that goes out to the client, if the action sends one. -/
def outbound : Action → Option Words
  | respondText text => some text
  | respondWithMedia text _ => some (.text text)
  | _ => none

/-- Does the action send something to the client? -/
def isSending (a : Action) : Bool := a.outbound.isSome

def unknownMessage (value : Json) : String := "Unknown action: " ++ (Detail.ofJson value).inner

end Action

structure Situation where
  message : Option String := none
  state : Conversation.State := .initial
  quotasAvailable : Bool
  isActiveHours : Bool
  sentiment : Option String := none
  deriving Repr

def exhaustedDelaySeconds : Int := 3600

/-- A sentiment without blanks around it and in lower case. -/
def normalSentiment (s : Option String) : String := Text.lower (Text.strip (s.getD ""))

def alertSentiments : List String := ["anger", "threat"]

namespace Situation

/-- The action for a situation: the first rule that applies. -/
def decide (c : Situation) : Action :=
  if !c.isActiveHours then .ignore
  else if !c.quotasAvailable then .delay exhaustedDelaySeconds
  else
    let sentiment := normalSentiment c.sentiment
    if alertSentiments.contains sentiment then .alertHuman ("Sentiment detected: " ++ sentiment)
    else .respondText ""

/-- Is an action that was already chosen still allowed? -/
def allows (c : Situation) (a : Action) : Bool :=
  if a.isSending then c.isActiveHours && c.quotasAvailable else true

end Situation

end SalesDesk
