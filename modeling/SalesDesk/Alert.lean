import SalesDesk.Catalogue
import SalesDesk.Log
import SalesDesk.Network

/-!
# Alerts

Some messages are shown to a human: those with legal or threatening words, angry ones, those with
a sensitive word, and conversations with repeated misunderstandings. The client is never told. An
alert goes out beside the conversation, and its failure only shows in the log.
-/

namespace SalesDesk.Alert

inductive Kind where
  | anger
  | threat
  | repeatedMisunderstanding
  | sensitiveWord
  | legalSituation
  deriving DecidableEq, Repr

namespace Kind

def all : List Kind := [anger, threat, repeatedMisunderstanding, sensitiveWord, legalSituation]

def name : Kind → String
  | anger => "Anger"
  | threat => "Threat"
  | repeatedMisunderstanding => "RepeatedMisunderstanding"
  | sensitiveWord => "SensitiveWord"
  | legalSituation => "LegalSituation"

def named? (s : String) : Option Kind := all.find? fun k => k.name = s

def sentiment : Kind → Option String
  | threat => some "threat"
  | legalSituation => some "threat"
  | anger => some "anger"
  | _ => none

def escalates (k : Kind) : Bool := k == threat || k == legalSituation

end Kind

/-- Why a human is alerted, with the word that was found where it matters. -/
structure Trigger where
  kind : Kind
  word : Option String := none
  deriving DecidableEq, Repr

namespace Trigger

def describe (t : Trigger) : String :=
  match t.word with
  | none => t.kind.name
  | some word => if word = "" then t.kind.name else t.kind.name ++ "(" ++ word ++ ")"

end Trigger

def defaultLegal : List String := ["avocat", "tribunal", "police", "procès"]

def defaultThreats : List String := ["tuer", "frapper", "détruire"]

def defaultAnger : List String := ["arnaque", "escroc", "honteux", "inadmissible"]

structure Detector where
  legal : List String := defaultLegal
  threats : List String := defaultThreats
  anger : List String := defaultAnger
  sensitive : List String := []
  maxMisunderstandings : Int := 3
  deriving Repr

/-- Does a lower-case text contain a keyword, whatever the case of the keyword? -/
def mentions (text : List Char) (keyword : String) : Bool :=
  Catalogue.contains text (Text.lowerChars keyword.toList)

namespace Detector

/-- The trigger of a message: legal words come before threats, threats before anger, anger before
sensitive words, and all words before the count of misunderstandings. -/
def detect (d : Detector) (message : Option String) (misunderstandings : Int) : Option Trigger :=
  let text := Text.lowerChars (message.getD "").toList
  if d.legal.any (mentions text) then some { kind := .legalSituation }
  else if d.threats.any (mentions text) then some { kind := .threat }
  else if d.anger.any (mentions text) then some { kind := .anger }
  else match d.sensitive.find? (mentions text) with
    | some word => some { kind := .sensitiveWord, word := some (Text.lower word) }
    | none =>
      if 0 < d.maxMisunderstandings ∧ d.maxMisunderstandings ≤ misunderstandings then
        some { kind := .repeatedMisunderstanding }
      else none

end Detector

structure Channel where
  botToken : Option String
  chatId : Option String
  deriving Repr

def text (reason conversation : String) (context : Context) : String :=
  "🚨 *ALERT* - Conversation: " ++ conversation ++ "\nTrigger: " ++ reason ++
    "\nRequires human intervention" ++
    (if context.isEmpty then ""
      else
        "\n\n\x60\x60\x60\n" ++
          "\n".intercalate (context.map fun d => "  " ++ d.1 ++ ": " ++ d.2.text) ++
          "\n\x60\x60\x60")

def timeoutSeconds : Int := 10

namespace Channel

/-- The request that delivers a text; none where the channel is not configured. -/
def post? (c : Channel) (text : String) : Option Post :=
  match c.botToken, c.chatId with
  | some token, some chat =>
    if token = "" ∨ chat = "" then none
    else some
      { url := "https://api.telegram.org/bot" ++ token ++ "/sendMessage"
        json := .obj [("chat_id", .str chat), ("text", .str text), ("parse_mode", .str "Markdown")]
        timeout := .int timeoutSeconds }
  | _, _ => none

end Channel

structure Delivery where
  sent : Bool
  posts : List Post := []
  notices : List Log.Notice := []
  deriving Repr

def notConfigured (reason conversation : String) : Log.Notice :=
  { level := .warning, part := "alert_service",
    message := "Alert not configured: " ++ reason ++ " - " ++ conversation }

def deliveryFailed (message : String) : Log.Notice :=
  { level := .error, part := "alert_service", message := "Failed to send alert: " ++ message }

/-- Sends an alert over a channel whose service answers as given. -/
def send (c : Channel) (answer : Answer) (reason conversation : String) (context : Context) :
    Delivery :=
  match c.post? (text reason conversation context) with
  | none => { sent := false, notices := [notConfigured reason conversation] }
  | some post =>
    match answer with
    | .status code _ => { sent := code == 200, posts := [post] }
    | .timeout =>
      { sent := false, posts := [post], notices := [deliveryFailed Answer.timeoutMessage] }
    | .failed message => { sent := false, posts := [post], notices := [deliveryFailed message] }

end SalesDesk.Alert
