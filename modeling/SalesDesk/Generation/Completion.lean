import SalesDesk.Log
import SalesDesk.Network

/-!
# Completions of chats

A completion service is asked to continue a chat and answers with JSON of which only the content of
the first choice is used. An answer of any other shape is a failure, and so is an empty content.
-/

namespace SalesDesk.Generation

/-- A completion. The content is a text if the service keeps to its contract. -/
structure Completion where
  content : Json
  model : Json
  usage : Json := .null
  deriving Repr

inductive CompletionError where
  /-- The service took too long. -/
  | timeout
  /-- The request failed on its way. -/
  | transport (message : String)
  | status (code : Int)
  /-- The answer holds no content. -/
  | empty (code : Int)
  /-- A member was looked for in a value that is no object. -/
  | noMembers (value : Json)
  /-- The first item was looked for in an object. -/
  | noFirstItem
  /-- The first item was looked for in a value that has no items. -/
  | noItems (value : Json)
  deriving Repr

namespace CompletionError

def message : CompletionError → String
  | timeout => Answer.timeoutMessage
  | transport message => message
  | status code => "Generator returned HTTP " ++ toString code
  | empty _ => "Generator returned an empty completion"
  | noMembers value => "'" ++ value.kindName ++ "' object has no attribute 'get'"
  | noFirstItem => "0"
  | noItems value => "'" ++ value.kindName ++ "' object is not subscriptable"

end CompletionError

/-- A member of a value that has to be an object; null where it is missing. -/
def member (name : String) : Json → Except CompletionError Json
  | .obj members => .ok ((Table.find? members name).getD .null)
  | value => .error (.noMembers value)

/-- The first item of a value that does not count as empty. -/
def firstItem : Json → Except CompletionError Json
  | .arr (v :: _) => .ok v
  | .str s => .ok (.str (String.ofList (s.toList.take 1)))
  | .obj _ => .error .noFirstItem
  | value => .error (.noItems value)

/-- The content of the first choice; null where there is no choice or no message. -/
def contentOf (body : Json) : Except CompletionError Json := do
  let choices ← member "choices" body
  if choices.truthy then
    let message ← member "message" (← firstItem choices)
    if message.truthy then member "content" message else return .null
  else return .null

namespace Completion

/-- The completion in an answer to a request for a model. -/
def ofAnswer (model : String) : Answer → Except CompletionError Completion
  | .timeout => .error .timeout
  | .failed message => .error (.transport message)
  | .status code body =>
    if code ≠ 200 then .error (.status code)
    else do
      let content ← contentOf body
      if content.truthy then
        return {
          content
          model := (body.get? "model").getD (.str model)
          usage := (body.get? "usage").getD .null }
      else .error (.empty code)

end Completion

def defaultModel : String := "gpt-5-mini"

def defaultTimeout : Binary64 := .ofInt 15

def defaultUrl : String := "https://api.openai.com/v1/chat/completions"

def defaultTemperature : Binary64 := .ofDecimal false 7 (-1)

def defaultMaxTokens : Int := 300

/-- A completion service and the defaults for requests to it. -/
structure Service where
  apiKey : String
  model : String := defaultModel
  timeout : Binary64 := defaultTimeout
  url : String := defaultUrl
  deriving Repr

/-- What is asked of a completion service; missing parts take the defaults of the service. -/
structure Request where
  messages : List Json
  model : Option String := none
  temperature : Binary64 := defaultTemperature
  maxTokens : Int := defaultMaxTokens
  timeout : Option Binary64 := none
  deriving Repr

namespace Service

/-- The model for a request; the empty name counts as missing. -/
def modelFor (s : Service) (r : Request) : String :=
  match r.model with
  | some model => if model = "" then s.model else model
  | none => s.model

def timeoutFor (s : Service) (r : Request) : Binary64 := r.timeout.getD s.timeout

def post (s : Service) (r : Request) : Post :=
  { url := s.url
    headers := some [("Authorization", "Bearer " ++ s.apiKey)]
    json := .obj [("model", .str (s.modelFor r)), ("messages", .arr r.messages),
      ("temperature", .float r.temperature), ("max_completion_tokens", .int r.maxTokens)]
    timeout := .float (s.timeoutFor r) }

def requestNotice (s : Service) (r : Request) : Log.Notice :=
  { level := .debug, part := "llm.openai",
    message := "Generator request: model=" ++ s.modelFor r ++ ", messages_count=" ++
      toString r.messages.length ++ ", timeout=" ++
      String.ofList (Decimal.text (s.timeoutFor r)) }

/-- The completion of a request, from the answer of the service. -/
def complete (s : Service) (r : Request) (answer : Answer) : Except CompletionError Completion :=
  Completion.ofAnswer (s.modelFor r) answer

end Service

end SalesDesk.Generation
