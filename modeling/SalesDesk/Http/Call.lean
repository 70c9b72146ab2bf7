import SalesDesk.Audit.Record
import SalesDesk.Catalogue
import SalesDesk.Http.Endpoint
import SalesDesk.Http.Url
import SalesDesk.Json.Reader
import SalesDesk.Text.Encoding
import SalesDesk.Validation

/-!
# Calls

A call is a request that has been understood: its path leads to an endpoint, and its body or query
has the form that the endpoint asks for. All that is wrong with the form is reported at once.
-/

namespace SalesDesk.Http

open Validation

/-- A request. Its target is a path with a query, as they are sent. Without a body it has no content at
all. -/
structure Request where
  method : String
  target : String
  content : Option String := none
  deriving Repr

def Request.verb (r : Request) : String := Text.capitals r.method

structure DecideForm where
  message : String
  state : String
  quotasAvailable : Bool
  isActiveHours : Bool
  sentiment : Option String
  deriving DecidableEq, Repr

structure CycleForm where
  tenant : Option String
  conversation : String
  message : String
  event : Option String
  sentiment : Option String
  product : Option String
  prompt : Option String
  misunderstandings : Int
  deriving DecidableEq, Repr

structure SendForm where
  kind : String
  tenant : Option String
  deriving DecidableEq, Repr

structure AuditForm where
  time : Option Timestamp
  entry : Audit.Entry
  deriving DecidableEq, Repr

inductive Call where
  | decide (form : DecideForm)
  | validate (text : String)
  | transition (state event : String)
  | override (conversation : String) (state : Option String)
  | cycle (form : CycleForm)
  | checkQuota (form : SendForm)
  | recordSend (form : SendForm)
  | resetDaily (tenant : Option String)
  | resetWeekly (tenant : Option String)
  | quotaStatus (tenant : Option String)
  | products
  | loadProducts (products : List Product)
  | product (id : String)
  | writeAudit (form : AuditForm)
  | report (start stop : Timestamp)
  | trail (conversation : String)
  | health
  deriving DecidableEq, Repr

inductive Misfit where
  | noEndpoint (e : NoEndpoint)
  | issues (issues : List Issue)
  /-- A body that cannot be read for another reason than its form. -/
  | unreadable
  /-- Half of a character is escaped in a body, which no text here can hold. -/
  | halfCharacter
  deriving Repr

namespace Form

def text (m : Table Json) (name : String) : Checked String := field m name Rule.text

def textOr (m : Table Json) (name default : String) : Checked String :=
  fieldOr m name Rule.text default

def decide : Rule DecideForm := Rule.object fun m =>
  DecideForm.mk <$> text m "incoming_message"
    <*> textOr m "conversation_state" "Discovery"
    <*> field m "quotas_available" Rule.flag
    <*> field m "is_active_hours" Rule.flag
    <*> optionalText m "sentiment_detected"

def cycle : Rule CycleForm := Rule.object fun m =>
  CycleForm.mk <$> optionalText m "tenant_id"
    <*> text m "conversation_id"
    <*> text m "message"
    <*> optionalText m "event"
    <*> optionalText m "sentiment"
    <*> optionalText m "product_id"
    <*> optionalText m "prompt"
    <*> fieldOr m "misunderstanding_count" Rule.natural 0

def check : Rule SendForm := Rule.object fun m =>
  SendForm.mk <$> text m "message_type" <*> optionalText m "tenant_id"

def send : Rule SendForm := Rule.object fun m =>
  SendForm.mk <$> textOr m "message_type" "text" <*> optionalText m "tenant_id"

def objection : Rule Objection := Rule.object fun m =>
  Objection.mk <$> text m "trigger" <*> text m "answer"

def media : Rule MediaItem := Rule.object fun m =>
  MediaItem.mk <$> text m "id" <*> text m "media_type" <*> text m "url"

def product : Rule Product := Rule.object fun m =>
  Product.mk <$> text m "id"
    <*> text m "name"
    <*> textOr m "short_description" ""
    <*> textOr m "long_description" ""
    <*> fieldOr m "price" Rule.number .zero
    <*> fieldOr m "keywords" (Rule.list Rule.text) []
    <*> fieldOr m "objections" (Rule.list objection) []
    <*> fieldOr m "media" (Rule.list media) []

def snapshot : Rule Quota.Snapshot := Rule.object fun m =>
  Quota.Snapshot.mk <$> fieldOr m "messages_today" Rule.integer 0
    <*> fieldOr m "messages_this_week" Rule.integer 0
    <*> fieldOr m "images_today" Rule.integer 0
    <*> fieldOr m "videos_this_week" Rule.integer 0

/-- The parts of an audit entry in the order in which they are sent. -/
def auditOf (_ : Option String) (time : Option Timestamp)
    (conversation message state action : String)
    (details prompt response sent : Option String) (before after : Quota.Snapshot) : AuditForm :=
  { time
    entry :=
      { conversation := some conversation, message := some message, state := some state
        action := some action, before, after, details := details.map .text, prompt
        response := response.map .text, sent := sent.map .text } }

def audit : Rule AuditForm := Rule.object fun m =>
  auditOf <$> optionalText m "id"
    <*> fieldOr m "timestamp" (Rule.optional Rule.time) none
    <*> text m "conversation_id"
    <*> text m "incoming_message"
    <*> text m "state"
    <*> text m "chosen_action"
    <*> optionalText m "action_details"
    <*> optionalText m "ai_prompt"
    <*> optionalText m "ai_response"
    <*> optionalText m "sent_message"
    <*> field m "quotas_before" snapshot
    <*> field m "quotas_after" snapshot

end Form

/-- The text of a body: without the mark of the order of bytes, or else in the encoding that its first
bytes show. -/
def bodyText? : List Char → Option (List Char)
  | '\uFEFF' :: rest => some rest
  | cs => Text.reread? cs

def readBody {α : Type} (content : Option String) (rule : Rule α) : Except Misfit α :=
  let issue (place : List Step) (kind : Kind) (input : Json) : Misfit :=
    .issues [⟨.field "body" :: place, kind, input⟩]
  match content.getD "" with
  | "" => .error (issue [] .missing .null)
  | text =>
    match (bodyText? text.toList).map Json.readBounded with
    | some (.ok v) =>
      match (rule v).under (.field "body") with
      | .valid a => .ok a
      | .invalid issues => .error (.issues issues)
    | some (.error (.malformed offset)) => .error (issue [.index offset] .json (.obj []))
    | some (.error .halfCharacter) => .error .halfCharacter
    | _ => .error .unreadable

/-- Reads the parameters of a query; values are texts. -/
def readQuery {α : Type} (query : Table String) (read : Table Json → Checked α) :
    Except Misfit α :=
  match (read (query.map fun p => (p.1, Json.str p.2))).under (.field "query") with
  | .valid a => .ok a
  | .invalid issues => .error (.issues issues)

namespace Call

def ofEndpoint (e : Endpoint) (query : Table String) (content : Option String) :
    Except Misfit Call := do
  let tenant := query.find? "tenant_id"
  match e with
  | .decide => return .decide (← readBody content Form.decide)
  | .validate => return .validate (← readBody content (Rule.object fun m => Form.text m "text"))
  | .transition =>
    let (state, event) ← readBody content (Rule.object fun m =>
      Prod.mk <$> Form.text m "current_state" <*> Form.text m "event")
    return .transition state event
  | .override conversation =>
    return .override conversation
      (← readBody content (Rule.object fun m => optionalText m "state"))
  | .cycle => return .cycle (← readBody content Form.cycle)
  | .checkQuota => return .checkQuota (← readBody content Form.check)
  | .recordSend => return .recordSend (← readBody content Form.send)
  | .resetDaily => return .resetDaily tenant
  | .resetWeekly => return .resetWeekly tenant
  | .quotaStatus => return .quotaStatus tenant
  | .products => return .products
  | .loadProducts => return .loadProducts (← readBody content (Rule.list Form.product))
  | .product id => return .product id
  | .writeAudit => return .writeAudit (← readBody content Form.audit)
  | .report =>
    let (start, stop) ← readQuery query fun m =>
      Prod.mk <$> field m "start" Rule.time <*> field m "end" Rule.time
    return .report start stop
  | .trail conversation => return .trail conversation
  | .health => return .health

/-- Reads a request. Its method may be written in small letters. -/
def ofRequest (r : Request) : Except Misfit Call := do
  let target := Target.read r.target
  let endpoint ← (Endpoint.find r.verb target.segments).mapError .noEndpoint
  ofEndpoint endpoint target.query r.content

end Call

end SalesDesk.Http
