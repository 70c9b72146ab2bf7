import SalesDesk.Desk.Cycle
import SalesDesk.Http.Call

/-!
# Answers

What the desk answers to calls. A name that is not known, a product that is not there and an audit
record that could not be kept are answered with the status of an error; a fault of the desk has no
answer, and neither has an issue with data that strict JSON cannot hold.
-/

namespace SalesDesk.Http

open Validation

inductive Answer where
  | body (status : Nat) (json : Json)
  | unprocessable (issues : List Issue)
  deriving Repr

namespace Answer

def ok (json : Json) : Answer := body 200 json

def error (status : Nat) (detail : String) : Answer := body status (.obj [("detail", .str detail)])

def status : Answer → Nat
  | body status _ => status
  | unprocessable _ => 422

/-- The answer without its body. -/
def withoutBody (a : Answer) : Answer := body a.status .null

def invalidState : Answer := error 400 "Invalid state"

def invalidEvent : Answer := error 400 "Invalid event"

def invalidKind : Answer := error 400 "Invalid message type"

end Answer

def version : String := "0.1.0"

def health : Json :=
  .obj [("status", .str "healthy"), ("service", .str Log.serviceName), ("version", .str version)]

def optionalInt : Option Int → Json := .ofOption .int

def optionalText : Option String → Json := .ofOption .str

def optionalWords : Option Words → Json := .ofOption Words.toJson

/-- The tenant that is named, or else the default one; the empty name names none. -/
def tenantOf (d : Desk) : Option String → String
  | none => d.settings.defaultTenant
  | some name => if name = "" then d.settings.defaultTenant else name

/-- A name that may be left out; the empty name counts as left out. -/
def given : Option String → Option String
  | none => none
  | some name => if name = "" then none else some name

/-- The kinds of sends: a message, an image or a video. -/
def mediaOf? (kind : String) : Option (Option Quota.Media) :=
  if kind = "text" then some none
  else if kind = "image" then some (some .image)
  else if kind = "video" then some (some .video)
  else none

def usageNotPersisted (tenant : String) : Log.Notice :=
  { level := .warning, part := "routers.decision",
    message := "Quota snapshot not persisted for tenant " ++ tenant }

def statusNotPersisted (conversation : String) : Log.Notice :=
  { level := .warning, part := "routers.decision",
    message := "Conversation " ++ conversation ++ " state not persisted" }

def productJson (p : Product) : Json := p.toJson Json.strictNumber

def productsAnswer (products : List Product) : Answer := .ok (.arr (products.map productJson))

/-- The parts of an answer that have to be texts, where there are any, and are not. -/
def unfitWords (parts : List (String × Option Words)) : List Issue :=
  parts.filterMap fun p => p.2.bind fun words =>
    if words.text?.isSome then none else some ⟨[.field p.1], .string, words.toJson⟩

/-- The parts of an audit record that have to be texts and are not. -/
def unfitParts (r : Audit.Record) : List Issue :=
  [("conversation_id", r.conversation), ("incoming_message", r.message), ("state", r.state),
    ("chosen_action", r.action)].filterMap (fun p =>
      if p.2.isSome then none else some ⟨[.field p.1], .string, .null⟩) ++
  unfitWords [("action_details", r.details), ("ai_response", r.response), ("sent_message", r.sent)]

def recordsJson : List Audit.Record → Act (List Json)
  | [] => return []
  | r :: rest => do
    if !(unfitParts r).isEmpty then Act.fail (.unfit (unfitParts r))
    return r.toJson Timestamp.isoZulu :: (← recordsJson rest)

/-- The names of a tally that are missing. -/
def unfitNames (field : String) (t : Audit.Tally) : List Issue :=
  if t.any fun e => e.1.isNone then
    [⟨[.field field, .field "None", .field "[key]"], .string, .null⟩]
  else []

/-- The decision for a situation, without a desk's memory. -/
def answerDecide (form : DecideForm) : Answer :=
  match Conversation.State.named? form.state with
  | none => .invalidState
  | some state =>
    let action := Situation.decide
      { message := some form.message, state, quotasAvailable := form.quotasAvailable
        isActiveHours := form.isActiveHours, sentiment := form.sentiment }
    .ok (.obj [("action", .str action.name), ("details", optionalWords action.details)])

def answerValidate (guard : Generation.Guard) (text : String) : Answer :=
  let json (valid : Bool) (validated fallback error code : Option String) : Answer :=
    .ok (.obj [("valid", .bool valid), ("validated_text", optionalText validated),
      ("fallback_text", optionalText fallback), ("error", optionalText error),
      ("error_code", optionalText code)])
  match guard.after text with
  | .ok validated => json true (some validated) none none none
  | .error r => json false none (some guard.fallback) (some r.message) (some r.code)

def stateJson (name : String) (isTerminal : Bool) : Json :=
  .obj [("new_state", .str name), ("is_terminal", .bool isTerminal)]

/-- A state change on names; names that are not known leave the state as it is. -/
def answerTransition (state event : String) : Act Answer := do
  let (new, notice) := Conversation.nextByName (.str state) (.str event)
  Desk.notify notice.toList
  let name := match new with
    | .str s => s
    | _ => state
  return .ok (stateJson name ((Conversation.State.named? name).any Conversation.State.isTerminal))

def answerOverride (conversation : String) (state : Option String) : Act Answer := do
  let override (state : Option Conversation.State) : Act Answer := do
    let new ← Desk.override conversation state
    return .ok (stateJson new.name new.isTerminal)
  match given state with
  | none => override none
  | some name =>
    match Conversation.State.named? name with
    | none => return .invalidState
    | some state => override (some state)

/-- What is answered about a cycle. -/
def cycleJson (o : Desk.CycleOutcome) : Json :=
  .obj [("action", .str o.action.name), ("details", optionalWords o.action.details),
    ("outbound_text", optionalWords o.action.outbound), ("delay_seconds", optionalInt o.delaySeconds),
    ("state_before", .str o.stateBefore.name), ("state_after", .str o.stateAfter.name),
    ("audit_written", .bool o.audit.isOk)]

/-- The parts of the answer about a cycle that have to be texts and are not. -/
def unfitSaid (a : Action) : List Issue :=
  unfitWords [("details", a.details), ("outbound_text", a.outbound)]

/-- Writes a warning where something was not saved. -/
def warnUnless (saved : Bool) (warning : Log.Notice) : Act Unit :=
  if saved then return () else Desk.notify [warning]

/-- Saves what a cycle has changed. -/
def saveCycle (tenant conversation : String) : Act Unit := do
  warnUnless (← Desk.persistTenant tenant) (usageNotPersisted tenant)
  warnUnless (← Desk.persistConversation tenant conversation) (statusNotPersisted conversation)

/-- Answers a cycle, if what it says are texts. -/
def tellCycle (o : Desk.CycleOutcome) : Act Answer :=
  if (unfitSaid o.action).isEmpty then return .ok (cycleJson o)
  else Act.fail (.unfit (unfitSaid o.action))

/-- Runs a cycle and saves what it changed. Only then is the answer about it put together. -/
def runCycle (errands : Desk.Errands) (form : CycleForm) (event : Option Conversation.Event) :
    Act Answer := do
  let process ← Act.look Desk.number
  let tenant ← Act.look fun d => tenantOf d form.tenant
  let outcome ← Desk.cycle errands
    { tenant, conversation := form.conversation, message := some form.message, event
      sentiment := form.sentiment, product := form.product, prompt := form.prompt
      misunderstandings := form.misunderstandings }
  Desk.onProcess process do
    saveCycle tenant form.conversation
    tellCycle outcome

def answerCycle (errands : Desk.Errands) (form : CycleForm) : Act Answer :=
  match given form.event with
  | none => runCycle errands form none
  | some name =>
    match Conversation.Event.named? name with
    | none => return .invalidEvent
    | some event => runCycle errands form (some event)

/-- May a send go out, and after which pause? Nothing is counted. -/
def answerCheck (form : SendForm) : Act Answer := do
  let tenant ← Act.look fun d => tenantOf d form.tenant
  match mediaOf? form.kind with
  | none => return .invalidKind
  | some media =>
    let canSend ← match media with
      | none => Desk.checkMessage tenant
      | some m => Desk.checkMedia tenant m
    let pause ← if canSend then some <$> Desk.pause tenant else pure none
    return .ok (.obj [("can_send", .bool canSend), ("delay_seconds", optionalInt pause)])

/-- Admits and counts a send, and saves the usage of the tenant. -/
def answerRecord (form : SendForm) : Act Answer := do
  let tenant ← Act.look fun d => tenantOf d form.tenant
  match mediaOf? form.kind with
  | none => return .invalidKind
  | some media =>
    let admission ← match media with
      | none => Desk.tryMessage tenant
      | some m => Desk.tryMedia tenant m
    if admission.allowed then
      let _ ← Desk.persistTenant tenant
    return .ok (.obj [("recorded", .bool admission.allowed),
      ("delay_seconds", optionalInt admission.delaySeconds),
      ("messages_today", .int admission.after.messagesToday),
      ("messages_this_week", .int admission.after.messagesThisWeek)])

/-- Runs a reset and saves the usage of the tenant. -/
def answerReset (kind : Quota.Reset) (name : Option String) : Act Answer := do
  let tenant ← Act.look fun d => tenantOf d name
  let _ ← match kind with
    | .daily => Desk.resetDaily tenant
    | .weekly => Desk.resetWeekly tenant
  let _ ← Desk.persistTenant tenant
  let time ← Desk.now
  return .ok (.obj [("reset_type", .str kind.name), ("timestamp", .str time.iso)])

def answerStatus (name : Option String) : Act Answer := do
  let tenant ← Act.look fun d => tenantOf d name
  let usage ← Desk.usage tenant
  let (daily, weekly) ← Desk.needsResets tenant
  return .ok (.obj ((usage.fields.map fun f => (f.1, Json.int f.2)) ++
    [("last_reset", .str usage.lastReset.iso), ("needs_daily_reset", .bool daily),
      ("needs_weekly_reset", .bool weekly)]))

def answerProduct (id : String) : Act Answer := do
  match ← Act.look fun d => d.catalogue.find? id with
  | none => return .error 404 "Product not found"
  | some p => return .ok (productJson p)

def answerLoad (products : List Product) : Act Answer := do
  Act.change fun d => { d with catalogue := Catalogue.load products }
  return productsAnswer (← Act.look fun d => d.catalogue.values)

def answerWriteAudit (form : AuditForm) : Act Answer := do
  let record ← Desk.makeRecord form.entry form.time
  match ← Desk.keepRecord record with
  | .success r => return .body 201 (r.toJson Timestamp.isoZulu)
  | .failure _ _ => return .error 503 "Audit write failed"

def answerReport (start stop : Timestamp) : Act Answer := do
  let report ← Desk.report start stop
  let unfit := unfitNames "by_action" report.byAction ++ unfitNames "by_state" report.byState
  if !unfit.isEmpty then Act.fail (.unfit unfit)
  return .ok (report.toJson Timestamp.isoZulu)

/-- The answer to a call. Errands are run as the generator asks for them. -/
def answer (errands : Desk.Errands) : Call → Act Answer
  | .decide form => return answerDecide form
  | .validate text => do return answerValidate (← Act.look fun d => d.settings.guard) text
  | .transition state event => answerTransition state event
  | .override conversation state => answerOverride conversation state
  | .cycle form => answerCycle errands form
  | .checkQuota form => answerCheck form
  | .recordSend form => answerRecord form
  | .resetDaily tenant => answerReset .daily tenant
  | .resetWeekly tenant => answerReset .weekly tenant
  | .quotaStatus tenant => answerStatus tenant
  | .products => do return productsAnswer (← Act.look fun d => d.catalogue.values)
  | .loadProducts products => answerLoad products
  | .product id => answerProduct id
  | .writeAudit form => answerWriteAudit form
  | .report start stop => answerReport start stop
  | .trail conversation => do
    return .ok (.arr (← recordsJson (← Desk.trail (some conversation))))
  | .health => return .ok health

/-- The answer to a request that was not understood. Issues are answered with the data that they were
found in, which has to be strict JSON. -/
def refuse : Misfit → Act Answer
  | .noEndpoint .unknownPath => return .error 404 "Not Found"
  | .noEndpoint .otherMethod => return .error 405 "Method Not Allowed"
  | .issues issues =>
    if issues.all fun i => i.input.isStrict then return .unprocessable issues
    else Act.fail .noNumber
  | .unreadable => return .error 400 "There was an error parsing the body"
  | .halfCharacter => Act.fail .halfCharacter

/-- The answer to a request; one that asks for the head alone gets no body. -/
def serve (errands : Desk.Errands) (r : Request) : Act Answer := do
  let given ← match Call.ofRequest r with
    | .error misfit => refuse misfit
    | .ok call => answer errands call
  return if r.verb = "HEAD" then given.withoutBody else given

end SalesDesk.Http
