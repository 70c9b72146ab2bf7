import SalesDesk.Action
import SalesDesk.Desk.Keeping

/-!
# The cycle of a message

One cycle runs for every message that comes in: look for a trigger, decide, generate a reply under
guard, admit and count the send, alert a human, record what was done, and move the conversation on.
Generated text is only ever sent; it decides nothing.

While a generator is at work other requests are served, and the process may even be replaced. The
cycle then goes on in the process in which it began.
-/

namespace SalesDesk.Desk

open Conversation

/-- A message that came in, with what is known about it. -/
structure Incoming where
  tenant : String
  conversation : String
  message : Option String
  event : Option Event := none
  sentiment : Option String := none
  product : Option String := none
  prompt : Option String := none
  misunderstandings : Int := 0
  deriving Repr

structure CycleOutcome where
  action : Action
  stateBefore : State
  stateAfter : State
  delaySeconds : Option Int
  trigger : Option Alert.Trigger
  alertSent : Bool
  reply : Option Generation.Outcome
  /-- The call of a generator that is not reached by requests. -/
  call : Option Generation.Call
  audit : Result Audit.Record
  deriving Repr

/-- Milliseconds that a generator took, on a clock that stands still. -/
def generationMs : Binary64 := Log.elapsedMs .zero .zero

/-- How errands are run while a generator is at work: what stopped them, if anything did, and the
desk afterwards. -/
abbrev Errands := List Json → Desk → Option String × Desk

/-- Sends one request to a completion service and takes what it answers. -/
def consult (s : Generation.Service) (request : Generation.Request) :
    Act (Except Generation.CompletionError Generation.Completion) := do
  notify [s.requestNotice request]
  send [s.post request]
  Act.look fun d => s.complete request d.network.completions

/-- Asks a generator. The errands of a generator of fixed behaviour are run before it answers, and
what stops them is a failure of the generator. -/
def ask (errands : Errands) (g : Generation.Generator) (call : Generation.Call) :
    Act (Except Generation.CompletionError Generation.Completion) :=
  match g with
  | .service s =>
    consult s
      { messages := call.messages.map Generation.Message.toJson, timeout := some call.timeout }
  | .rehearsed behaviour list => fun d =>
    match errands list d with
    | (some stopped, d) => (.ok (.error (.transport stopped)), d)
    | (none, d) => (.ok behaviour.result, d)

/-- Generates a reply under guard, and gives the call of a generator of fixed behaviour with it. -/
def generate (errands : Errands) (guard : Generation.Guard) (draft : Generation.Draft) :
    Act (Generation.Outcome × Option Generation.Call) := do
  match ← Act.look fun d => draft.start guard d.catalogue d.generator with
  | .error (outcome, notices) =>
    notify notices
    return (outcome, none)
  | .ok (generator, call) =>
    let completion ← ask errands generator call
    let (outcome, notices) := draft.finish guard generationMs completion
    notify notices
    let outcome ← Act.ofExcept (fun e => .notText e.content) outcome
    return (outcome, if generator.isService then none else some call)

/-- The sentiment of a message: the one that is given, or else the one that its trigger stands
for. -/
def effectiveSentiment (given : Option String) (trigger : Option Alert.Trigger) : Option String :=
  match given with
  | some s => if s = "" then fromTrigger else some s
  | none => fromTrigger
where
  fromTrigger : Option String := trigger.bind fun t => t.kind.sentiment

/-- The first choice of a cycle: automation that was stopped stays stopped, and in a terminal state
nothing is sent. -/
def choose (status : Status) (situation : Situation) : Action :=
  if status.stopped then .stopAutomation
  else
    let action := situation.decide
    if action.isSending && status.state.isTerminal then .stopAutomation else action

/-- The tenant and the conversation of a message, as details. -/
def Incoming.context (r : Incoming) : Context :=
  [("tenant_id", .str r.tenant), ("conversation_id", .str r.conversation)]

/-- A notice about the cycle of a message; further details go on top. -/
def Incoming.notice (r : Incoming) (level : Log.Level) (message : String) (extra : Context) :
    Log.Notice :=
  { level, part := "decision_cycle", message, context := Table.merge r.context extra }

/-- The prompt for a message: the one that is given, or else the message. -/
def Incoming.promptText (r : Incoming) : Option String :=
  match r.prompt with
  | some p => if p = "" then r.message else some p
  | none => r.message

def write (errands : Errands) (r : Incoming) (action : Action) :
    Act (Generation.Outcome × Option Generation.Call) := do
  let guard ← Act.look fun d => d.settings.guard
  let timeout ← Act.look fun d => d.settings.generationTimeout
  generate errands guard
    { product := r.product, action := action.name, prompt := r.promptText, timeout }

/-- Admits and counts a reply: the action that is taken in the end, and the pause before it. A
message that is no longer admitted after its text was generated is put off. -/
def settle (r : Incoming) (generated : Generation.Outcome) : Act (Action × Option Int) := do
  let admission ← tryMessage r.tenant
  if admission.allowed then return (.respondText generated.text, admission.delaySeconds)
  notify [r.notice .info "Quota exhausted between decision and send"
    (Quota.usageContext admission.before)]
  return (.delay exhaustedDelaySeconds, none)

/-- Alerts a human to a trigger, or else to an action that asks for one; was the alert sent? -/
def alert (r : Incoming) (trigger : Option Alert.Trigger) (action : Action) : Act Bool := do
  let reason? := match trigger, action with
    | some t, _ => some t.describe
    | none, .alertHuman reason => some reason
    | none, _ => none
  match reason? with
  | none => return false
  | some reason =>
    let delivery ← Act.look fun d =>
      Alert.send d.settings.channel d.network.alerts reason r.conversation
        [("tenant_id", .str r.tenant)]
    send delivery.posts
    notify delivery.notices
    return delivery.sent

/-- The event that ends a cycle: the one that is given, or else a threat where the trigger
escalates. -/
def closingEvent (given : Option Event) (trigger : Option Alert.Trigger) : Option Event :=
  match given with
  | some e => some e
  | none => if trigger.any fun t => t.kind.escalates then some .threatDetected else none

/-- Moves a conversation on, and gives the state that it is left in. -/
def close (conversation : String) (state : State) : Option Event → Act State
  | none => return state
  | some e => do
    let (_, after) ← applyEvent conversation e
    return after

def recordCycle (r : Incoming) (state : State) (before : Quota.Snapshot) (action : Action)
    (generated : Option Generation.Outcome) : Act (Result Audit.Record) := do
  let after ← snapshot r.tenant
  let time ← now
  let record ← makeRecord
    { conversation := some r.conversation
      message := r.message
      state := some state.name
      action := some action.name
      before, after
      details := action.details
      prompt := generated.bind fun g => g.prompt
      response := generated.bind fun g => g.rawResponse
      sent := action.outbound } (some time)
  let kept ← keepRecord record
  match kept with
  | .success _ => return kept
  | .failure error _ =>
    notify [r.notice .warning "Decision cycle continued without audit record"
      [("error", .str error)]]
    return kept

/-- The part of a cycle that follows the generation. -/
def conclude (r : Incoming) (state : State) (before : Quota.Snapshot)
    (trigger : Option Alert.Trigger) (first : Action)
    (generated : Option (Generation.Outcome × Option Generation.Call)) : Act CycleOutcome := do
  let reply := generated.map (·.1)
  let (action, delaySeconds) ← match reply with
    | some outcome => settle r outcome
    | none => pure (first, none)
  let alertSent ← alert r trigger action
  if action = .stopAutomation then stopAutomation r.conversation
  let audit ← recordCycle r state before action reply
  let stateAfter ← close r.conversation state (closingEvent r.event trigger)
  notify [r.notice .info "Decision cycle completed"
    [("action", .str action.name), ("state_before", .str state.name),
      ("state_after", .str stateAfter.name),
      ("trigger", .text? (trigger.map Alert.Trigger.describe))]]
  return { action, stateBefore := state, stateAfter, delaySeconds, trigger, alertSent, reply
           call := generated.bind (·.2), audit }

/-- Runs the cycle of a message. -/
def cycle (errands : Errands) (r : Incoming) : Act CycleOutcome := do
  let process ← Act.look number
  let state := (← status r.conversation).state
  let before ← snapshot r.tenant
  let trigger ← Act.look fun d => d.settings.detector.detect r.message r.misunderstandings
  let quotasAvailable ← checkMessage r.tenant
  let time ← now
  let isActiveHours ← Act.ofExcept .hours (← Act.look fun d => d.settings.isOpen time)
  let situation : Situation :=
    { message := r.message, state, quotasAvailable, isActiveHours
      sentiment := effectiveSentiment r.sentiment trigger }
  let first := choose (← status r.conversation) situation
  let generated ← match first with
    | .respondText _ => some <$> write errands r first
    | _ => pure none
  onProcess process (conclude r state before trigger first generated)

end SalesDesk.Desk
