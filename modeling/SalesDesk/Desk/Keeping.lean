import SalesDesk.Desk.Accounts
import SalesDesk.Desk.Conversations

/-!
# Acts on the archive

Saving and resuming the usage of tenants and the status of conversations, and keeping audit records.
A failed write shows in the result and in the log, and undoes nothing that was done before.
-/

namespace SalesDesk.Desk

def saveUsage (tenant : String) (e : Archive.UsageEntry) : Act (Result Bool) := do
  let time ← now
  match ← Act.look fun d => d.archive.saveUsage tenant e time with
  | .ok archive =>
    Act.change fun d => { d with archive }
    return .success true
  | .error e =>
    notify [Archive.usageNotSaved tenant e]
    return .failure e.message Archive.saveErrorCode

def saveStatus (conversation : String) (e : Archive.StatusEntry) : Act (Result Bool) := do
  let time ← now
  match ← Act.look fun d => d.archive.saveStatus conversation e time with
  | .ok archive =>
    Act.change fun d => { d with archive }
    return .success true
  | .error e =>
    notify [Archive.statusNotSaved conversation e]
    return .failure e.message Archive.saveErrorCode

/-- Saves the usage of a tenant as it is; was it saved? -/
def persistTenant (tenant : String) : Act Bool := do
  let usage ← usage tenant
  return (← saveUsage tenant (.ofUsage usage)).isOk

/-- Saves the status of a conversation as it is; was it saved? -/
def persistConversation (tenant conversation : String) : Act Bool := do
  let status ← status conversation
  return (← saveStatus conversation (.ofStatus tenant status)).isOk

/-- Resumes the usage of tenants from their rows. -/
def resumeUsages : Table Archive.UsageRow → Act Unit
  | [] => return ()
  | (tenant, row) :: rest => do
    restoreUsage tenant row.usage
    resumeUsages rest

/-- Resumes conversations from their rows, and counts them. A row whose state is not known is passed
over. -/
def resumeStatuses : Table Archive.ConversationRow → Act Nat
  | [] => return 0
  | (conversation, row) :: rest => do
    match row.status? with
    | some s =>
      restoreStatus conversation s
      return (← resumeStatuses rest) + 1
    | none =>
      notify [Archive.skippedNotice conversation row.state]
      resumeStatuses rest

/-- Resumes all tenants and conversations from the archive. -/
def resume : Act Archive.Resumed := do
  let usages ← Act.look fun d => d.archive.usages
  resumeUsages usages
  let conversations ← resumeStatuses (← Act.look fun d => d.archive.conversations)
  let resumed : Archive.Resumed := { tenants := usages.length, conversations }
  notify [Archive.resumedNotice resumed]
  return resumed

/-- Makes a record of an entry, with the next id. Without a time of its own it gets the time of the
clock, and a time without offset is universal time. -/
def makeRecord (e : Audit.Entry) (time : Option Timestamp) : Act Audit.Record := do
  Act.change fun d => { d with lastId := d.lastId + 1 }
  let id ← Act.look fun d => Audit.idText d.lastId
  let time ← match time with
    | some t => Act.ofExcept .time t.asUtc
    | none => now
  return { toEntry := e, id, time }

def keepRecord (r : Audit.Record) : Act (Result Audit.Record) := do
  match ← Act.look fun d => d.archive.append r with
  | .ok archive =>
    Act.change fun d => { d with archive }
    notify [r.writtenNotice]
    return .success r
  | .error e =>
    notify [r.failedNotice e.message]
    return .failure e.message Audit.writeErrorCode

def trail (conversation : Option String) : Act (List Audit.Record) :=
  Act.look fun d => d.archive.audit.ofConversation conversation

def report (start stop : Timestamp) : Act Audit.Report := do
  Act.ofExcept .time (← Act.look fun d =>
    Audit.Report.make d.archive.audit d.settings.fallback start stop)

def persistTenants : List String → Act Unit
  | [] => return ()
  | tenant :: rest => do
    let _ ← persistTenant tenant
    persistTenants rest

/-- A pass over all tenants: runs the resets that are due and gives those of the tenants that had
any. The usage of these tenants is saved, if asked. -/
def fire (persist : Bool) : Act (Table (List Quota.Reset)) := do
  let applied ← runDue (← Act.look fun d => d.ledger.tenants)
  if persist then persistTenants applied.names
  if applied = [] then return applied
  notify [Quota.passApplied applied]
  return applied

def schedulerDisabled : Log.Notice :=
  { level := .warning, part := "main", message := "Quota reset scheduler disabled" }

def startedNotice (tenants : Nat) (generator : Bool) : Log.Notice :=
  { level := .info, part := "main", message := "Sellify core started",
    context := [("tenants", .int tenants), ("generator", .bool generator)] }

/-- Starts the process: resumes from the archive, runs the resets that were missed, and starts the
schedule. -/
def start : Act Unit := do
  let _ ← resume
  let _ ← fire true
  if ← Act.look fun d => d.settings.schedulerEnabled then
    let (schedule, notices) ← Act.look fun d => d.schedule.start
    Act.change fun d => { d with schedule }
    notify notices
  else notify [schedulerDisabled]
  notify [← Act.look fun d => startedNotice d.ledger.tenants.length d.generator.isSome]

def stop : Act Unit := do
  let (schedule, notices) ← Act.look fun d => d.schedule.stop
  Act.change fun d => { d with schedule }
  notify notices

end SalesDesk.Desk
