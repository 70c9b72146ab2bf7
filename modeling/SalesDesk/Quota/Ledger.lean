import SalesDesk.Log
import SalesDesk.Quota.Usage

/-!
# Ledger of accounts

Each tenant has an account: its limits and its usage. A tenant that is asked about for the first
time gets an account with the default limits and no usage. Asking for admission and counting the
send are one operation on the account, so no two sends can pass together what one limit allows.
-/

namespace SalesDesk.Quota

structure Account where
  limits : Limits
  usage : Usage
  deriving DecidableEq, Repr, Inhabited

/-- Why an operation on an account has no result. -/
inductive Error where
  | time (e : TimeError)
  /-- The share of the day's messages is beyond the range of the numbers. -/
  | ratioTooLarge
  deriving DecidableEq, Repr

def Error.message : Error → String
  | time e => e.message
  | ratioTooLarge => "integer division result too large for a float"

/-- The answer to a request to send: what was counted before and after, and how long to wait. -/
structure Admission where
  allowed : Bool
  before : Snapshot
  after : Snapshot
  delaySeconds : Option Int := none
  deriving DecidableEq, Repr

namespace Account

def snapshot (a : Account) : Snapshot := a.usage.toSnapshot

def canSendMessage (a : Account) : Bool := a.snapshot.canSendMessage a.limits

def canSendMedia (a : Account) (m : Media) : Bool := a.snapshot.canSendMedia a.limits m

def withSnapshot (a : Account) (s : Snapshot) : Account :=
  { a with usage := { toSnapshot := s, lastReset := a.usage.lastReset } }

/-- The pause before a send, for a base drawn at random. -/
def delay (a : Account) (base : Int) : Except Error Int :=
  match a.snapshot.delay? a.limits base with
  | some d => .ok d
  | none => .error .ratioTooLarge

/-- Admits a send if it may go out, and counts it. -/
def grant (a : Account) (can : Bool) (after : Snapshot) (base : Int) :
    Except Error Admission × Account :=
  if can then
    match a.delay base with
    | .ok d =>
      (.ok { allowed := true, before := a.snapshot, after, delaySeconds := some d },
        a.withSnapshot after)
    | .error e => (.error e, a)
  else (.ok { allowed := false, before := a.snapshot, after := a.snapshot }, a)

def tryMessage (a : Account) (base : Int) : Except Error Admission × Account :=
  a.grant a.canSendMessage a.snapshot.withMessage base

def tryMedia (a : Account) (m : Media) (base : Int) : Except Error Admission × Account :=
  a.grant (a.canSendMedia m) (a.snapshot.withMedia m) base

def resetDaily (a : Account) (now : Timestamp) : Account :=
  { a with usage := a.usage.resetDaily now }

def resetWeekly (a : Account) (now : Timestamp) : Account :=
  { a with usage := a.usage.resetWeekly now }

def needsResets (a : Account) (now : Timestamp) : Except Error (Bool × Bool) :=
  match a.usage.needsDaily now, a.usage.needsWeekly now with
  | .error e, _ => .error (.time e)
  | _, .error e => .error (.time e)
  | .ok daily, .ok weekly => .ok (daily, weekly)

def applyDue (a : Account) (now : Timestamp) : Except Error (List Reset) × Account :=
  match a.usage.applyDue now with
  | .ok (usage, applied) => (.ok applied, { a with usage })
  | .error e => (.error (.time e), a)

end Account

/-- The accounts of all tenants that were ever asked about, and the limits of new ones. -/
structure Ledger where
  defaults : Limits
  accounts : Table Account := []
  deriving Repr, Inhabited

namespace Ledger

/-- The account of a tenant, known or new. Only a new one needs a reading of the clock. -/
def account (l : Ledger) (tenant : String) (now : Except TimeError Timestamp) :
    Except TimeError Account :=
  match l.accounts.find? tenant with
  | some a => .ok a
  | none => now.map fun t => { limits := l.defaults, usage := .fresh t }

/-- Does something with the account of a tenant, which is entered if it is new. -/
def act {β : Type} (l : Ledger) (tenant : String) (now : Except TimeError Timestamp)
    (f : Account → β × Account) : Except TimeError (β × Ledger) :=
  (l.account tenant now).map fun a =>
    ((f a).1, { l with accounts := l.accounts.put tenant (f a).2 })

/-- The tenants in the order in which they were first asked about. -/
def tenants (l : Ledger) : List String := l.accounts.names

end Ledger

/-- The counters under the name `usage`. -/
def usageContext (s : Snapshot) : Context := [("usage", .ofSnapshot s)]

/-- Notices of an engine that counts a send past its limit. -/
def messagePastLimit (s : Snapshot) : Log.Notice :=
  { level := .warning, part := "quota_engine", message := "Message recorded past quota limit",
    context := usageContext s }

def mediaPastLimit (m : Media) (s : Snapshot) : Log.Notice :=
  { level := .warning, part := "quota_engine", message := "Media recorded past quota limit",
    context := ("is_video", .bool (m == .video)) :: usageContext s }

namespace Account

/-- Counts a message that was sent, whether it was admitted or not. -/
def countMessage (a : Account) : Account × List Log.Notice :=
  (a.withSnapshot a.snapshot.withMessage,
    if a.canSendMessage then [] else [messagePastLimit a.snapshot])

/-- Counts an image or a video that was sent, whether it was admitted or not. -/
def countMedia (a : Account) (m : Media) : Account × List Log.Notice :=
  (a.withSnapshot (a.snapshot.withMedia m),
    if a.canSendMedia m then [] else [mediaPastLimit m a.snapshot])

end Account

def configuredNotice (tenant : String) : Log.Notice :=
  { level := .info, part := "quota_service",
    message := "Quota limits reconfigured for tenant " ++ tenant }

def messageRefused (tenant : String) (s : Snapshot) : Log.Notice :=
  { level := .info, part := "quota_service", message := "Message admission refused",
    context := ("tenant_id", .str tenant) :: usageContext s }

def mediaRefused (tenant : String) (m : Media) : Log.Notice :=
  { level := .info, part := "quota_service", message := "Media admission refused",
    context := [("tenant_id", .str tenant), ("is_video", .bool (m == .video))] }

def dailyReset (tenant : String) : Log.Notice :=
  { level := .info, part := "quota_service", message := "Daily quota reset for tenant " ++ tenant }

def weeklyReset (tenant : String) : Log.Notice :=
  { level := .info, part := "quota_service", message := "Weekly quota reset for tenant " ++ tenant }

def resetsDetail (applied : List Reset) : Detail := .list (applied.map fun r => .str r.name)

def dueApplied (tenant : String) (applied : List Reset) : Log.Notice :=
  { level := .info, part := "quota_service", message := "Applied due quota resets",
    context := [("tenant_id", .str tenant), ("resets", resetsDetail applied)] }

end SalesDesk.Quota
