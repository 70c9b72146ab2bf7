import SalesDesk.Desk.Basic

/-!
# Acts on accounts

Every act on a tenant works on one account; asking about a tenant enters its account. The clock is
read where an account is entered, where a reset is run or asked for, and where something is logged.
-/

namespace SalesDesk.Desk

open Quota

def onAccount {β : Type} (tenant : String) (f : Account → β × Account) : Act β := fun d =>
  match d.ledger.act tenant d.clock.toUtc f with
  | .ok (answer, ledger) => (.ok answer, { d with ledger })
  | .error e => (.error (.time e), d)

def account {β : Type} (tenant : String) (f : Account → β) : Act β :=
  onAccount tenant fun a => (f a, a)

def usage (tenant : String) : Act Usage := account tenant fun a => a.usage

def snapshot (tenant : String) : Act Snapshot := account tenant Account.snapshot

def limits (tenant : String) : Act Limits := account tenant fun a => a.limits

def checkMessage (tenant : String) : Act Bool := account tenant Account.canSendMessage

def checkMedia (tenant : String) (m : Media) : Act Bool := account tenant fun a => a.canSendMedia m

/-- The pause before a send. No number is drawn where there is no account. -/
def pause (tenant : String) : Act Int := do
  let _ ← snapshot tenant
  let base ← drawBase
  Act.ofExcept .quota (← account tenant fun a => a.delay base)

/-- Admits and counts a message. A number is only drawn for a message that is admitted. -/
def tryMessage (tenant : String) : Act Admission := do
  let base ← if ← checkMessage tenant then drawBase else pure 0
  let admission ← Act.ofExcept .quota (← onAccount tenant fun a => a.tryMessage base)
  if admission.allowed then return admission
  notify [messageRefused tenant admission.before]
  return admission

def tryMedia (tenant : String) (m : Media) : Act Admission := do
  let base ← if ← checkMedia tenant m then drawBase else pure 0
  let admission ← Act.ofExcept .quota (← onAccount tenant fun a => a.tryMedia m base)
  if admission.allowed then return admission
  notify [mediaRefused tenant m]
  return admission

/-- Begins a new day for a tenant. The counters begin anew even if the clock then has no time for
the reset. -/
def resetDaily (tenant : String) : Act Usage := do
  onAccount tenant fun a => ((), a.withSnapshot a.snapshot.newDay)
  let time ← now
  let usage ← onAccount tenant fun a => let b := a.resetDaily time; (b.usage, b)
  notify [dailyReset tenant]
  return usage

/-- Begins a new week for a tenant, in the same way. -/
def resetWeekly (tenant : String) : Act Usage := do
  onAccount tenant fun a => ((), a.withSnapshot a.snapshot.newWeek)
  let time ← now
  let usage ← onAccount tenant fun a => let b := a.resetWeekly time; (b.usage, b)
  notify [weeklyReset tenant]
  return usage

def needsResets (tenant : String) : Act (Bool × Bool) := do
  let time ← now
  Act.ofExcept .quota (← account tenant fun a => a.needsResets time)

def applyDue (tenant : String) : Act (List Reset) := do
  let time ← now
  let applied ← Act.ofExcept .quota (← onAccount tenant fun a => a.applyDue time)
  if applied = [] then return applied
  notify [dueApplied tenant applied]
  return applied

def configure (tenant : String) (limits : Limits) : Act Unit := do
  onAccount tenant fun a => ((), { a with limits })
  notify [configuredNotice tenant]

def restoreUsage (tenant : String) (usage : Usage) : Act Unit :=
  onAccount tenant fun a => ((), { a with usage })

/-- Runs the resets that are due for some tenants, and gives those of the tenants that had any. -/
def runDue : List String → Act (Table (List Reset))
  | [] => return []
  | tenant :: rest => do
    let applied ← applyDue tenant
    let others ← runDue rest
    return if applied = [] then others else (tenant, applied) :: others

end SalesDesk.Desk
