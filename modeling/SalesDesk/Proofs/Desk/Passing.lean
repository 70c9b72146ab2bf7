import SalesDesk.Proofs.Desk.Frame

/-!
# The course of a pass and of a start

What a reset pass and the start of a process do, in every frame that allows what they change: the
accounts that a pass renews and the rows that it saves, the accounts and statuses that are resumed
from rows, and the schedule.
-/

namespace SalesDesk

open Quota

namespace Desk

/-- The part of the start that follows the pass. -/
def begin : Act Unit := do
  if ← Act.look fun d => d.settings.schedulerEnabled then
    let (schedule, notices) ← Act.look fun d => d.schedule.start
    Act.change fun d => { d with schedule }
    notify notices
  else notify [schedulerDisabled]
  notify [← Act.look fun d => startedNotice d.ledger.tenants.length d.generator.isSome]

theorem start_eq : start = (resume >>= fun _ => fire true >>= fun _ => begin) :=
  rfl

namespace Frame

variable {α : Type} {R : Nat → Desk → Desk → Prop} {d : Desk} {tenant : String} (hR : Frame R)

include hR

theorem leads_onAccount {f : Account → α × Account}
    (h : ∀ (d : Desk) a, d.ledger.account tenant d.clock.toUtc = .ok a →
      R 0 d (d.withAccount tenant (f a).2)) : (onAccount tenant f).Leads (R 0) := by
  intro d
  cases ha : d.ledger.account tenant d.clock.toUtc with
  | ok a =>
    rw [run_onAccount ha]
    exact h d a ha
  | error e =>
    rw [run_onAccount_error ha]
    exact hR.refl d

/-! ## The pass -/

section Pass

variable
  (hdue : ∀ (tenant : String) (t : Timestamp) (d : Desk) (a : Account),
    d.ledger.account tenant d.clock.toUtc = .ok a →
      R 0 d (d.withAccount tenant (a.applyDue t).2))

include hdue

theorem leads_applyDue (tenant : String) : (applyDue tenant).Leads (R 0) := by
  unfold applyDue
  apply hR.leads_bind hR.leads_now
  intro time
  apply hR.leads_bind (hR.leads_onAccount (hdue tenant time))
  intro result
  apply hR.leads_bind (hR.leads_ofExcept _ result)
  intro applied
  split
  · exact hR.leads_pure _
  · exact hR.leads_bind (hR.leads_notify _) fun _ => hR.leads_pure _

theorem leads_runDue (tenants : List String) : (runDue tenants).Leads (R 0) := by
  induction tenants with
  | nil => exact hR.leads_pure _
  | cons tenant rest ih =>
    unfold runDue
    apply hR.leads_bind (hR.leads_applyDue hdue tenant)
    intro applied
    exact hR.leads_bind ih fun _ => hR.leads_pure _

end Pass

section Rows

variable
  (husage : ∀ (tenant : String) (d : Desk) e t archive,
    d.archive.saveUsage tenant e t = .ok archive → R 0 d { d with archive })

include husage

theorem leads_persistTenants (tenants : List String) : (persistTenants tenants).Leads (R 0) := by
  induction tenants with
  | nil => exact hR.leads_pure _
  | cons tenant rest ih =>
    unfold persistTenants
    exact hR.leads_bind (hR.leads_persistTenant (husage tenant)) fun _ => ih

variable
  (hdue : ∀ (tenant : String) (t : Timestamp) (d : Desk) (a : Account),
    d.ledger.account tenant d.clock.toUtc = .ok a →
      R 0 d (d.withAccount tenant (a.applyDue t).2))

include hdue

theorem leads_fire (persist : Bool) : (fire persist).Leads (R 0) := by
  have htell (applied : Table (List Reset)) : (do
      if applied = [] then return applied
      notify [passApplied applied]
      return applied : Act (Table (List Reset))).Leads (R 0) := by
    split
    · exact hR.leads_pure _
    · exact hR.leads_bind (hR.leads_notify _) fun _ => hR.leads_pure _
  unfold fire
  apply hR.leads_bind (hR.leads_look _)
  intro tenants
  apply hR.leads_bind (hR.leads_runDue hdue tenants)
  intro applied
  cases persist with
  | false => exact htell applied
  | true => exact hR.leads_bind (hR.leads_persistTenants husage _) fun _ => htell applied

end Rows

/-! ## The start -/

theorem leads_resumeUsages {rows : Table Archive.UsageRow}
    (h : ∀ e ∈ rows, ∀ (d : Desk) (a : Account), d.ledger.account e.1 d.clock.toUtc = .ok a →
      R 0 d (d.withAccount e.1 { a with usage := e.2.usage })) :
    (resumeUsages rows).Leads (R 0) := by
  induction rows with
  | nil => exact hR.leads_pure _
  | cons e rest ih =>
    unfold resumeUsages restoreUsage
    apply hR.leads_bind (hR.leads_onAccount (h e (List.mem_cons_self ..)))
    intro _
    exact ih fun e he => h e (List.mem_cons_of_mem _ he)

theorem leads_begin (hschedule : ∀ (d : Desk) schedule, R 0 d { d with schedule }) :
    begin.Leads (R 0) := by
  have htell : (do
      notify [← Act.look fun d => startedNotice d.ledger.tenants.length d.generator.isSome]
      : Act Unit).Leads (R 0) :=
    hR.leads_bind (hR.leads_look _) fun _ => hR.leads_notify _
  unfold begin
  apply hR.leads_bind (hR.leads_look _)
  intro enabled
  cases enabled with
  | false => exact hR.leads_bind (hR.leads_notify _) fun _ => htell
  | true =>
    apply hR.leads_bind (hR.leads_look _)
    intro begun
    apply hR.leads_bind (leads_change fun d => hschedule d begun.1)
    intro _
    exact hR.leads_bind (hR.leads_notify _) fun _ => htell

section Statuses

variable
  (hstatus : ∀ (d : Desk) (id : String) (s : Conversation.Status),
    R 0 d { d with registry := d.registry.restore id s })

include hstatus

theorem leads_resumeStatuses (rows : Table Archive.ConversationRow) :
    (resumeStatuses rows).Leads (R 0) := by
  induction rows with
  | nil => exact hR.leads_pure _
  | cons e rest ih =>
    unfold resumeStatuses
    split
    · apply hR.leads_bind (leads_change fun d => hstatus d _ _)
      intro _
      exact hR.leads_bind ih fun _ => hR.leads_pure _
    · exact hR.leads_bind (hR.leads_notify _) fun _ => ih

/-- Resuming allows for the rows that are there when it begins. -/
theorem resumed (h : ∀ e ∈ d.archive.usages, ∀ (d' : Desk) (a : Account),
      d'.ledger.account e.1 d'.clock.toUtc = .ok a →
        R 0 d' (d'.withAccount e.1 { a with usage := e.2.usage })) :
    R 0 d (resume.run d).2 := by
  have hlook := Act.run_look (fun d : Desk => d.archive.usages) d
  unfold resume
  rw [Act.run_bind_ok hlook]
  refine hR.leads_bind (hR.leads_resumeUsages h) (fun _ => ?_) d
  apply hR.leads_bind (hR.leads_look _)
  intro rows
  apply hR.leads_bind (hR.leads_resumeStatuses hstatus rows)
  intro count
  exact hR.leads_bind (hR.leads_notify _) fun _ => hR.leads_pure _

theorem started
    (hrows : ∀ e ∈ d.archive.usages, ∀ (d' : Desk) (a : Account),
      d'.ledger.account e.1 d'.clock.toUtc = .ok a →
        R 0 d' (d'.withAccount e.1 { a with usage := e.2.usage }))
    (hdue : ∀ (tenant : String) (t : Timestamp) (d : Desk) (a : Account),
      d.ledger.account tenant d.clock.toUtc = .ok a →
        R 0 d (d.withAccount tenant (a.applyDue t).2))
    (husage : ∀ (tenant : String) (d : Desk) e t archive,
      d.archive.saveUsage tenant e t = .ok archive → R 0 d { d with archive })
    (hschedule : ∀ (d : Desk) schedule, R 0 d { d with schedule }) : R 0 d (start.run d).2 := by
  rw [start_eq]
  apply hR.after_bind (hR.resumed hstatus hrows)
  intro _
  exact hR.leads_bind (hR.leads_fire husage hdue true) fun _ => hR.leads_begin hschedule

end Statuses

end Frame

end Desk

end SalesDesk
