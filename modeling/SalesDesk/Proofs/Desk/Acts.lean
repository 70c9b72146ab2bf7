import SalesDesk.Desk.Accounts
import SalesDesk.Proofs.Quota.Pause
import Mathlib.Tactic.SplitIfs

/-!
# What acts do

The result of an act on a desk and the desk after it, for the acts that others are built from: those
that read the clock, write to the log, draw a number, or work on one account.
-/

namespace SalesDesk

namespace Act

variable {α β : Type}

@[simp] theorem run_map (f : α → β) (act : Act α) (d : Desk) :
    (f <$> act).run d = ((act.run d).1.map f, (act.run d).2) := by
  change (act >>= fun a => pure (f a)).run d = _
  rcases h : act.run d with ⟨e | a, later⟩
  · rw [run_bind_error h]
    rfl
  · rw [run_bind_ok h]
    rfl

@[simp] theorem run_look (f : Desk → α) (d : Desk) : (look f).run d = (.ok (f d), d) := rfl

@[simp] theorem run_change (f : Desk → Desk) (d : Desk) : (change f).run d = (.ok (), f d) := rfl

@[simp] theorem run_ofExcept_ok {ε : Type} (fault : ε → Fault) (a : α) (d : Desk) :
    (ofExcept fault (.ok a)).run d = (.ok a, d) := rfl

@[simp] theorem run_ofExcept_error {ε : Type} (fault : ε → Fault) (e : ε) (d : Desk) :
    (ofExcept fault (.error e) : Act α).run d = (.error (fault e), d) := rfl

end Act

namespace Desk

open Quota

variable {α : Type} {d : Desk} {t : Timestamp} {e : TimeError} {tenant : String} {a : Account}

/-- The desk with notices written to its log at a time. -/
def logged (d : Desk) (t : Timestamp) (notices : List Log.Notice) : Desk :=
  { d with outbox :=
      { d.outbox with records := d.outbox.records ++ notices.map fun n => n.record t } }

/-- The desk with other records in its log. -/
def withLog (d : Desk) (records : List Log.Record) : Desk :=
  { d with outbox := { d.outbox with records } }

def withAccount (d : Desk) (tenant : String) (a : Account) : Desk :=
  { d with ledger := { d.ledger with accounts := d.ledger.accounts.put tenant a } }

def drawn (d : Desk) : Desk := { d with draws := d.draws.advance }

def base (d : Desk) : Int := d.draws.next baseDelayMin baseDelayMax

theorem base_bounds (d : Desk) : baseDelayMin ≤ d.base ∧ d.base ≤ baseDelayMax :=
  d.draws.next_bounds (by decide)

theorem run_now (h : d.clock.toUtc = .ok t) : now.run d = (.ok t, d) := by
  simp only [Act.run, now, h]

theorem run_now_error (h : d.clock.toUtc = .error e) : now.run d = (.error (.time e), d) := by
  simp only [Act.run, now, h]

theorem run_notify (h : d.clock.toUtc = .ok t) (notices : List Log.Notice) :
    (notify notices).run d = (.ok (), d.logged t notices) := by
  induction notices generalizing d with
  | nil => simp [notify, Act.run_pure, logged]
  | cons n rest ih =>
    have hrest := ih (d := d.logged t [n]) h
    rw [notify, Act.run_bind_ok (run_now h), Act.run_bind_ok (Act.run_change _ d)]
    exact hrest.trans (by simp [logged])

theorem run_notify_error (h : d.clock.toUtc = .error e) (n : Log.Notice)
    (rest : List Log.Notice) : (notify (n :: rest)).run d = (.error (.time e), d) := by
  rw [notify, Act.run_bind_error (run_now_error h)]

theorem run_drawBase (d : Desk) : drawBase.run d = (.ok d.base, d.drawn) := rfl

/-! An account that is known is found again, and one that is new is entered. -/

theorem account_of_find? (h : d.ledger.accounts.find? tenant = some a)
    (now : Except TimeError Timestamp) : d.ledger.account tenant now = .ok a := by
  simp only [Ledger.account, h]

theorem find?_withAccount (d : Desk) (tenant : String) (a : Account) :
    (d.withAccount tenant a).ledger.accounts.find? tenant = some a :=
  Table.find?_put_self ..

theorem account_withAccount (now : Except TimeError Timestamp) :
    (d.withAccount tenant a).ledger.account tenant now = .ok a :=
  account_of_find? (find?_withAccount d tenant a) now

theorem withAccount_withAccount (d : Desk) (tenant : String) (a b : Account) :
    (d.withAccount tenant a).withAccount tenant b = d.withAccount tenant b := by
  simp only [withAccount, Table.put_put]

theorem withAccount_of_find? (h : d.ledger.accounts.find? tenant = some a) :
    d.withAccount tenant a = d := by
  simp only [withAccount, Table.put_of_find? h]

theorem find?_of_clock_error (h : d.ledger.account tenant (.error e) = .ok a) :
    d.ledger.accounts.find? tenant = some a := by
  unfold Ledger.account at h
  split at h
  · rename_i b hfound
    cases h
    exact hfound
  · cases h

theorem clock_of_account_error {now : Except TimeError Timestamp}
    (h : d.ledger.account tenant now = .error e) : now = .error e := by
  unfold Ledger.account at h
  split at h
  · cases h
  · cases now with
    | error fault => exact congrArg Except.error (Except.error.inj h)
    | ok t => cases h

theorem withAccount_drawn_withAccount (d : Desk) (tenant : String) (a b : Account) :
    (d.withAccount tenant a).drawn.withAccount tenant b = d.drawn.withAccount tenant b := by
  simp only [withAccount, drawn, Table.put_put]

theorem run_onAccount (h : d.ledger.account tenant d.clock.toUtc = .ok a)
    (f : Account → α × Account) :
    (onAccount tenant f).run d = (.ok (f a).1, d.withAccount tenant (f a).2) := by
  simp only [Act.run, onAccount, Ledger.act, h, Except.map, withAccount]

theorem run_onAccount_error (h : d.ledger.account tenant d.clock.toUtc = .error e)
    (f : Account → α × Account) : (onAccount tenant f).run d = (.error (.time e), d) := by
  simp only [Act.run, onAccount, Ledger.act, h, Except.map]

theorem run_account_error {f : Account → α} (h : d.ledger.account tenant d.clock.toUtc = .error e) :
    (account tenant f).run d = (.error (.time e), d) :=
  run_onAccount_error h _

theorem run_account (h : d.ledger.account tenant d.clock.toUtc = .ok a) (f : Account → α) :
    (account tenant f).run d = (.ok (f a), d.withAccount tenant a) :=
  run_onAccount h _

theorem run_needsResets {needs : Bool × Bool} (hclock : d.clock.toUtc = .ok t)
    (ha : d.ledger.account tenant d.clock.toUtc = .ok a) (h : a.needsResets t = .ok needs) :
    (needsResets tenant).run d = (.ok needs, d.withAccount tenant a) := by
  unfold needsResets
  rw [Act.run_bind_ok (run_now hclock), Act.run_bind_ok (run_account ha _), h]
  rfl

theorem run_pause (h : d.ledger.account tenant d.clock.toUtc = .ok a) :
    (pause tenant).run d =
      ((a.delay d.base).mapError Fault.quota, d.drawn.withAccount tenant a) := by
  have hknown : (d.withAccount tenant a).drawn.ledger.account tenant
      (d.withAccount tenant a).drawn.clock.toUtc = .ok a := account_withAccount _
  have hbase : (d.withAccount tenant a).base = d.base := rfl
  unfold pause
  rw [snapshot, Act.run_bind_ok (run_account h _), Act.run_bind_ok (run_drawBase _),
    Act.run_bind_ok (run_account hknown _), withAccount_drawn_withAccount, hbase]
  cases a.delay d.base <;> rfl

end Desk

end SalesDesk
