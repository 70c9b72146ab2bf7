import SalesDesk.Proofs.Desk.Acts
import SalesDesk.Proofs.Quota.Gauge

/-!
# Requests about one tenant

Sends, resets, the reset pass and questions are served one after another. Serving a request works on
the account of its tenant and on no other; what is answered and what the account is afterwards
depends on the account, the request and the clock alone, up to the length of a pause.
-/

namespace SalesDesk

open Quota

/-! Messages, images and videos are admitted in one way, and both kinds of reset are run in one. -/

namespace Quota

def Send.refused (tenant : String) (s : Snapshot) : Send → Log.Notice
  | message => messageRefused tenant s
  | media m => mediaRefused tenant m

def Reset.notice (tenant : String) : Reset → Log.Notice
  | daily => dailyReset tenant
  | weekly => weeklyReset tenant

namespace Account

variable {a : Account} {after : Snapshot} {base : Int}

def reset (a : Account) (r : Reset) (now : Timestamp) : Account :=
  { a with usage := { toSnapshot := r.renew a.snapshot, lastReset := now } }

theorem grant_admitted {pause : Int} (h : a.delay base = .ok pause) :
    a.grant true after base =
      (.ok ⟨true, a.snapshot, after, some pause⟩, a.withSnapshot after) := by
  simp only [grant, h, if_pos]

theorem grant_noPause {fault : Error} (h : a.delay base = .error fault) :
    a.grant true after base = (.error fault, a) := by
  simp only [grant, h, if_pos]

theorem grant_refused : a.grant false after base =
    (.ok ⟨false, a.snapshot, a.snapshot, none⟩, a) := rfl

end Account

end Quota

namespace Desk

variable {d : Desk} {t : Timestamp} {e : TimeError} {tenant : String} {a : Account}

def trySend (tenant : String) : Send → Act Admission
  | .message => tryMessage tenant
  | .media m => tryMedia tenant m

def runReset (tenant : String) : Reset → Act Usage
  | .daily => resetDaily tenant
  | .weekly => resetWeekly tenant

theorem trySend_eq (tenant : String) (x : Send) : trySend tenant x = (do
    let base ← if ← account tenant x.can then drawBase else pure 0
    let admission ← Act.ofExcept .quota
      (← onAccount tenant fun a => a.grant (x.can a) (x.count a.snapshot) base)
    if admission.allowed then return admission
    notify [x.refused tenant admission.before]
    return admission) := by
  cases x <;> rfl

theorem runReset_eq (tenant : String) (r : Reset) : runReset tenant r = (do
    onAccount tenant fun a => ((), a.withSnapshot (r.renew a.snapshot))
    let time ← now
    let usage ← onAccount tenant fun a => let b := a.reset r time; (b.usage, b)
    notify [r.notice tenant]
    return usage) := by
  cases r <;> rfl

theorem run_trySend_admitted {x : Send} {pause : Int}
    (h : d.ledger.account tenant d.clock.toUtc = .ok a) (hcan : x.can a = true)
    (hpause : a.delay d.base = .ok pause) :
    (trySend tenant x).run d =
      (.ok ⟨true, a.snapshot, x.count a.snapshot, some pause⟩,
        d.drawn.withAccount tenant (a.withSnapshot (x.count a.snapshot))) := by
  have hknown : (d.withAccount tenant a).drawn.ledger.account tenant
      (d.withAccount tenant a).drawn.clock.toUtc = .ok a := account_withAccount _
  rw [trySend_eq, Act.run_bind_ok (run_account h x.can), if_pos hcan,
    Act.run_bind_ok (run_drawBase _), Act.run_bind_ok (run_onAccount hknown _)]
  have hbase : a.delay (d.withAccount tenant a).base = .ok pause := hpause
  rw [hcan, Account.grant_admitted hbase, withAccount_drawn_withAccount]
  rfl

theorem run_trySend_noPause {x : Send} {fault : Error}
    (h : d.ledger.account tenant d.clock.toUtc = .ok a) (hcan : x.can a = true)
    (hpause : a.delay d.base = .error fault) :
    (trySend tenant x).run d = (.error (.quota fault), d.drawn.withAccount tenant a) := by
  have hknown : (d.withAccount tenant a).drawn.ledger.account tenant
      (d.withAccount tenant a).drawn.clock.toUtc = .ok a := account_withAccount _
  rw [trySend_eq, Act.run_bind_ok (run_account h x.can), if_pos hcan,
    Act.run_bind_ok (run_drawBase _), Act.run_bind_ok (run_onAccount hknown _)]
  have hbase : a.delay (d.withAccount tenant a).base = .error fault := hpause
  rw [hcan, Account.grant_noPause hbase, withAccount_drawn_withAccount]
  exact Act.run_bind_error (Act.run_ofExcept_error ..)

theorem run_trySend_refused {x : Send} (h : d.ledger.account tenant d.clock.toUtc = .ok a)
    (hcan : x.can a = false) (hclock : d.clock.toUtc = .ok t) :
    (trySend tenant x).run d = (.ok ⟨false, a.snapshot, a.snapshot, none⟩,
      (d.withAccount tenant a).logged t [x.refused tenant a.snapshot]) := by
  have hknown : (d.withAccount tenant a).ledger.account tenant
      (d.withAccount tenant a).clock.toUtc = .ok a := account_withAccount _
  rw [trySend_eq, Act.run_bind_ok (run_account h x.can), if_neg (by simp [hcan]),
    Act.run_bind_ok (Act.run_pure 0 _), Act.run_bind_ok (run_onAccount hknown _)]
  rw [hcan, Account.grant_refused, withAccount_withAccount,
    Act.run_bind_ok (Act.run_ofExcept_ok ..), if_neg (by simp)]
  exact Act.run_bind_ok (run_notify (d := d.withAccount tenant a) hclock _)

theorem run_trySend_unlogged {x : Send} (h : d.ledger.account tenant d.clock.toUtc = .ok a)
    (hcan : x.can a = false) (hclock : d.clock.toUtc = .error e) :
    (trySend tenant x).run d = (.error (.time e), d.withAccount tenant a) := by
  have hknown : (d.withAccount tenant a).ledger.account tenant
      (d.withAccount tenant a).clock.toUtc = .ok a := account_withAccount _
  rw [trySend_eq, Act.run_bind_ok (run_account h x.can), if_neg (by simp [hcan]),
    Act.run_bind_ok (Act.run_pure 0 _), Act.run_bind_ok (run_onAccount hknown _)]
  rw [hcan, Account.grant_refused, withAccount_withAccount,
    Act.run_bind_ok (Act.run_ofExcept_ok ..), if_neg (by simp)]
  exact Act.run_bind_error (run_notify_error (d := d.withAccount tenant a) hclock _ _)

theorem run_runReset (r : Reset) (h : d.ledger.account tenant d.clock.toUtc = .ok a)
    (hclock : d.clock.toUtc = .ok t) : (runReset tenant r).run d =
      (.ok (a.reset r t).usage,
        (d.withAccount tenant (a.reset r t)).logged t [r.notice tenant]) := by
  let zeroed := a.withSnapshot (r.renew a.snapshot)
  have hzeroed : (d.withAccount tenant zeroed).ledger.account tenant
      (d.withAccount tenant zeroed).clock.toUtc = .ok zeroed := account_withAccount _
  have hagain : zeroed.reset r t = a.reset r t := by
    cases r <;> rfl
  rw [runReset_eq, Act.run_bind_ok (run_onAccount h _),
    Act.run_bind_ok (run_now (d := d.withAccount tenant zeroed) hclock),
    Act.run_bind_ok (run_onAccount hzeroed _), withAccount_withAccount, hagain]
  exact Act.run_bind_ok (run_notify (d := d.withAccount tenant (a.reset r t)) hclock _)

theorem run_runReset_unstamped (r : Reset) (h : d.ledger.account tenant d.clock.toUtc = .ok a)
    (hclock : d.clock.toUtc = .error e) :
    (runReset tenant r).run d =
      (.error (.time e), d.withAccount tenant (a.withSnapshot (r.renew a.snapshot))) := by
  rw [runReset_eq, Act.run_bind_ok (run_onAccount h _)]
  exact Act.run_bind_error (run_now_error hclock)

theorem run_applyDue {usage : Usage} {applied : List Reset}
    (h : d.ledger.account tenant d.clock.toUtc = .ok a) (hclock : d.clock.toUtc = .ok t)
    (hdue : a.usage.applyDue t = .ok (usage, applied)) : (applyDue tenant).run d =
      (.ok applied, (d.withAccount tenant { a with usage }).logged t
        (if applied = [] then [] else [dueApplied tenant applied])) := by
  have hact : a.applyDue t = (.ok applied, { a with usage }) := by
    simp only [Account.applyDue, hdue]
  simp only [applyDue]
  rw [Act.run_bind_ok (run_now hclock), Act.run_bind_ok (run_onAccount h _), hact]
  rw [Act.run_bind_ok (Act.run_ofExcept_ok ..)]
  by_cases hnone : applied = []
  · rw [if_pos hnone, if_pos hnone, logged]
    simp [Act.run_pure]
  · rw [if_neg hnone, if_neg hnone]
    exact Act.run_bind_ok (run_notify (d := d.withAccount tenant { a with usage }) hclock _)

theorem run_applyDue_unread {fault : TimeError}
    (h : d.ledger.account tenant d.clock.toUtc = .ok a) (hclock : d.clock.toUtc = .ok t)
    (hdue : a.usage.applyDue t = .error fault) :
    (applyDue tenant).run d = (.error (.quota (.time fault)), d.withAccount tenant a) := by
  have hact : a.applyDue t = (.error (.time fault), a) := by
    simp only [Account.applyDue, hdue]
  simp only [applyDue]
  rw [Act.run_bind_ok (run_now hclock), Act.run_bind_ok (run_onAccount h _), hact]
  exact Act.run_bind_error (Act.run_ofExcept_error ..)

end Desk

/-! ## Requests -/

namespace Quota

inductive Question where
  | message
  | media (m : Media)
  | usage
  | snapshot
  | limits
  | resets
  | pause
  deriving DecidableEq, Repr

inductive Request where
  | send (x : Send)
  | reset (r : Reset)
  | applyDue
  | ask (q : Question)
  deriving DecidableEq, Repr

/-- What comes back, as far as it says what was done. -/
inductive Reply where
  | admission (a : Admission)
  | resets (applied : List Reset)
  | done
  deriving DecidableEq, Repr

namespace Question

def ask (tenant : String) : Question → Act Unit
  | message => (fun _ => ()) <$> Desk.checkMessage tenant
  | media m => (fun _ => ()) <$> Desk.checkMedia tenant m
  | usage => (fun _ => ()) <$> Desk.usage tenant
  | snapshot => (fun _ => ()) <$> Desk.snapshot tenant
  | limits => (fun _ => ()) <$> Desk.limits tenant
  | resets => (fun _ => ()) <$> Desk.needsResets tenant
  | pause => (fun _ => ()) <$> Desk.pause tenant

end Question

namespace Request

def perform (tenant : String) : Request → Act Reply
  | send x => Reply.admission <$> Desk.trySend tenant x
  | reset r => (fun _ => .done) <$> Desk.runReset tenant r
  | applyDue => Reply.resets <$> Desk.applyDue tenant
  | ask q => (fun _ => .done) <$> q.ask tenant

end Request

/-- The answer to a request and the account after it, for the account before it and the reading of
the clock. A refusal is logged and a reset is stamped, so both need the time; an admission does
not. -/
inductive Served (now : Except TimeError Timestamp) (a : Account) :
    Request → Except Fault Reply → Account → Prop
  | admitted {x : Send} {pause : Int} (can : x.can a = true) (low : 2 ≤ pause) (high : pause ≤ 24) :
      Served now a (.send x)
        (.ok (.admission ⟨true, a.snapshot, x.count a.snapshot, some pause⟩))
        (a.withSnapshot (x.count a.snapshot))
  | noPause {x : Send} {fault : Fault} (can : x.can a = true)
      (beyond : max (Word.bound 64) a.limits.messagesPerDay < a.snapshot.messagesToday.natAbs) :
      Served now a (.send x) (.error fault) a
  | refused {x : Send} {t : Timestamp} (cannot : x.can a = false) (clock : now = .ok t) :
      Served now a (.send x) (.ok (.admission ⟨false, a.snapshot, a.snapshot, none⟩)) a
  | unlogged {x : Send} {e : TimeError} (cannot : x.can a = false) (clock : now = .error e) :
      Served now a (.send x) (.error (.time e)) a
  | reset {r : Reset} {t : Timestamp} (clock : now = .ok t) :
      Served now a (.reset r) (.ok .done) (a.reset r t)
  | unstamped {r : Reset} {e : TimeError} (clock : now = .error e) :
      Served now a (.reset r) (.error (.time e)) (a.withSnapshot (r.renew a.snapshot))
  | due {t : Timestamp} {usage : Usage} {applied : List Reset} (clock : now = .ok t)
      (applyDue : a.usage.applyDue t = .ok (usage, applied)) :
      Served now a .applyDue (.ok (.resets applied)) { a with usage }
  | unread {fault : Fault} (unreadable : ∀ t u, now = .ok t → a.usage.lastReset.toUtc ≠ .ok u) :
      Served now a .applyDue (.error fault) a
  | asked {q : Question} {answer : Except Fault Reply} : Served now a (.ask q) answer a

end Quota

namespace Desk

variable {d : Desk} {t : Timestamp} {e : TimeError} {tenant : String} {a : Account}

private theorem run_ask (q : Question) (h : d.ledger.account tenant d.clock.toUtc = .ok a) :
    ((q.ask tenant).run d).2.ledger = (d.withAccount tenant a).ledger := by
  cases q with
  | message => simp only [Question.ask, checkMessage, Act.run_map, run_account h]
  | media m => simp only [Question.ask, checkMedia, Act.run_map, run_account h]
  | usage => simp only [Question.ask, usage, Act.run_map, run_account h]
  | snapshot => simp only [Question.ask, snapshot, Act.run_map, run_account h]
  | limits => simp only [Question.ask, limits, Act.run_map, run_account h]
  | resets =>
    simp only [Question.ask, needsResets, Act.run_map]
    cases hclock : d.clock.toUtc with
    | ok t =>
      rw [Act.run_bind_ok (run_now hclock), Act.run_bind_ok (run_account h _)]
      cases a.needsResets t <;> rfl
    | error e =>
      rw [hclock] at h
      rw [Act.run_bind_error (run_now_error hclock), withAccount_of_find? (find?_of_clock_error h)]
  | pause =>
    simp only [Question.ask, Act.run_map, run_pause h]
    rfl

/-- A request on an account that can be read is served, and no other account changes. -/
theorem run_perform (q : Request) (h : d.ledger.account tenant d.clock.toUtc = .ok a) :
    ∃ b, Served d.clock.toUtc a q ((q.perform tenant).run d).1 b ∧
      ((q.perform tenant).run d).2.ledger = (d.withAccount tenant b).ledger := by
  cases q with
  | send x =>
    simp only [Request.perform, Act.run_map]
    cases hcan : x.can a with
    | true =>
      cases hpause : a.delay d.base with
      | ok pause =>
        rw [run_trySend_admitted h hcan hpause]
        obtain ⟨hlow, hhigh⟩ := Account.delay_bounds (d.base_bounds) hpause
        exact ⟨_, .admitted hcan hlow hhigh, rfl⟩
      | error fault =>
        rw [run_trySend_noPause h hcan hpause]
        exact ⟨a, .noPause hcan (Account.beyond_of_delay_error hpause), rfl⟩
    | false =>
      cases hclock : d.clock.toUtc with
      | ok t =>
        rw [run_trySend_refused h hcan hclock]
        exact ⟨a, .refused hcan rfl, rfl⟩
      | error e =>
        rw [run_trySend_unlogged h hcan hclock]
        exact ⟨a, .unlogged hcan rfl, rfl⟩
  | reset r =>
    simp only [Request.perform, Act.run_map]
    cases hclock : d.clock.toUtc with
    | ok t =>
      rw [run_runReset r h hclock]
      exact ⟨_, .reset rfl, rfl⟩
    | error e =>
      rw [run_runReset_unstamped r h hclock]
      exact ⟨_, .unstamped rfl, rfl⟩
  | applyDue =>
    simp only [Request.perform, Act.run_map]
    cases hclock : d.clock.toUtc with
    | ok t =>
      cases hdue : a.usage.applyDue t with
      | ok due =>
        rw [run_applyDue h hclock hdue]
        exact ⟨_, .due rfl hdue, rfl⟩
      | error fault =>
        rw [run_applyDue_unread h hclock hdue]
        refine ⟨a, .unread fun s u hs hlast => ?_, rfl⟩
        cases hs
        have htime := Timestamp.toUtc_of_toUtc hclock
        rw [Usage.applyDue_eq htime hlast] at hdue
        cases hdue
    | error e =>
      rw [hclock] at h
      have hsame : d = d.withAccount tenant a :=
        (withAccount_of_find? (find?_of_clock_error h)).symm
      rw [applyDue, Act.run_bind_error (run_now_error hclock)]
      exact ⟨a, .unread fun s u hs _ => (by cases hs), congrArg (fun x : Desk => x.ledger) hsame⟩
  | ask q =>
    refine ⟨a, .asked, ?_⟩
    simp only [Request.perform, Act.run_map]
    exact run_ask q h

/-- A tenant who is not known cannot be served while the clock cannot be read. -/
theorem run_perform_error (q : Request) (h : d.ledger.account tenant d.clock.toUtc = .error e) :
    (q.perform tenant).run d = (.error (.time e), d) := by
  have hnow := run_now_error (clock_of_account_error h)
  cases q with
  | send x =>
    simp only [Request.perform, Act.run_map]
    rw [trySend_eq, Act.run_bind_error (run_account_error h)]
    rfl
  | reset r =>
    simp only [Request.perform, Act.run_map]
    rw [runReset_eq, Act.run_bind_error (run_onAccount_error h _)]
    rfl
  | applyDue =>
    simp only [Request.perform, Act.run_map]
    rw [applyDue, Act.run_bind_error hnow]
    rfl
  | ask q =>
    simp only [Request.perform, Act.run_map]
    cases q with
    | message => rw [Question.ask, Act.run_map, checkMessage, run_account_error h]; rfl
    | media m => rw [Question.ask, Act.run_map, checkMedia, run_account_error h]; rfl
    | usage => rw [Question.ask, Act.run_map, usage, run_account_error h]; rfl
    | snapshot => rw [Question.ask, Act.run_map, snapshot, run_account_error h]; rfl
    | limits => rw [Question.ask, Act.run_map, limits, run_account_error h]; rfl
    | resets => rw [Question.ask, Act.run_map, needsResets, Act.run_bind_error hnow]; rfl
    | pause =>
      rw [Question.ask, Act.run_map, pause, snapshot, Act.run_bind_error (run_account_error h)]
      rfl

end Desk

end SalesDesk
