import SalesDesk.Proofs.Desk.Requests
import Mathlib.Data.List.DropRight
import Mathlib.Data.List.Induction

/-!
# Histories of one tenant

A history lists requests with what was answered and the desks before and after. It says which sends
were admitted and where a counter began anew, so that a count of admissions can be read off it. The
theorems here say what one request does to the counters of its tenant, to their limits and to the
time of the last reset; results about whole histories follow by induction on the last request.
-/

namespace SalesDesk

namespace Quota

/-! ## Tenants of a ledger -/

namespace Ledger

/-- The counters of a tenant, known or new. -/
def counters (l : Ledger) (tenant : String) : Snapshot :=
  ((l.accounts.find? tenant).map Account.snapshot).getD {}

/-- The limits of a tenant, known or new. -/
def limitsOf (l : Ledger) (tenant : String) : Limits :=
  ((l.accounts.find? tenant).map fun a => a.limits).getD l.defaults

variable {l : Ledger} {tenant : String} {a : Account} {now : Except TimeError Timestamp}
  {e : TimeError}

theorem counters_of_account (h : l.account tenant now = .ok a) :
    l.counters tenant = a.snapshot := by
  unfold account at h
  unfold counters
  cases hfound : l.accounts.find? tenant with
  | some b =>
    simp only [hfound, Except.ok.injEq] at h
    simp [h]
  | none =>
    cases now with
    | error e => simp [hfound, Except.map] at h
    | ok t =>
      simp only [hfound, Except.map, Except.ok.injEq] at h
      subst h
      rfl

theorem limitsOf_of_account (h : l.account tenant now = .ok a) : l.limitsOf tenant = a.limits := by
  unfold account at h
  unfold limitsOf
  cases hfound : l.accounts.find? tenant with
  | some b =>
    simp only [hfound, Except.ok.injEq] at h
    simp [h]
  | none =>
    cases now with
    | error e => simp [hfound, Except.map] at h
    | ok t =>
      simp only [hfound, Except.map, Except.ok.injEq] at h
      subst h
      rfl

theorem counters_of_account_error (h : l.account tenant now = .error e) :
    l.counters tenant = {} := by
  unfold account at h
  unfold counters
  cases hfound : l.accounts.find? tenant with
  | some b => simp [hfound] at h
  | none => rfl

end Ledger

/-! ## What an answer says was done -/

/-- Was a send admitted that a counter counts? -/
def admits (g : Gauge) : Request → Except Fault Reply → Bool
  | .send x, .ok (.admission a) => a.allowed && g.counts x
  | _, _ => false

/-- Were the counters of a reset set to zero? A reset that is asked for sets them to zero even where
there is no time to stamp it with. -/
def begins (r : Reset) : Request → Except Fault Reply → Bool
  | .reset s, _ => r == s
  | .applyDue, .ok (.resets applied) => applied.contains r
  | _, _ => false

namespace Served

variable {now : Except TimeError Timestamp} {a b : Account} {q : Request}
  {answer : Except Fault Reply}

theorem limits_eq (h : Served now a q answer b) : b.limits = a.limits := by
  cases h <;> rfl

/-- The counters that a request begins anew are zero after it, and the others have grown by the
sends that it admitted. -/
theorem value_eq (h : Served now a q answer b) (g : Gauge) : g.value b.snapshot =
    if begins g.reset q answer then 0
    else g.value a.snapshot + if admits g q answer then 1 else 0 := by
  cases h with
  | admitted can low high =>
    simp [begins, admits, Account.snapshot, Account.withSnapshot]
  | noPause can beyond => simp [begins, admits]
  | refused cannot clock => simp [begins, admits]
  | unlogged cannot clock => simp [begins, admits]
  | reset clock =>
    simp [begins, admits, Account.snapshot, Account.reset]
  | unstamped clock =>
    simp [begins, admits, Account.snapshot, Account.withSnapshot]
  | due clock applyDue =>
    obtain ⟨-, hrenewed, -⟩ := Usage.applyDue_ok applyDue
    simp [begins, admits, Account.snapshot, hrenewed, Gauge.value_renewed]
  | unread unreadable => simp [begins, admits]
  | asked => simp [begins, admits]

/-- No counter that is within its limit leaves it. -/
theorem bounds (h : Served now a q answer b) (g : Gauge)
    (hbounds : 0 ≤ g.value a.snapshot ∧ g.value a.snapshot ≤ max 0 (g.limit a.limits)) :
    0 ≤ g.value b.snapshot ∧ g.value b.snapshot ≤ max 0 (g.limit b.limits) := by
  rw [h.value_eq g, h.limits_eq]
  split_ifs with hbegins hadmits
  · omega
  · have hbelow : g.value a.snapshot < g.limit a.limits := by
      cases h with
      | admitted can low high =>
        simp only [admits, Bool.true_and] at hadmits
        exact (Gauge.can_iff _ a).mp can g hadmits
      | _ => simp [admits] at hadmits
    omega
  · omega

end Served

/-- A request, and what the clock reads while it is served. -/
structure Step where
  clock : Timestamp
  request : Request
  deriving DecidableEq, Repr

structure Entry where
  request : Request
  before : Desk
  answer : Except Fault Reply
  after : Desk

namespace Entry

def clock (e : Entry) : Timestamp := e.before.clock

def admits (e : Entry) (g : Gauge) : Bool := Quota.admits g e.request e.answer

def begins (e : Entry) (r : Reset) : Bool := Quota.begins r e.request e.answer

end Entry

variable {g : Gauge} {r : Reset} {e : Entry}

/-- The part of a history that follows the last time at which the counters of a reset were set to
zero. -/
def current (r : Reset) (history : List Entry) : List Entry :=
  history.rtakeWhile fun e => !e.begins r

/-- The admitted sends that a counter counts, since it was last set to zero. -/
def tally (g : Gauge) (history : List Entry) : Nat :=
  (current g.reset history).countP fun e => e.admits g

/-- The admitted sends that a counter counts, in one period of its reset. -/
def admittedIn (g : Gauge) (period : Int) (history : List Entry) : Nat :=
  history.countP fun e => e.admits g && g.reset.period e.clock == period

theorem current_append_begins {history : List Entry} (h : e.begins r = true) :
    current r (history ++ [e]) = [] :=
  List.rtakeWhile_concat_neg _ _ _ (by simp [h])

theorem current_append {history : List Entry} (h : e.begins r = false) :
    current r (history ++ [e]) = current r history ++ [e] :=
  List.rtakeWhile_concat_pos _ _ _ (by simp [h])

theorem mem_of_mem_current {history : List Entry} (h : e ∈ current r history) : e ∈ history :=
  (List.rtakeWhile_suffix _ _).subset h

theorem tally_append (g : Gauge) (history : List Entry) (e : Entry) : tally g (history ++ [e]) =
    if e.begins g.reset then 0 else tally g history + if e.admits g then 1 else 0 := by
  unfold tally
  split_ifs with hbegins hadmits
  · rw [current_append_begins hbegins, List.countP_nil]
  · rw [current_append (by simpa using hbegins), List.countP_append, List.countP_singleton,
      if_pos hadmits]
  · rw [current_append (by simpa using hbegins), List.countP_append, List.countP_singleton,
      if_neg hadmits]

theorem admittedIn_append (g : Gauge) (period : Int) (history : List Entry) (e : Entry) :
    admittedIn g period (history ++ [e]) = admittedIn g period history +
      if e.admits g = true ∧ g.reset.period e.clock = period then 1 else 0 := by
  simp [admittedIn, List.countP_append, List.countP_singleton]

end Quota

namespace Desk

open Quota

variable {d : Desk} {tenant : String} {s : Step} {a : Account}

def serve (tenant : String) (d : Desk) (s : Step) : Entry :=
  let before := { d with clock := s.clock }
  { request := s.request
    before
    answer := ((s.request.perform tenant).run before).1
    after := ((s.request.perform tenant).run before).2 }

/-- The history of the requests for a tenant. -/
def history (tenant : String) : Desk → List Step → List Entry
  | _, [] => []
  | d, s :: rest => d.serve tenant s :: history tenant (d.serve tenant s).after rest

def afterwards (tenant : String) : Desk → List Step → Desk
  | d, [] => d
  | d, s :: rest => afterwards tenant (d.serve tenant s).after rest

theorem history_append (d : Desk) (steps : List Step) (s : Step) :
    d.history tenant (steps ++ [s]) =
      d.history tenant steps ++ [(d.afterwards tenant steps).serve tenant s] := by
  induction steps generalizing d with
  | nil => rfl
  | cons first rest ih => simp only [List.cons_append, history, afterwards, ih]

theorem afterwards_append (d : Desk) (steps : List Step) (s : Step) :
    d.afterwards tenant (steps ++ [s]) = ((d.afterwards tenant steps).serve tenant s).after := by
  induction steps generalizing d with
  | nil => rfl
  | cons first rest ih => simp only [List.cons_append, afterwards, ih]

theorem mem_history {e : Entry} {steps : List Step} (h : e ∈ d.history tenant steps) :
    ∃ earlier s later, steps = earlier ++ s :: later ∧
      e = (d.afterwards tenant earlier).serve tenant s := by
  induction steps generalizing d with
  | nil => simp [history] at h
  | cons first rest ih =>
    rcases List.mem_cons.mp h with rfl | hrest
    · exact ⟨[], first, rest, rfl, rfl⟩
    · obtain ⟨earlier, s, later, hsteps, he⟩ := ih hrest
      exact ⟨first :: earlier, s, later, by rw [hsteps]; rfl, he⟩

theorem history_clocks (tenant : String) (d : Desk) (steps : List Step) :
    (d.history tenant steps).map Entry.clock = steps.map Step.clock := by
  induction steps generalizing d with
  | nil => rfl
  | cons s rest ih =>
    simp only [history, List.map_cons, ih]
    rfl

theorem clock_of_mem_history {e : Entry} {steps : List Step} (h : e ∈ d.history tenant steps) :
    ∃ s ∈ steps, e.clock = s.clock := by
  obtain ⟨earlier, s, later, rfl, rfl⟩ := mem_history h
  exact ⟨s, by simp, rfl⟩

/-- A request is served on the account of its tenant, or ends in a fault that changes no account
because there is neither an account nor a time to enter one at. -/
theorem serve_cases (tenant : String) (d : Desk) (s : Step) :
    (∃ a b, d.ledger.account tenant s.clock.toUtc = .ok a ∧
      Served s.clock.toUtc a s.request (d.serve tenant s).answer b ∧
      (d.serve tenant s).after.ledger = (d.withAccount tenant b).ledger) ∨
    ∃ e, d.ledger.account tenant s.clock.toUtc = .error e ∧
      (d.serve tenant s).answer = .error (.time e) ∧
      (d.serve tenant s).after.ledger = d.ledger := by
  cases h : d.ledger.account tenant s.clock.toUtc with
  | ok a =>
    obtain ⟨b, hserved, hledger⟩ := run_perform (d := { d with clock := s.clock }) s.request h
    exact Or.inl ⟨a, b, rfl, hserved, hledger⟩
  | error e =>
    have hrun := run_perform_error (d := { d with clock := s.clock }) s.request h
    exact Or.inr ⟨e, rfl, congrArg (fun x => x.1) hrun, congrArg (fun x => x.2.ledger) hrun⟩

theorem counters_withAccount (a : Account) :
    (d.withAccount tenant a).ledger.counters tenant = a.snapshot := by
  simp [Ledger.counters, withAccount, Table.find?_put_self]

theorem limitsOf_withAccount (a : Account) :
    (d.withAccount tenant a).ledger.limitsOf tenant = a.limits := by
  simp [Ledger.limitsOf, withAccount, Table.find?_put_self]

theorem account_of_ledger_eq {after : Desk} (now : Except TimeError Timestamp)
    (h : after.ledger = (d.withAccount tenant a).ledger) :
    after.ledger.account tenant now = .ok a := by
  rw [h]
  exact account_withAccount now

theorem find?_of_ledger_eq {after : Desk} (h : after.ledger = (d.withAccount tenant a).ledger) :
    after.ledger.accounts.find? tenant = some a := by
  rw [h]
  exact Table.find?_put_self ..

theorem serve_limits (tenant : String) (d : Desk) (s : Step) :
    (d.serve tenant s).after.ledger.limitsOf tenant = d.ledger.limitsOf tenant := by
  rcases serve_cases tenant d s with ⟨a, b, ha, hserved, hledger⟩ | ⟨e, -, -, hledger⟩
  · rw [hledger, limitsOf_withAccount, hserved.limits_eq, Ledger.limitsOf_of_account ha]
  · rw [hledger]

theorem serve_value (tenant : String) (d : Desk) (s : Step) (g : Gauge) :
    g.value ((d.serve tenant s).after.ledger.counters tenant) =
      if (d.serve tenant s).begins g.reset then 0
      else g.value (d.ledger.counters tenant) + if (d.serve tenant s).admits g then 1 else 0 := by
  rcases serve_cases tenant d s with ⟨a, b, ha, hserved, hledger⟩ | ⟨e, he, hanswer, hledger⟩
  · rw [hledger, counters_withAccount, hserved.value_eq g, Ledger.counters_of_account ha]
    rfl
  · have hzero := Ledger.counters_of_account_error he
    have hadmits : (d.serve tenant s).admits g = false := by
      simp [Entry.admits, hanswer, admits]
    simp [hledger, hzero, hadmits]

theorem serve_bounds (tenant : String) (d : Desk) (s : Step) (g : Gauge)
    (hbounds : 0 ≤ g.value (d.ledger.counters tenant) ∧
      g.value (d.ledger.counters tenant) ≤ max 0 (g.limit (d.ledger.limitsOf tenant))) :
    0 ≤ g.value ((d.serve tenant s).after.ledger.counters tenant) ∧
      g.value ((d.serve tenant s).after.ledger.counters tenant) ≤
        max 0 (g.limit (d.ledger.limitsOf tenant)) := by
  rcases serve_cases tenant d s with ⟨a, b, ha, hserved, hledger⟩ | ⟨e, -, -, hledger⟩
  · rw [Ledger.counters_of_account ha, Ledger.limitsOf_of_account ha] at hbounds
    have hafter := hserved.bounds g hbounds
    rw [hserved.limits_eq] at hafter
    rw [hledger, counters_withAccount, Ledger.limitsOf_of_account ha]
    exact hafter
  · rw [hledger]
    exact hbounds

end Desk

end SalesDesk
