import SalesDesk.Proofs.Desk.History

/-!
# Exact accounting

A tenant that starts with nothing counted is accounted for exactly: after any requests, whatever the
clock reads, each counter is the number of admitted sends since it was last set to zero, and within
its limit. Each request to send is either admitted and counted, or leaves the account as it was.
-/

namespace SalesDesk

open Quota

namespace Quota

namespace Entry

def countersBefore (e : Entry) (tenant : String) : Snapshot := e.before.ledger.counters tenant

def countersAfter (e : Entry) (tenant : String) : Snapshot := e.after.ledger.counters tenant

/-- The account of a tenant reads the same before and after a request. -/
def Unchanged (e : Entry) (tenant : String) : Prop :=
  e.after.ledger.account tenant e.clock.toUtc = e.before.ledger.account tenant e.clock.toUtc

/-- How a request to send ends. -/
inductive Settled (e : Entry) (tenant : String) (x : Send) : Prop
  /-- Every counter of the send was below its limit, and exactly these counters have grown. -/
  | admitted (pause : Int)
      (answer : e.answer = .ok (.admission
        ⟨true, e.countersBefore tenant, e.countersAfter tenant, some pause⟩))
      (low : 2 ≤ pause) (high : pause ≤ 24)
      (below : ∀ g : Gauge, g.counts x = true →
        g.value (e.countersBefore tenant) < g.limit (e.before.ledger.limitsOf tenant))
      (grown : ∀ g : Gauge, g.value (e.countersAfter tenant) =
        g.value (e.countersBefore tenant) + if g.counts x then 1 else 0)
  /-- A counter of the send was at its limit. -/
  | refused
      (answer : e.answer = .ok (.admission
        ⟨false, e.countersBefore tenant, e.countersBefore tenant, none⟩))
      (full : ∃ g : Gauge, g.counts x = true ∧
        g.limit (e.before.ledger.limitsOf tenant) ≤ g.value (e.countersBefore tenant))
      (unchanged : e.Unchanged tenant)
  /-- The clock could not be read when it had to be: to log a refusal, or to enter the tenant. -/
  | unread (error : TimeError) (clock : e.clock.toUtc = .error error)
      (answer : e.answer = .error (.time error)) (unchanged : e.Unchanged tenant)

end Entry

theorem exists_full_of_can {x : Send} {a : Account} (h : x.can a = false) :
    ∃ g : Gauge, g.counts x = true ∧ g.limit a.limits ≤ g.value a.snapshot := by
  by_contra hnone
  have hcan : x.can a = true := by
    refine (Gauge.can_iff x a).mpr fun g hg => ?_
    by_contra hle
    exact hnone ⟨g, hg, not_lt.mp hle⟩
  simp [h] at hcan

end Quota

namespace Desk

variable {d : Desk} {tenant : String} {s : Step}

/-- No counter that is within its limit makes a pause unknown, so every request to send ends in an
admission or a refusal, or at a clock that cannot be read. -/
theorem serve_settled {x : Send} (hrequest : s.request = .send x)
    (hbounds : 0 ≤ (d.ledger.counters tenant).messagesToday ∧
      (d.ledger.counters tenant).messagesToday ≤
        max 0 (d.ledger.limitsOf tenant).messagesPerDay) :
    (d.serve tenant s).Settled tenant x := by
  rcases serve_cases tenant d s with ⟨a, b, ha, hserved, hledger⟩ | ⟨e, he, hanswer, hledger⟩
  · have hbefore : (d.serve tenant s).countersBefore tenant = a.snapshot :=
      Ledger.counters_of_account ha
    have hafter : (d.serve tenant s).countersAfter tenant = b.snapshot := by
      rw [Entry.countersAfter, hledger, counters_withAccount]
    have hlimits : (d.serve tenant s).before.ledger.limitsOf tenant = a.limits :=
      Ledger.limitsOf_of_account ha
    rw [Ledger.counters_of_account ha, Ledger.limitsOf_of_account ha] at hbounds
    rw [hrequest] at hserved
    generalize hanswer : (d.serve tenant s).answer = answer at hserved
    cases hserved with
    | @admitted _ pause can low high =>
      refine .admitted pause ?_ low high ?_ ?_
      · rw [hanswer, hbefore, hafter]
        rfl
      · rw [hbefore, hlimits]
        exact (Gauge.can_iff x a).mp can
      · intro g
        rw [hbefore, hafter]
        exact g.value_count x a.snapshot
    | noPause can beyond =>
      have hword : Word.bound 64 = 2 ^ 63 := rfl
      omega
    | refused cannot clock =>
      refine .refused ?_ ?_ ?_
      · rw [hanswer, hbefore]
      · rw [hbefore, hlimits]
        exact exists_full_of_can cannot
      · exact (account_of_ledger_eq _ hledger).trans ha.symm
    | @unlogged _ error cannot clock =>
      exact .unread error clock hanswer ((account_of_ledger_eq _ hledger).trans ha.symm)
  · refine .unread e (clock_of_account_error he) hanswer ?_
    exact congrArg (fun l : Ledger => l.account tenant s.clock.toUtc) hledger

theorem serve_unchanged_of_ask {q : Question} (hrequest : s.request = .ask q) :
    (d.serve tenant s).Unchanged tenant := by
  rcases serve_cases tenant d s with ⟨a, b, ha, hserved, hledger⟩ | ⟨e, he, hanswer, hledger⟩
  · rw [hrequest] at hserved
    cases hserved with
    | asked => exact (account_of_ledger_eq _ hledger).trans ha.symm
  · exact congrArg (fun l : Ledger => l.account tenant s.clock.toUtc) hledger

theorem afterwards_limits (tenant : String) (d : Desk) (steps : List Step) :
    (d.afterwards tenant steps).ledger.limitsOf tenant = d.ledger.limitsOf tenant := by
  induction steps generalizing d with
  | nil => rfl
  | cons s rest ih => rw [afterwards, ih, serve_limits]

theorem afterwards_value (hfresh : d.ledger.counters tenant = {}) (steps : List Step) (g : Gauge) :
    g.value ((d.afterwards tenant steps).ledger.counters tenant) =
      tally g (d.history tenant steps) := by
  induction steps using List.reverseRecOn with
  | nil => simp [afterwards, hfresh, history, tally, current]
  | append_singleton steps s ih =>
    rw [afterwards_append, serve_value, history_append, tally_append, ih]
    split_ifs <;> simp

theorem afterwards_bounds (hfresh : d.ledger.counters tenant = {}) (steps : List Step)
    (g : Gauge) :
    0 ≤ g.value ((d.afterwards tenant steps).ledger.counters tenant) ∧
      g.value ((d.afterwards tenant steps).ledger.counters tenant) ≤
        max 0 (g.limit (d.ledger.limitsOf tenant)) := by
  induction steps using List.reverseRecOn with
  | nil => simp [afterwards, hfresh]
  | append_singleton steps s ih =>
    rw [afterwards_append]
    have hlimits := afterwards_limits tenant d steps
    have hserve := serve_bounds tenant (d.afterwards tenant steps) s g
    rw [hlimits] at hserve
    exact hserve ih

/-- A tenant with nothing counted is accounted for exactly by its history, however the clock runs:
the limits stay, each counter is the number of admitted sends since it was last set to zero and at
most its limit, each request to send is settled, and a question changes nothing. -/
theorem accounting_exact (hfresh : d.ledger.counters tenant = {}) (steps : List Step) :
    (d.afterwards tenant steps).ledger.limitsOf tenant = d.ledger.limitsOf tenant ∧
    (∀ g : Gauge, g.value ((d.afterwards tenant steps).ledger.counters tenant) =
      tally g (d.history tenant steps)) ∧
    (∀ g : Gauge, g.value ((d.afterwards tenant steps).ledger.counters tenant) ≤
      max 0 (g.limit (d.ledger.limitsOf tenant))) ∧
    (∀ e ∈ d.history tenant steps, ∀ x, e.request = .send x → e.Settled tenant x) ∧
    (∀ e ∈ d.history tenant steps, ∀ q, e.request = .ask q → e.Unchanged tenant) := by
  refine ⟨afterwards_limits tenant d steps, afterwards_value hfresh steps,
    fun g => (afterwards_bounds hfresh steps g).2, fun e he x hx => ?_, fun e he q hq => ?_⟩
  · obtain ⟨earlier, s, later, -, rfl⟩ := mem_history he
    have hbounds := afterwards_bounds hfresh earlier Gauge.messagesToday
    rw [← afterwards_limits tenant d earlier] at hbounds
    exact serve_settled hx hbounds
  · obtain ⟨earlier, s, later, -, rfl⟩ := mem_history he
    exact serve_unchanged_of_ask hq

/-- One message is allowed on a day; the second one is refused, and a new day admits the third. -/
theorem accounting_exact_threeMessages :
    let evening : Timestamp := ⟨738000 * Timestamp.day + 79200 * Timestamp.second, some 0⟩
    let morning : Timestamp := ⟨738001 * Timestamp.day + 28800 * Timestamp.second, some 0⟩
    let d := Desk.new { limits := { messagesPerDay := 1 } } none default evening
    let steps : List Step := [⟨evening, .send .message⟩, ⟨evening, .send .message⟩,
      ⟨morning, .applyDue⟩, ⟨morning, .send .message⟩]
    d.ledger.counters "shop" = {} ∧
    (∀ g : Gauge, g.value ((d.afterwards "shop" steps).ledger.counters "shop") =
      tally g (d.history "shop" steps)) ∧
    tally .messagesToday (d.history "shop" steps) = 1 ∧
    tally .messagesThisWeek (d.history "shop" steps) = 2 :=
  ⟨rfl, (accounting_exact rfl _).2.1, by decide +kernel, by decide +kernel⟩

end Desk

end SalesDesk
