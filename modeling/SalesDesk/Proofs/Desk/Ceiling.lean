import SalesDesk.Proofs.Desk.Accounting

/-!
# What one day or one week admits

A request to send is judged by counters alone, and these begin anew when the reset pass runs, not
when the day or the week does. While the clock does not run back and nobody resets by hand, the
sends that one period admits stay within the limit, unless the pass of that period came only after
some of them. Then the counter began anew within the period, which happens once, and the period
admits at most twice the limit.
-/

namespace SalesDesk

open Quota

namespace Quota

/-- Was the reset of a counter run in a period after a send that it counts had been admitted in
the same period? -/
def LateReset (g : Gauge) (period : Int) (history : List Entry) : Prop :=
  ∃ sent begun : Entry, [sent, begun].Sublist history ∧
    (sent.admits g = true ∧ g.reset.period sent.clock = period) ∧
    (begun.begins g.reset = true ∧ g.reset.period begun.clock = period)

/-- What is promised of the sends that a period admits. -/
def Capped (g : Gauge) (limit period : Int) (history : List Entry) : Prop :=
  (admittedIn g period history : Int) ≤ 2 * limit ∧
    (¬ LateReset g period history → (admittedIn g period history : Int) ≤ limit)

variable {g : Gauge} {r : Reset} {limit period : Int} {history : List Entry} {e : Entry}

theorem LateReset.append (h : LateReset g period history) (e : Entry) :
    LateReset g period (history ++ [e]) := by
  obtain ⟨sent, begun, hsublist, hsent, hbegun⟩ := h
  exact ⟨sent, begun, hsublist.trans (List.sublist_append_left _ _), hsent, hbegun⟩

theorem lateReset_of_mem {sent : Entry} (hmem : sent ∈ history)
    (hsent : sent.admits g = true ∧ g.reset.period sent.clock = period)
    (hbegun : e.begins g.reset = true ∧ g.reset.period e.clock = period) :
    LateReset g period (history ++ [e]) :=
  ⟨sent, e, (List.singleton_sublist.mpr hmem).append (List.Sublist.refl [e]), hsent, hbegun⟩

theorem Capped.append (h : Capped g limit period history)
    (hsame : admittedIn g period (history ++ [e]) = admittedIn g period history) :
    Capped g limit period (history ++ [e]) := by
  rw [Capped, hsame]
  exact ⟨h.1, fun hnone => h.2 fun hlate => hnone (hlate.append e)⟩

theorem exists_of_admittedIn_pos (h : 0 < admittedIn g period history) :
    ∃ sent ∈ history, sent.admits g = true ∧ g.reset.period sent.clock = period := by
  obtain ⟨sent, hmem, hsent⟩ := List.countP_pos_iff.mp h
  exact ⟨sent, hmem, by simpa using hsent⟩

theorem admits_of_begins {q : Request} {answer : Except Fault Reply}
    (h : begins r q answer = true) : admits g q answer = false := by
  cases q with
  | send x => simp [begins] at h
  | reset s => rfl
  | applyDue => rfl
  | ask q => rfl

namespace Served

variable {now : Except TimeError Timestamp} {a b : Account} {q : Request}
  {answer : Except Fault Reply}

/-- A counter that begins anew in the reset pass does so in a later period than that of the last
reset, which the reset of now becomes. -/
theorem due_of_begins (h : Served now a q answer b) (hq : ∀ r, q ≠ .reset r)
    (hbegins : begins r q answer = true) :
    ∃ t, now = .ok t ∧ b.usage.lastReset = t ∧ r.period a.usage.lastReset < r.period t := by
  cases h with
  | @due t usage applied clock applyDue =>
    obtain ⟨happlied, -, hstamp⟩ := Usage.applyDue_ok applyDue
    simp only [begins, List.contains_iff_mem] at hbegins
    refine ⟨t, clock, ?_, ?_⟩
    · rw [hstamp, if_neg (List.ne_nil_of_mem hbegins)]
    · rw [happlied, Usage.mem_dueResets] at hbegins
      exact hbegins
  | reset clock => exact absurd rfl (hq _)
  | unstamped clock => exact absurd rfl (hq _)
  | _ => simp [begins] at hbegins

/-- Without resets by hand the time of the last reset never moves to an earlier period. -/
theorem period_lastReset_le (h : Served now a q answer b) (hq : ∀ r, q ≠ .reset r) (r : Reset) :
    r.period a.usage.lastReset ≤ r.period b.usage.lastReset := by
  cases h with
  | @due t usage applied clock applyDue =>
    obtain ⟨happlied, -, hstamp⟩ := Usage.applyDue_ok applyDue
    rw [hstamp]
    split_ifs with hnone
    · exact le_rfl
    · obtain ⟨other, hother⟩ := List.exists_mem_of_ne_nil _ hnone
      rw [happlied, Usage.mem_dueResets] at hother
      exact r.period_mono (Reset.instant_lt_of_period_lt hother).le
  | reset clock => exact absurd rfl (hq _)
  | unstamped clock => exact absurd rfl (hq _)
  | _ => exact le_rfl

end Served

/-- Where the sends admitted in a period stand: since the counter last began anew, or in a period
that is over, or in one in which the counter has begun anew and does not do so again. -/
def Placed (g : Gauge) (limit period : Int) (history : List Entry) (l : Ledger)
    (tenant : String) : Prop :=
  (admittedIn g period history : Int) ≤ g.value (l.counters tenant) ∨
  (∃ e ∈ history, period < g.reset.period e.clock) ∧ Capped g limit period history ∨
  (LateReset g period history ∧
    (∃ a, l.accounts.find? tenant = some a ∧ period ≤ g.reset.period a.usage.lastReset) ∧
    (admittedIn g period history : Int) ≤ limit + g.value (l.counters tenant))

theorem Placed.capped {l : Ledger} {tenant : String} (h : Placed g limit period history l tenant)
    (hbounds : 0 ≤ g.value (l.counters tenant) ∧ g.value (l.counters tenant) ≤ limit) :
    Capped g limit period history := by
  rcases h with hcurrent | ⟨-, hcapped⟩ | ⟨hlate, -, hle⟩
  · exact ⟨by omega, fun _ => by omega⟩
  · exact hcapped
  · exact ⟨by omega, fun hnone => absurd hlate hnone⟩

end Quota

namespace Desk

variable {d : Desk} {tenant : String} {s : Step} {g : Gauge} {r : Reset} {limit period : Int}
  {history : List Entry}

theorem serve_stamped (hs : ∀ r, s.request ≠ .reset r)
    (hstamped : ∃ a, d.ledger.accounts.find? tenant = some a ∧
      period ≤ r.period a.usage.lastReset) :
    ∃ b, (d.serve tenant s).after.ledger.accounts.find? tenant = some b ∧
      period ≤ r.period b.usage.lastReset := by
  obtain ⟨a, hfound, hle⟩ := hstamped
  rcases serve_cases tenant d s with ⟨c, b, hc, hserved, hledger⟩ | ⟨e, he, hanswer, hledger⟩
  · have hsame : c = a := by
      simp only [Ledger.account, hfound, Except.ok.injEq] at hc
      exact hc.symm
    subst hsame
    exact ⟨b, find?_of_ledger_eq hledger, hle.trans (hserved.period_lastReset_le hs r)⟩
  · rw [hledger]
    exact ⟨a, hfound, hle⟩

theorem serve_begun (hs : ∀ r, s.request ≠ .reset r)
    (hbegins : (d.serve tenant s).begins r = true) :
    (∃ b, (d.serve tenant s).after.ledger.accounts.find? tenant = some b ∧
      r.period b.usage.lastReset = r.period s.clock) ∧
    ∀ a, d.ledger.accounts.find? tenant = some a →
      r.period a.usage.lastReset < r.period s.clock := by
  rcases serve_cases tenant d s with ⟨a, b, ha, hserved, hledger⟩ | ⟨e, he, hanswer, hledger⟩
  · obtain ⟨t, hclock, hstamp, hdue⟩ := hserved.due_of_begins hs hbegins
    have hperiod := r.period_of_toUtc hclock
    refine ⟨⟨b, find?_of_ledger_eq hledger, by rw [hstamp, hperiod]⟩, fun c hc => ?_⟩
    simp only [Ledger.account, hc, Except.ok.injEq] at ha
    rw [ha, ← hperiod]
    exact hdue
  · have hnone : (d.serve tenant s).begins r = false := by
      rw [Entry.begins, hanswer]
      cases hrequest : s.request with
      | reset q => exact absurd hrequest (hs q)
      | _ => simp [serve, hrequest, Quota.begins]
    simp [hnone] at hbegins

private theorem serve_placed_of_begins (hs : ∀ r, s.request ≠ .reset r)
    (hordered : ∀ e ∈ history, e.clock.instant ≤ s.clock.instant)
    (hbounds : 0 ≤ g.value (d.ledger.counters tenant) ∧
      g.value (d.ledger.counters tenant) ≤ limit)
    (hbegins : (d.serve tenant s).begins g.reset = true)
    (h : Placed g limit period history d.ledger tenant) :
    Placed g limit period (history ++ [d.serve tenant s]) (d.serve tenant s).after.ledger
      tenant := by
  obtain ⟨⟨b, hfound, hstamp⟩, hdue⟩ := serve_begun hs hbegins
  have hvalue : g.value ((d.serve tenant s).after.ledger.counters tenant) = 0 := by
    rw [serve_value, if_pos hbegins]
  have hsame : admittedIn g period (history ++ [d.serve tenant s]) =
      admittedIn g period history := by
    have hadmits : (d.serve tenant s).admits g = false := admits_of_begins hbegins
    rw [admittedIn_append, hadmits, if_neg (by simp), Nat.add_zero]
  by_cases hnone : admittedIn g period history = 0
  · exact Or.inl (by omega)
  obtain ⟨sent, hmem, hsent⟩ := exists_of_admittedIn_pos (Nat.pos_of_ne_zero hnone)
  have hreached : period ≤ g.reset.period s.clock := by
    rw [← hsent.2]
    exact g.reset.period_mono (hordered sent hmem)
  -- A period that is over stays as it is; within the period the reset of now is a late one.
  have hover (hlt : period < g.reset.period s.clock) (hcapped : Capped g limit period history) :
      Placed g limit period (history ++ [d.serve tenant s]) (d.serve tenant s).after.ledger
        tenant :=
    Or.inr (Or.inl ⟨⟨d.serve tenant s, by simp, hlt⟩, hcapped.append hsame⟩)
  rcases h with hcurrent | ⟨⟨later, hlater, hlt⟩, hcapped⟩ | ⟨hlate, ⟨a, ha, hle⟩, hcount⟩
  · rcases hreached.lt_or_eq with hlt | heq
    · exact hover hlt ⟨by omega, fun _ => by omega⟩
    · refine Or.inr (Or.inr ⟨lateReset_of_mem hmem hsent ⟨hbegins, heq.symm⟩,
        ⟨b, hfound, by rw [hstamp, heq]⟩, ?_⟩)
      omega
  · have hafter := g.reset.period_mono (hordered later hlater)
    exact hover (by omega) hcapped
  · have hafter := hdue a ha
    exact hover (by omega) ⟨by omega, fun hnever => absurd hlate hnever⟩

/-- A counter that does not begin anew grows at least as much as the sends of a period do. -/
private theorem serve_admittedIn_le (period : Int) (history : List Entry)
    (hbegins : ¬ (d.serve tenant s).begins g.reset = true) :
    (admittedIn g period (history ++ [d.serve tenant s]) : Int) +
        g.value (d.ledger.counters tenant) ≤
      admittedIn g period history +
        g.value ((d.serve tenant s).after.ledger.counters tenant) := by
  rw [serve_value, if_neg hbegins, admittedIn_append]
  by_cases hadmits : (d.serve tenant s).admits g = true
  · rw [if_pos hadmits]
    split_ifs <;> omega
  · rw [if_neg hadmits, if_neg fun h => hadmits h.1]
    omega

private theorem serve_placed_of_not_begins (hs : ∀ r, s.request ≠ .reset r)
    (hordered : ∀ e ∈ history, e.clock.instant ≤ s.clock.instant)
    (hbegins : ¬ (d.serve tenant s).begins g.reset = true)
    (h : Placed g limit period history d.ledger tenant) :
    Placed g limit period (history ++ [d.serve tenant s]) (d.serve tenant s).after.ledger
      tenant := by
  have hgrowth := serve_admittedIn_le period history hbegins
  rcases h with hcurrent | ⟨⟨later, hlater, hlt⟩, hcapped⟩ | ⟨hlate, hstamped, hle⟩
  · exact Or.inl (by omega)
  · have hafter : g.reset.period later.clock ≤ g.reset.period (d.serve tenant s).clock :=
      g.reset.period_mono (hordered later hlater)
    have hsame : admittedIn g period (history ++ [d.serve tenant s]) =
        admittedIn g period history := by
      rw [admittedIn_append, if_neg (by omega), Nat.add_zero]
    exact Or.inr (Or.inl ⟨⟨later, by simp [hlater], hlt⟩, hcapped.append hsame⟩)
  · exact Or.inr (Or.inr ⟨hlate.append _, serve_stamped hs hstamped, by omega⟩)

theorem history_placed (hfresh : d.ledger.counters tenant = {}) (steps : List Step)
    (hordered : steps.Pairwise fun s t => s.clock.instant ≤ t.clock.instant)
    (hsteps : ∀ s ∈ steps, ∀ r, s.request ≠ .reset r) (g : Gauge) (period : Int) :
    Placed g (max 0 (g.limit (d.ledger.limitsOf tenant))) period (d.history tenant steps)
      (d.afterwards tenant steps).ledger tenant := by
  -- The last step is looked at, since a counter that begins anew is placed by what came before.
  induction steps using List.reverseRecOn with
  | nil => exact Or.inl (by simp [history, afterwards, hfresh, admittedIn])
  | append_singleton steps s ih =>
    obtain ⟨hbefore, -, hlast⟩ := List.pairwise_append.mp hordered
    have hs : ∀ r, s.request ≠ .reset r := hsteps s (by simp)
    have hclocks : ∀ e ∈ d.history tenant steps, e.clock.instant ≤ s.clock.instant := by
      intro e he
      obtain ⟨t, ht, hclock⟩ := clock_of_mem_history he
      rw [hclock]
      exact hlast t ht s (by simp)
    have hplaced := ih hbefore fun t ht => hsteps t (by simp [ht])
    rw [history_append, afterwards_append]
    by_cases hbegins : ((d.afterwards tenant steps).serve tenant s).begins g.reset = true
    · exact serve_placed_of_begins hs hclocks (afterwards_bounds hfresh steps g) hbegins hplaced
    · exact serve_placed_of_not_begins hs hclocks hbegins hplaced

/-- While the clock does not run back and nobody resets by hand, one day or one week of universal
time admits no more sends than its limit allows, or at most twice as many where the pass of that
period came only after some of them. -/
theorem admittedIn_capped (hfresh : d.ledger.counters tenant = {}) (steps : List Step)
    (hordered : steps.Pairwise fun s t => s.clock.instant ≤ t.clock.instant)
    (hsteps : ∀ s ∈ steps, ∀ r, s.request ≠ .reset r) (g : Gauge) (period : Int) :
    Capped g (max 0 (g.limit (d.ledger.limitsOf tenant))) period (d.history tenant steps) :=
  (history_placed hfresh steps hordered hsteps g period).capped (afterwards_bounds hfresh steps g)

/-- A pass just after midnight comes before every send of its day, so the day keeps its limit. -/
theorem admittedIn_capped_midnight :
    let evening : Timestamp := ⟨739901 * Timestamp.day + 82800 * Timestamp.second, some 0⟩
    let midnight : Timestamp := ⟨739902 * Timestamp.day, some 0⟩
    let d := Desk.new { limits := { messagesPerDay := 1 } } none default evening
    let steps : List Step := [⟨evening, .send .message⟩, ⟨midnight, .applyDue⟩,
      ⟨midnight, .send .message⟩, ⟨midnight, .send .message⟩]
    d.ledger.counters "shop" = {} ∧
    steps.Pairwise (fun s t => s.clock.instant ≤ t.clock.instant) ∧
    (∀ s ∈ steps, ∀ r, s.request ≠ .reset r) ∧
    Capped .messagesToday 1 739902 (d.history "shop" steps) ∧
    admittedIn .messagesToday 739902 (d.history "shop" steps) = 1 :=
  ⟨rfl, by decide +kernel, by simp,
    admittedIn_capped rfl _ (by decide +kernel) (by simp) .messagesToday 739902,
    by decide +kernel⟩

/-- Two messages are allowed on a day. The pass of 14 October 2026 comes two minutes after midnight
and one minute after two messages, and two more are admitted on that day. -/
theorem lateReset_exceeds_limit :
    let evening : Timestamp := ⟨739901 * Timestamp.day + 82800 * Timestamp.second, some 0⟩
    let minute (n : Int) : Timestamp :=
      ⟨739902 * Timestamp.day + n * (60 * Timestamp.second), some 0⟩
    let d := Desk.new { limits := { messagesPerDay := 2 } } none default evening
    let steps : List Step := [⟨evening, .applyDue⟩, ⟨minute 1, .send .message⟩,
      ⟨minute 1, .send .message⟩, ⟨minute 2, .applyDue⟩, ⟨minute 3, .send .message⟩,
      ⟨minute 3, .send .message⟩]
    d.ledger.counters "shop" = {} ∧
    steps.Pairwise (fun s t => s.clock.instant ≤ t.clock.instant) ∧
    (∀ s ∈ steps, ∀ r, s.request ≠ .reset r) ∧
    Reset.daily.period (minute 1) = 739902 ∧
    Gauge.messagesToday.limit (d.ledger.limitsOf "shop") = 2 ∧
    admittedIn .messagesToday 739902 (d.history "shop" steps) = 4 :=
  ⟨rfl, by decide +kernel, by simp, by decide +kernel, by decide +kernel, by decide +kernel⟩

end Desk

end SalesDesk
