import SalesDesk.Proofs.Desk.Accounting

/-!
# Counters that outlive their window

The two kinds of reset share one time of the last reset. The reset pass asks for both kinds before
it runs either, but a reset by hand stamps that time for both: a reset of one kind that is due is
forgotten where the other kind is run by hand first. After a pass a counter exceeds what its period
has admitted just when this has happened.
-/

namespace SalesDesk

open Quota

namespace Quota

/-- Was the reset of a counter put off by hand? Since the counter last began anew, one of its sends
was admitted, and then, in a later period, which is that of `now`, the reset of the other kind was
run by hand. -/
def Masked (g : Gauge) (history : List Entry) (now : Timestamp) : Prop :=
  ∃ sent ∈ current g.reset history, ∃ manual ∈ current g.reset history,
    sent.admits g = true ∧ manual.request = .reset g.reset.other ∧ manual.answer = .ok .done ∧
    g.reset.period sent.clock < g.reset.period manual.clock ∧
    g.reset.period manual.clock = g.reset.period now

/-- What is known of the last reset: it can be read and is not yet to come, and where its period
is later than that of a send still counted, it was run by hand for the other kind. -/
structure Tracked (g : Gauge) (history : List Entry) (lastReset now : Timestamp) : Prop where
  readable : ∃ u, lastReset.toUtc = .ok u
  passed : lastReset.instant ≤ now.instant
  manual : ∀ sent ∈ current g.reset history, sent.admits g = true →
    g.reset.period sent.clock < g.reset.period lastReset →
    ∃ manual ∈ current g.reset history, manual.request = .reset g.reset.other ∧
      manual.answer = .ok .done ∧ g.reset.period manual.clock = g.reset.period lastReset

/-- A tenant is not known and nothing was admitted, or the last reset is tracked. -/
def TrackedTenant (g : Gauge) (history : List Entry) (l : Ledger) (tenant : String)
    (now : Timestamp) : Prop :=
  (l.accounts.find? tenant = none ∧ ∀ e ∈ history, e.admits g = false) ∨
  ∃ a, l.accounts.find? tenant = some a ∧ Tracked g history a.usage.lastReset now

variable {g : Gauge} {history : List Entry} {e : Entry} {last now t : Timestamp} {a b : Account}

theorem Tracked.mono (h : Tracked g history last t) (hle : t.instant ≤ now.instant) :
    Tracked g history last now :=
  ⟨h.readable, h.passed.trans hle, h.manual⟩

theorem TrackedTenant.mono {l : Ledger} {tenant : String}
    (h : TrackedTenant g history l tenant t) (hle : t.instant ≤ now.instant) :
    TrackedTenant g history l tenant now := by
  rcases h with hnone | ⟨a, hfound, htracked⟩
  · exact Or.inl hnone
  · exact Or.inr ⟨a, hfound, htracked.mono hle⟩

/-- Where the last reset is from the period of now, a reset was put off just when a send of an
earlier period is still counted. -/
theorem Tracked.not_masked_iff (h : Tracked g history last now)
    (hperiod : g.reset.period last = g.reset.period now)
    (hpast : ∀ e ∈ history, g.reset.period e.clock ≤ g.reset.period now) :
    ¬ Masked g history now ↔ ∀ sent ∈ current g.reset history, sent.admits g = true →
      g.reset.period sent.clock = g.reset.period now := by
  constructor
  · intro hnever sent hsent hadmits
    by_contra hother
    have hearlier := lt_of_le_of_ne (hpast sent (mem_of_mem_current hsent)) hother
    rw [← hperiod] at hearlier
    obtain ⟨manual, hmem, hrequest, hanswer, hsame⟩ := h.manual sent hsent hadmits hearlier
    exact hnever ⟨sent, hsent, manual, hmem, hadmits, hrequest, hanswer,
      by rw [hsame]; exact hearlier, by rw [hsame, hperiod]⟩
  · rintro hall ⟨sent, hsent, manual, -, hadmits, -, -, hlt, hsame⟩
    have hpresent := hall sent hsent hadmits
    omega

/-- A request that begins the counter anew leaves no send that is still counted. -/
theorem tracked_of_begins (hbegins : e.begins g.reset = true)
    (hreadable : ∃ u, last.toUtc = .ok u) (hpassed : last.instant ≤ now.instant) :
    Tracked g (history ++ [e]) last now := by
  refine ⟨hreadable, hpassed, fun sent hsent => ?_⟩
  rw [current_append_begins hbegins] at hsent
  cases hsent

/-- A request that moves the last reset within its period only, or not at all, adds no send of an
earlier period. -/
theorem Tracked.append (h : Tracked g history last e.clock) (hbegins : e.begins g.reset = false)
    {moved : Timestamp} (hreadable : ∃ u, moved.toUtc = .ok u)
    (hpassed : moved.instant ≤ e.clock.instant)
    (hperiod : g.reset.period moved = g.reset.period last) :
    Tracked g (history ++ [e]) moved e.clock := by
  refine ⟨hreadable, hpassed, fun sent hsent hadmits hlt => ?_⟩
  rw [current_append hbegins] at hsent ⊢
  rcases List.mem_append.mp hsent with hold | hnew
  · obtain ⟨manual, hmem, hrequest, hanswer, hsame⟩ :=
      h.manual sent hold hadmits (by rw [← hperiod]; exact hlt)
    exact ⟨manual, List.mem_append_left _ hmem, hrequest, hanswer, by rw [hsame, hperiod]⟩
  · have hpast := g.reset.period_mono hpassed
    rw [List.mem_singleton.mp hnew] at hlt
    omega

/-- What serving a request on an account does to what is known of its last reset. -/
theorem Tracked.served (h : Tracked g history a.usage.lastReset e.clock)
    (hserved : Served e.clock.toUtc a e.request e.answer b) :
    Tracked g (history ++ [e]) b.usage.lastReset e.clock := by
  have hkept (hsame : b.usage.lastReset = a.usage.lastReset)
      (hbegins : e.begins g.reset = false) :
      Tracked g (history ++ [e]) b.usage.lastReset e.clock := by
    rw [hsame]
    exact h.append hbegins h.readable h.passed rfl
  generalize hclock : e.clock.toUtc = clock at hserved
  generalize hrequest : e.request = request at hserved
  generalize hanswer : e.answer = answer at hserved
  cases hserved with
  | admitted can low high => exact hkept rfl (by simp [Entry.begins, begins, hrequest])
  | noPause can beyond => exact hkept rfl (by simp [Entry.begins, begins, hrequest])
  | refused cannot _ => exact hkept rfl (by simp [Entry.begins, begins, hrequest])
  | unlogged cannot _ => exact hkept rfl (by simp [Entry.begins, begins, hrequest])
  | unread _ => exact hkept rfl (by simp [Entry.begins, begins, hrequest, hanswer])
  | asked => exact hkept rfl (by simp [Entry.begins, begins, hrequest])
  | @reset r t hnow =>
    have hstamp := hclock.trans hnow
    have hreadable : ∃ u, t.toUtc = .ok u := ⟨t, Timestamp.toUtc_of_toUtc hstamp⟩
    have hpassed : t.instant ≤ e.clock.instant := (Timestamp.instant_of_toUtc hstamp).le
    by_cases hown : g.reset = r
    · exact tracked_of_begins (by simp [Entry.begins, begins, hrequest, hown]) hreadable hpassed
    · -- A reset of the other kind is itself the manual reset that is asked for.
      have hbegins : e.begins g.reset = false := by simp [Entry.begins, begins, hrequest, hown]
      refine ⟨hreadable, hpassed, fun sent hsent hadmits hlt => ?_⟩
      rw [current_append hbegins]
      exact ⟨e, by simp, by rw [hrequest, Reset.other_of_ne hown], hanswer,
        (g.reset.period_of_toUtc hstamp).symm⟩
  | @unstamped r error hnow =>
    by_cases hown : g.reset = r
    · exact tracked_of_begins (by simp [Entry.begins, begins, hrequest, hown]) h.readable h.passed
    · exact hkept rfl (by simp [Entry.begins, begins, hrequest, hown])
  | @due t usage applied hnow applyDue =>
    have hclockOk := hclock.trans hnow
    have hreadable : ∃ u, t.toUtc = .ok u := ⟨t, Timestamp.toUtc_of_toUtc hclockOk⟩
    have hpassed : t.instant ≤ e.clock.instant := (Timestamp.instant_of_toUtc hclockOk).le
    obtain ⟨happlied, -, hstamp⟩ := Usage.applyDue_ok applyDue
    by_cases hdue : g.reset ∈ applied
    · rw [if_neg (List.ne_nil_of_mem hdue)] at hstamp
      rw [hstamp]
      exact tracked_of_begins (by simp [Entry.begins, begins, hrequest, hanswer, hdue]) hreadable
        hpassed
    · have hbegins : e.begins g.reset = false := by
        simp [Entry.begins, begins, hrequest, hanswer, hdue]
      have hsame : g.reset.period t = g.reset.period a.usage.lastReset := by
        have hreached := g.reset.period_mono h.passed
        rw [happlied, Usage.mem_dueResets, not_lt] at hdue
        rw [← g.reset.period_of_toUtc hclockOk] at hreached
        omega
      rw [hstamp]
      split_ifs
      · exact h.append hbegins h.readable h.passed rfl
      · exact h.append hbegins hreadable hpassed hsame

/-! ## Counting the sends of a period -/

variable {period : Int}

private theorem countP_lt_of_mem {α : Type} {p q : α → Bool} {x : α} {xs : List α}
    (himp : ∀ y ∈ xs, p y = true → q y = true) (hx : x ∈ xs) (hp : p x = false)
    (hq : q x = true) : xs.countP p < xs.countP q := by
  obtain ⟨front, back, rfl⟩ := List.mem_iff_append.mp hx
  have hfront : front.countP p ≤ front.countP q :=
    List.countP_mono_left fun y hy => himp y (by simp [hy])
  have hback : back.countP p ≤ back.countP q :=
    List.countP_mono_left fun y hy => himp y (by simp [hy])
  simp only [List.countP_append, List.countP_cons, hp, hq, if_pos, Bool.false_eq_true, if_false]
  omega

/-- In the order of time, the sends counted since a counter last began anew outnumber those of the
present period just when one of them is from an earlier period. -/
theorem tally_le_admittedIn_iff
    (hordered : history.Pairwise fun e f => e.clock.instant ≤ f.clock.instant)
    (hpast : ∀ e ∈ history, g.reset.period e.clock ≤ period) :
    tally g history ≤ admittedIn g period history ↔
      ∀ sent ∈ current g.reset history, sent.admits g = true →
        g.reset.period sent.clock = period := by
  constructor
  · intro hle sent hmem hadmits
    by_contra hother
    -- The tally alone counts this send, and what came before the reset is older still.
    have hearlier := lt_of_le_of_ne (hpast sent (mem_of_mem_current hmem)) hother
    have hsplit := List.rdropWhile_append_rtakeWhile (l := history)
      (p := fun e : Entry => !e.begins g.reset)
    rw [← hsplit] at hordered
    have hbefore := (List.pairwise_append.mp hordered).2.2
    have hold : (history.rdropWhile fun e => !e.begins g.reset).countP
        (fun e => e.admits g && g.reset.period e.clock == period) = 0 := by
      refine List.countP_eq_zero.mpr fun old hmemOld => ?_
      have hle := g.reset.period_mono (hbefore old hmemOld sent hmem)
      simp only [Bool.and_eq_true, beq_iff_eq]
      omega
    have hnew : (current g.reset history).countP
        (fun e => e.admits g && g.reset.period e.clock == period) < tally g history :=
      countP_lt_of_mem (fun e _ h => (Bool.and_eq_true_iff.mp h).1) hmem
        (by simp [hother]) hadmits
    have hsum : admittedIn g period history =
        (history.rdropWhile fun e => !e.begins g.reset).countP
            (fun e => e.admits g && g.reset.period e.clock == period) +
          (current g.reset history).countP
            (fun e => e.admits g && g.reset.period e.clock == period) := by
      rw [← List.countP_append]
      exact congrArg _ hsplit.symm
    omega
  · intro hall
    have hsame : tally g history = (current g.reset history).countP
        (fun e => e.admits g && g.reset.period e.clock == period) := by
      refine List.countP_congr fun e he => ?_
      simp only [Bool.and_eq_true, beq_iff_eq]
      exact ⟨fun h => ⟨h, hall e he h⟩, fun h => h.1⟩
    rw [hsame]
    exact (List.rtakeWhile_suffix _ _).sublist.countP_le

end Quota

namespace Desk

variable {d : Desk} {tenant : String} {s : Step} {g : Gauge} {history : List Entry}
  {last t : Timestamp}

/-- A tenant has not been asked about, or was entered at a time that is not yet to come and has
nothing counted. -/
def Fresh (d : Desk) (tenant : String) : Prop :=
  ∀ a, d.ledger.accounts.find? tenant = some a →
    ∃ t u, a.usage = .fresh t ∧ t.toUtc = .ok u ∧ t.instant ≤ d.clock.instant

theorem fresh_new (settings : Settings) (given : Option Generation.Generator) (archive : Archive)
    (clock : Timestamp) (tenant : String) : (Desk.new settings given archive clock).Fresh tenant :=
  fun _ h => nomatch h

theorem Fresh.counters_eq (h : d.Fresh tenant) : d.ledger.counters tenant = {} := by
  unfold Ledger.counters
  cases hfound : d.ledger.accounts.find? tenant with
  | none => rfl
  | some a =>
    obtain ⟨t, u, husage, -, -⟩ := h a hfound
    simp [Account.snapshot, husage, Usage.fresh]

theorem Fresh.tracked (h : d.Fresh tenant) (g : Gauge) :
    TrackedTenant g [] d.ledger tenant d.clock := by
  unfold TrackedTenant
  cases hfound : d.ledger.accounts.find? tenant with
  | none => exact Or.inl ⟨rfl, by simp⟩
  | some a =>
    obtain ⟨t, u, husage, hreadable, hpassed⟩ := h a hfound
    rw [← hfound]
    refine Or.inr ⟨a, hfound, ⟨u, by rw [husage]; exact hreadable⟩,
      by rw [husage]; exact hpassed, ?_⟩
    simp [current]

/-- The account that a request is served on is tracked, also where it is entered only now. -/
theorem tracked_account {a : Account} (h : TrackedTenant g history d.ledger tenant last)
    (hle : last.instant ≤ s.clock.instant)
    (ha : d.ledger.account tenant s.clock.toUtc = .ok a) :
    Tracked g history a.usage.lastReset s.clock := by
  rcases h with ⟨hnone, hnever⟩ | ⟨b, hfound, htracked⟩
  · cases hclock : s.clock.toUtc with
    | error e => simp [Ledger.account, hnone, hclock, Except.map] at ha
    | ok t =>
      simp only [Ledger.account, hnone, hclock, Except.map, Except.ok.injEq] at ha
      subst ha
      refine ⟨⟨t, Timestamp.toUtc_of_toUtc hclock⟩, (Timestamp.instant_of_toUtc hclock).le, ?_⟩
      intro sent hsent hadmits
      simp [hnever sent (mem_of_mem_current hsent)] at hadmits
  · simp only [Ledger.account, hfound, Except.ok.injEq] at ha
    rw [← ha]
    exact htracked.mono hle

theorem serve_tracked (h : TrackedTenant g history d.ledger tenant last)
    (hle : last.instant ≤ s.clock.instant) :
    TrackedTenant g (history ++ [d.serve tenant s]) (d.serve tenant s).after.ledger tenant
      s.clock := by
  rcases serve_cases tenant d s with ⟨a, b, ha, hserved, hledger⟩ | ⟨e, he, hanswer, hledger⟩
  · exact Or.inr ⟨b, find?_of_ledger_eq hledger,
      Tracked.served (e := d.serve tenant s) (tracked_account h hle ha) hserved⟩
  · rcases h with ⟨hnone, hnever⟩ | ⟨b, hfound, -⟩
    · refine Or.inl ⟨by rw [hledger]; exact hnone, fun entry hentry => ?_⟩
      rcases List.mem_append.mp hentry with hold | hnew
      · exact hnever entry hold
      · rw [List.mem_singleton.mp hnew, Entry.admits, hanswer]
        simp [admits]
    · simp [Ledger.account, hfound] at he

theorem history_tracked (hfresh : d.Fresh tenant) (steps : List Step)
    (hordered : (d.clock :: steps.map Step.clock).Pairwise fun s t => s.instant ≤ t.instant)
    (g : Gauge) {now : Timestamp}
    (hnow : ∀ t ∈ d.clock :: steps.map Step.clock, t.instant ≤ now.instant) :
    TrackedTenant g (d.history tenant steps) (d.afterwards tenant steps).ledger tenant now := by
  induction steps using List.reverseRecOn generalizing now with
  | nil => exact (hfresh.tracked g).mono (hnow d.clock (by simp))
  | append_singleton steps s ih =>
    rw [List.map_append, ← List.cons_append] at hordered
    obtain ⟨hbefore, -, hlast⟩ := List.pairwise_append.mp hordered
    have htracked := ih hbefore fun t ht => hlast t ht s.clock (by simp)
    rw [history_append, afterwards_append]
    exact (serve_tracked htracked le_rfl).mono (hnow s.clock (by simp))

/-- The reset pass has a result whenever the clock can be read, and then each counter has begun
anew or its last reset is from the period of the pass. -/
theorem serve_applyDue (h : TrackedTenant g history d.ledger tenant last)
    (hle : last.instant ≤ s.clock.instant) (hrequest : s.request = .applyDue)
    (hclock : s.clock.toUtc = .ok t) :
    (∃ applied, (d.serve tenant s).answer = .ok (.resets applied)) ∧
    ((d.serve tenant s).begins g.reset = true ∨
      ∃ b : Account, Tracked g (history ++ [d.serve tenant s]) b.usage.lastReset s.clock ∧
        g.reset.period b.usage.lastReset = g.reset.period s.clock) := by
  rcases serve_cases tenant d s with ⟨a, b, ha, hserved, -⟩ | ⟨e, he, -, -⟩
  · have hbefore := tracked_account h hle ha
    have hafter := Tracked.served (e := d.serve tenant s) hbefore hserved
    rw [hrequest] at hserved
    generalize hanswer : (d.serve tenant s).answer = answer at hserved
    cases hserved with
    | @due now usage applied hnow applyDue =>
      refine ⟨⟨applied, rfl⟩, ?_⟩
      obtain ⟨happlied, -, hstamp⟩ := Usage.applyDue_ok applyDue
      have hperiod := g.reset.period_of_toUtc hnow
      by_cases hdue : g.reset ∈ applied
      · have hserve : (d.serve tenant s).request = .applyDue := hrequest
        exact Or.inl (by simp [Entry.begins, begins, hserve, hanswer, hdue])
      · refine Or.inr ⟨_, hafter, ?_⟩
        have hreached := g.reset.period_mono hbefore.passed
        rw [happlied, Usage.mem_dueResets, not_lt] at hdue
        rw [hstamp]
        split_ifs <;> omega
    | unread hunread =>
      obtain ⟨u, hreadable⟩ := hbefore.readable
      exact absurd hreadable (hunread t u hclock)
  · have herror := clock_of_account_error he
    simp [hclock] at herror

/-- While the clock does not run back, the reset pass has a result whenever the clock can be read,
and after it a counter is at most what the period of the pass has admitted, unless its reset was put
off by a reset of the other kind that was run by hand. -/
theorem applyDue_value_le_iff (hfresh : d.Fresh tenant) (steps : List Step)
    (hrequest : s.request = .applyDue) (hclock : s.clock.toUtc = .ok t)
    (hordered : (d.clock :: (steps ++ [s]).map Step.clock).Pairwise fun s t =>
      s.instant ≤ t.instant) (g : Gauge) :
    (∃ applied, ((d.afterwards tenant steps).serve tenant s).answer = .ok (.resets applied)) ∧
    (g.value ((d.afterwards tenant (steps ++ [s])).ledger.counters tenant) ≤
        admittedIn g (g.reset.period s.clock) (d.history tenant (steps ++ [s])) ↔
      ¬ Masked g (d.history tenant (steps ++ [s])) s.clock) := by
  have hclocks := history_clocks tenant d (steps ++ [s])
  have hsorted : (d.history tenant (steps ++ [s])).Pairwise fun e f =>
      e.clock.instant ≤ f.clock.instant := by
    have htail := (List.pairwise_cons.mp hordered).2
    rw [← hclocks, List.pairwise_map] at htail
    exact htail
  rw [List.map_append, ← List.cons_append] at hordered
  obtain ⟨hbefore, -, hlast⟩ := List.pairwise_append.mp hordered
  have hreached : ∀ t ∈ d.clock :: steps.map Step.clock, t.instant ≤ s.clock.instant :=
    fun t ht => hlast t ht s.clock (by simp)
  have hpast : ∀ e ∈ d.history tenant (steps ++ [s]),
      g.reset.period e.clock ≤ g.reset.period s.clock := by
    intro e he
    have hmem : e.clock ∈ (steps ++ [s]).map Step.clock := hclocks ▸ List.mem_map_of_mem he
    refine g.reset.period_mono ?_
    rcases List.mem_append.mp (List.map_append ▸ hmem) with hold | hnew
    · exact hreached e.clock (by simp [hold])
    · simp only [List.map_cons, List.map_nil, List.mem_singleton] at hnew
      rw [hnew]
  obtain ⟨hanswer, hreset⟩ :=
    serve_applyDue (history_tracked hfresh steps hbefore g hreached) le_rfl hrequest hclock
  refine ⟨hanswer, ?_⟩
  rw [afterwards_value hfresh.counters_eq, Int.ofNat_le, tally_le_admittedIn_iff hsorted hpast]
  rw [history_append] at hpast ⊢
  rcases hreset with hbegins | ⟨b, htracked, hperiod⟩
  · simp [Masked, current_append_begins hbegins]
  · exact (htracked.not_masked_iff hperiod hpast).symm

/-- The pass on Monday finds the week of Sunday over. -/
theorem applyDue_value_le_iff_monday :
    let sunday : Timestamp := ⟨739906 * Timestamp.day + 82800 * Timestamp.second, some 0⟩
    let monday : Timestamp := ⟨739907 * Timestamp.day, some 0⟩
    let d := Desk.new {} none default sunday
    let steps : List Step := [⟨sunday, .send .message⟩]
    let pass : Step := ⟨monday, .applyDue⟩
    d.Fresh "shop" ∧ pass.request = .applyDue ∧ monday.toUtc = .ok monday ∧
    ((d.clock :: (steps ++ [pass]).map Step.clock).Pairwise fun s t => s.instant ≤ t.instant) ∧
    (Gauge.messagesThisWeek.value ((d.afterwards "shop" (steps ++ [pass])).ledger.counters "shop") ≤
        admittedIn .messagesThisWeek (Reset.weekly.period monday)
          (d.history "shop" (steps ++ [pass])) ↔
      ¬ Masked .messagesThisWeek (d.history "shop" (steps ++ [pass])) monday) ∧
    (d.afterwards "shop" (steps ++ [pass])).ledger.counters "shop" = {} :=
  ⟨fresh_new _ _ _ _ _, rfl, rfl, by decide +kernel,
    (applyDue_value_le_iff (fresh_new _ _ _ _ _) _ rfl rfl (by decide +kernel) .messagesThisWeek).2,
    by decide +kernel⟩

/-- A message is sent on Sunday, 18 October 2026. On Monday the day is reset by hand, an hour before
the pass: the pass resets nothing, and the new week begins with a message that it has not sent. -/
theorem manualReset_masks_week :
    let sunday : Timestamp := ⟨739906 * Timestamp.day + 82800 * Timestamp.second, some 0⟩
    let monday (hour : Int) : Timestamp :=
      ⟨739907 * Timestamp.day + hour * (3600 * Timestamp.second), some 0⟩
    let d := Desk.new {} none default sunday
    let steps : List Step := [⟨sunday, .send .message⟩, ⟨monday 9, .reset .daily⟩,
      ⟨monday 10, .applyDue⟩]
    d.Fresh "shop" ∧
    ((d.clock :: steps.map Step.clock).Pairwise fun s t => s.instant ≤ t.instant) ∧
    Gauge.messagesThisWeek.value ((d.afterwards "shop" steps).ledger.counters "shop") = 1 ∧
    admittedIn .messagesThisWeek (Reset.weekly.period (monday 10)) (d.history "shop" steps) = 0 :=
  ⟨fresh_new _ _ _ _ _, by decide +kernel, by decide +kernel, by decide +kernel⟩

end Desk

end SalesDesk
