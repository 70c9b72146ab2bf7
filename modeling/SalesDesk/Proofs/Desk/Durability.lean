import SalesDesk.Proofs.Desk.Session

/-!
# What outlives a restart

As long as no loss is reported, a restart gives every tenant the counters that the process it
replaces would have after a reset pass, and every conversation the status that it had when it was
last kept. A conversation that was handed back to automation since then falls back to the status
before, because an override saves nothing.
-/

namespace SalesDesk

open Quota

namespace Desk

variable {d : Desk} {turns before rest : List Turn} {id : String} {archive : Archive}

/-! ## Usage -/

/-- Two processes that follow a desk have the same counters for every tenant, and the same last
reset for every tenant with a row. -/
structure SameUsage (d passed resumed : Desk) : Prop where
  counters : ∀ tenant, resumed.ledger.counters tenant = passed.ledger.counters tenant
  lastReset : ∀ tenant row, d.archive.usages.find? tenant = some row →
    ∃ a b, passed.ledger.accounts.find? tenant = some a ∧
      resumed.ledger.accounts.find? tenant = some b ∧ b.usage.lastReset = a.usage.lastReset

theorem restart_sameUsage (hd : d.WellFormed) (hsynced : ∀ tenant, d.Synced tenant) :
    ∃ applied passed, (fire true).run d = (.ok applied, passed) ∧
      start.run d.restarted = (.ok (), d.step .restart) ∧ SameUsage d passed (d.step .restart) := by
  obtain ⟨t, hclock, hrun, hstarted⟩ := started_restart hd
  obtain ⟨applied, passed, hfire, -⟩ := run_fire hd hclock
  have hcounters := counters_fire hd hclock hfire
  have hrows (tenant : String) (row : Archive.UsageRow)
      (hrow : d.archive.usages.find? tenant = some row) :
      ∃ a b, passed.ledger.accounts.find? tenant = some a ∧
        (d.step .restart).ledger.accounts.find? tenant = some b ∧ b.usage = a.usage := by
    have htenant := hsynced tenant
    unfold Synced at htenant
    rw [hrow] at htenant
    obtain ⟨known, hknown, hsame⟩ := htenant
    obtain ⟨a, ha, hdue⟩ := (hcounters tenant).1 known hknown
    obtain ⟨b, hb, hnew⟩ := hstarted.usage tenant row hrow
    exact ⟨a, b, ha, hb, by rw [hnew, hdue, hsame]⟩
  refine ⟨applied, passed, hfire, hrun, fun tenant => ?_, fun tenant row hrow => ?_⟩
  · cases hrow : d.archive.usages.find? tenant with
    | none =>
      -- Without a row the new process has no account, and the old one has none that was ever used.
      have htenant := hsynced tenant
      unfold Synced at htenant
      rw [hrow] at htenant
      rw [hstarted.unused tenant hrow, (hcounters tenant).2 htenant]
    | some row =>
      obtain ⟨a, b, ha, hb, hsame⟩ := hrows tenant row hrow
      simp only [Ledger.counters, ha, hb, Option.map_some, Option.getD_some, Account.snapshot, hsame]
  · obtain ⟨a, b, ha, hb, hsame⟩ := hrows tenant row hrow
    exact ⟨a, b, ha, hb, congrArg Usage.lastReset hsame⟩

/-- A restart gives every tenant the counters that it would have after a reset pass of the old
process, and the same last reset where it has a row. -/
theorem restart_counters (settings : Settings) (given : Option Generation.Generator) (w : World)
    (turns : List Turn) (harchive : archive.WellFormed)
    (hsaved : ¬ ((launched settings given archive w).through turns).LostSave) :
    let d := (launched settings given archive w).through turns
    ∃ applied passed, (fire true).run d = (.ok applied, passed) ∧
      start.run d.restarted = (.ok (), d.step .restart) ∧ SameUsage d passed (d.step .restart) := by
  intro d
  have hwf := wellFormed_launched settings given w harchive
  have hlaunched : ¬ (launched settings given archive w).LostSave := fun hlost =>
    hsaved (hlost.mono (log_through hwf turns))
  have hsynced := synced_through hwf turns hsaved
    (synced_launched settings given w harchive hlaunched)
  exact restart_sameUsage (wellFormed_through hwf turns) hsynced

/-- One message on a Saturday, and a restart on Sunday, when the day's counters are due and the
week's are not. -/
theorem restart_counters_sunday :
    let saturday : Timestamp := ⟨738008 * Timestamp.day + 43200 * Timestamp.second, some 0⟩
    let sunday : Timestamp := ⟨738009 * Timestamp.day + 43200 * Timestamp.second, some 0⟩
    let w : World := { clock := saturday, readable := ⟨saturday, rfl⟩ }
    let later : World := { clock := sunday, readable := ⟨sunday, rfl⟩ }
    let send : Http.Request :=
      { method := "POST", target := "/api/v1/quota/record"
        content := some "\x7b\"tenant_id\": \"shop\"\x7d" }
    let d := (launched {} none { audit := .memory [] } w).through [.request send, .world later]
    ¬ d.LostSave ∧ d.ledger.counters "shop" = { messagesToday := 1, messagesThisWeek := 1 } ∧
    (d.step .restart).ledger.counters "shop" = { messagesThisWeek := 1 } := by
  intro saturday sunday w later send d
  have hsaved : ¬ d.LostSave := by decide +kernel
  have hpass : ((fire true).run d).2.ledger.counters "shop" = { messagesThisWeek := 1 } := by
    decide +kernel
  obtain ⟨applied, passed, hfire, -, hsame⟩ := restart_counters {} none w
    [.request send, .world later] (Archive.wellFormed_empty (.memory [])) hsaved
  refine ⟨hsaved, by decide +kernel, ?_⟩
  have hpassed : ((fire true).run d).2 = passed := congrArg Prod.snd hfire
  rw [hpassed] at hpass
  exact (hsame.counters "shop").trans hpass

/-! ## Statuses -/

/-- A session splits where a conversation was last kept, or at its start. -/
structure LastKept (id : String) (d : Desk) (before rest : List Turn) : Prop where
  kept : before = [] ∨
    ∃ earlier turn, before = earlier ++ [turn] ∧ turn.Keeps id (d.through earlier)
  since : ∀ earlier turn later, rest = earlier ++ turn :: later →
    ¬ turn.Keeps id ((d.through before).through earlier)

theorem lastKept_nil (h : before = [] ∨
    ∃ earlier turn, before = earlier ++ [turn] ∧ turn.Keeps id (d.through earlier)) :
    LastKept id d before [] :=
  ⟨h, fun earlier turn later hsplit => by simp at hsplit⟩

theorem LastKept.concat {turn : Turn} (h : LastKept id d before rest)
    (hturn : ¬ turn.Keeps id ((d.through before).through rest)) :
    LastKept id d before (rest ++ [turn]) := by
  refine ⟨h.kept, fun earlier next later hsplit => ?_⟩
  rcases List.eq_nil_or_concat later with rfl | ⟨later, last, rfl⟩
  · obtain ⟨rfl, hnext⟩ := List.append_inj' hsplit rfl
    cases hnext
    exact hturn
  · rw [List.concat_eq_append, ← List.cons_append, ← List.append_assoc] at hsplit
    obtain ⟨hrest, -⟩ := List.append_inj' hsplit rfl
    exact h.since earlier next later hrest

/-- The row of a conversation holds the status that it had when it was last kept; since then only
overrides have changed its status. -/
theorem exists_lastKept (hd : d.WellFormed) (hstart : d.savedStatus id = d.registry.status id)
    (turns : List Turn) (hsaved : ¬ (d.through turns).LostSave) :
    ∃ before rest, turns = before ++ rest ∧ LastKept id d before rest ∧
      (d.through turns).savedStatus id = (d.through before).registry.status id ∧
      ((∀ turn ∈ rest, ¬ turn.Overrides id) →
        (d.through turns).registry.status id = (d.through before).registry.status id) := by
  -- By the last turn: the split moves to the end where it keeps, and stays where it is otherwise.
  induction turns using List.reverseRecOn with
  | nil => exact ⟨[], [], rfl, lastKept_nil (Or.inl rfl), hstart, fun _ => rfl⟩
  | append_singleton turns turn ih =>
    have hwf := wellFormed_through hd turns
    rw [through_concat] at hsaved ⊢
    by_cases hkeeps : turn.Keeps id (d.through turns)
    · refine ⟨turns ++ [turn], [], (List.append_nil _).symm,
        lastKept_nil (Or.inr ⟨turns, turn, rfl, hkeeps⟩), ?_, fun _ => ?_⟩
      · rw [through_concat]
        exact savedStatus_of_keeps hwf hkeeps hsaved
      · rw [through_concat]
    · have hearlier : ¬ (d.through turns).LostSave := fun hlost =>
        hsaved (hlost.mono (log_step hwf turn))
      obtain ⟨before, rest, hsplit, hlast, hrow, hstatus⟩ := ih hearlier
      have hturn : ¬ turn.Keeps id ((d.through before).through rest) := by
        rwa [← through_append, ← hsplit]
      refine ⟨before, rest ++ [turn], ?_, hlast.concat hturn, ?_, fun hnone => ?_⟩
      · rw [hsplit, List.append_assoc]
      · rw [savedStatus_step hwf hkeeps, hrow]
      · have hidle : ¬ turn.Overrides id := hnone turn (by simp)
        rw [status_step hwf hkeeps hidle]
        exact hstatus fun next hnext => hnone next (List.mem_append_left _ hnext)

/-- A restart gives a conversation the status that it had when it was last kept. This is the status
before the restart if the conversation was not handed back to automation since then. -/
theorem restart_status (settings : Settings) (given : Option Generation.Generator) (w : World)
    (turns : List Turn) (id : String) (harchive : archive.WellFormed)
    (hsaved : ¬ ((launched settings given archive w).through turns).LostSave) :
    let first := launched settings given archive w
    let d := first.through turns
    ∃ before rest, turns = before ++ rest ∧ LastKept id first before rest ∧
      start.run d.restarted = (.ok (), d.step .restart) ∧
      (d.step .restart).registry.status id = (first.through before).registry.status id ∧
      ((∀ turn ∈ rest, ¬ turn.Overrides id) →
        (d.step .restart).registry.status id = d.registry.status id) := by
  intro first d
  have hwf : first.WellFormed := wellFormed_launched settings given w harchive
  obtain ⟨t, -, hrun, hstarted⟩ := started_restart (wellFormed_through hwf turns)
  have hresumed : (d.step .restart).registry.status id = d.savedStatus id := hstarted.status id
  obtain ⟨before, rest, hsplit, hlast, hrow, hstatus⟩ :=
    exists_lastKept hwf (savedStatus_launched settings given w harchive id) turns hsaved
  refine ⟨before, rest, hsplit, hlast, hrun, hresumed.trans hrow, fun hnone => ?_⟩
  exact (hresumed.trans hrow).trans (hstatus hnone).symm

/-- A threat escalates a conversation, and it is escalated after a restart as well. -/
theorem restart_status_threat :
    let noon : Timestamp := ⟨738000 * Timestamp.day + 43200 * Timestamp.second, some 0⟩
    let w : World := { clock := noon, readable := ⟨noon, rfl⟩ }
    let threat : Http.Request :=
      { method := "POST", target := "/api/v1/cycle"
        content := some ("\x7b\"conversation_id\": \"chat\", \"message\": \"Bonjour\", " ++
          "\"event\": \"ThreatDetected\"\x7d") }
    let d := (launched {} none { audit := .memory [] } w).through [.request threat]
    ¬ d.LostSave ∧ d.registry.status "chat" = { state := .escalated } ∧
    (d.step .restart).registry.status "chat" = d.registry.status "chat" := by
  intro noon w threat d
  have hsaved : ¬ d.LostSave := by decide +kernel
  obtain ⟨before, rest, hsplit, -, -, -, hsame⟩ := restart_status {} none w
    [.request threat] "chat" (Archive.wellFormed_empty (.memory [])) hsaved
  refine ⟨hsaved, by decide +kernel, hsame fun turn hturn => ?_⟩
  have hmem : turn ∈ [Turn.request threat] := hsplit ▸ List.mem_append_right before hturn
  rw [List.mem_singleton.mp hmem]
  decide +kernel

/-- A human takes an escalated conversation back, and the next restart escalates it again. -/
theorem restart_undoes_override :
    let noon : Timestamp := ⟨738000 * Timestamp.day + 43200 * Timestamp.second, some 0⟩
    let w : World := { clock := noon, readable := ⟨noon, rfl⟩ }
    let threat : Http.Request :=
      { method := "POST", target := "/api/v1/cycle"
        content := some ("\x7b\"conversation_id\": \"chat\", \"message\": \"Bonjour\", " ++
          "\"event\": \"ThreatDetected\"\x7d") }
    let override : Http.Request :=
      { method := "POST", target := "/api/v1/conversation/chat/override", content := some "\x7b\x7d" }
    let d := (launched {} none { audit := .memory [] } w).through
      [.request threat, .request override]
    ¬ (d.step .restart).LostSave ∧ d.registry.status "chat" = { state := .discovery } ∧
    (d.step .restart).registry.status "chat" = { state := .escalated } := by
  decide +kernel

end Desk

end SalesDesk
