import SalesDesk.Proofs.Desk.Resuming
import SalesDesk.Proofs.Desk.Serving

/-!
# Sessions

A session is all that happens to a desk one after the other: requests, changes of the world outside,
reset passes and restarts of the process. Every turn leaves a well-formed desk and all that is in
the log. Only a concluded cycle and a restart bring the status of a conversation and its row
together; no other turn touches the row, and only an override touches the status.
-/

namespace SalesDesk

open Quota Desk

/-- The world outside, as it is until it changes: a clock that can be read, the answers of other
services, the numbers drawn at random, and the state of the tables. -/
structure World where
  clock : Timestamp
  network : Network := {}
  draws : Draws := {}
  brokenTables : Option String := none
  brokenMemory : Option String := none
  readable : ∃ t, clock.toUtc = .ok t

inductive Turn where
  | request (r : Http.Request)
  | world (w : World)
  | pass
  | restart

/-- A turn brings the status of a conversation and its row together: it concludes a cycle of the
conversation, or restarts the process. -/
def Turn.Keeps (id : String) (d : Desk) : Turn → Prop
  | .request r => r.Cycles id ∧ r.Concluded d
  | .restart => True
  | _ => False

/-- A turn hands a conversation back to automation. -/
def Turn.Overrides (id : String) : Turn → Prop
  | .request r => r.Overrides id
  | _ => False

instance (id : String) (turn : Turn) : Decidable (turn.Overrides id) :=
  match turn with
  | .request r => inferInstanceAs (Decidable (r.Overrides id))
  | .restart | .world _ | .pass => inferInstanceAs (Decidable False)

namespace Desk

def inWorld (d : Desk) (w : World) : Desk :=
  { d with
    clock := w.clock
    network := w.network
    draws := w.draws
    archive := { d.archive with brokenTables := w.brokenTables, brokenMemory := w.brokenMemory } }

def step (d : Desk) : Turn → Desk
  | .request r => ((Http.serve quiet r).run d).2
  | .world w => d.inWorld w
  | .pass => ((fire true).run d).2
  | .restart => (start.run d.restarted).2

def through (d : Desk) (turns : List Turn) : Desk := turns.foldl step d

/-- A desk at its first process, which is started in a world. -/
def launched (settings : Settings) (given : Option Generation.Generator) (archive : Archive)
    (w : World) : Desk :=
  (start.run ((Desk.new settings given archive w.clock).inWorld w)).2

variable {d : Desk} {turn : Turn} {turns : List Turn} {id : String} {t : Timestamp}

theorem through_append (d : Desk) (before rest : List Turn) :
    d.through (before ++ rest) = (d.through before).through rest :=
  List.foldl_append

theorem through_concat (d : Desk) (turns : List Turn) (turn : Turn) :
    d.through (turns ++ [turn]) = (d.through turns).step turn :=
  through_append d turns [turn]

/-! ## Starting -/

/-- A process that has begun knows no tenant and no conversation. -/
theorem exists_started (hd : d.WellFormed) (haccounts : d.ledger.accounts = [])
    (hregistry : d.registry = []) :
    ∃ t, d.clock.toUtc = .ok t ∧ start.run d = (.ok (), (start.run d).2) ∧
      Started t d (start.run d).2 := by
  obtain ⟨t, hclock⟩ := hd.clock
  obtain ⟨after, hrun, hstarted⟩ := run_start hd hclock haccounts hregistry
  rw [hrun]
  exact ⟨t, hclock, rfl, hstarted⟩

theorem wellFormed_new {ledger : Ledger} (haccounts : ledger.accounts = []) : ledger.WellFormed := by
  refine ⟨?_, fun tenant a ha => ?_⟩
  · rw [haccounts]
    exact List.nodup_nil
  · rw [haccounts] at ha
    cases ha

theorem wellFormed_restarted (hd : d.WellFormed) : d.restarted.WellFormed :=
  ⟨hd.clock, wellFormed_new rfl, hd.archive⟩

theorem started_restart (hd : d.WellFormed) :
    ∃ t, d.clock.toUtc = .ok t ∧ start.run d.restarted = (.ok (), d.step .restart) ∧
      Started t d.restarted (d.step .restart) :=
  exists_started (wellFormed_restarted hd) rfl rfl

section Launched

variable (settings : Settings) (given : Option Generation.Generator) {archive : Archive}
  (w : World) (h : archive.WellFormed)

include h

theorem started_launched : ∃ t, Started t ((Desk.new settings given archive w.clock).inWorld w)
    (launched settings given archive w) := by
  have harchive : ({ archive with
      brokenTables := w.brokenTables, brokenMemory := w.brokenMemory } : Archive).WellFormed :=
    ⟨h.usages, h.conversations, h.lastReset⟩
  have hnew : ((Desk.new settings given archive w.clock).inWorld w).WellFormed :=
    ⟨w.readable, wellFormed_new rfl, harchive⟩
  obtain ⟨t, -, -, hstarted⟩ := exists_started hnew rfl rfl
  exact ⟨t, hstarted⟩

theorem wellFormed_launched : (launched settings given archive w).WellFormed := by
  obtain ⟨t, hstarted⟩ := started_launched settings given w h
  exact hstarted.within.wellFormed

theorem synced_launched (hsaved : ¬ (launched settings given archive w).LostSave)
    (tenant : String) : (launched settings given archive w).Synced tenant := by
  obtain ⟨t, hstarted⟩ := started_launched settings given w h
  exact hstarted.synced hsaved tenant

theorem savedStatus_launched (id : String) : (launched settings given archive w).savedStatus id =
    (launched settings given archive w).registry.status id := by
  obtain ⟨t, hstarted⟩ := started_launched settings given w h
  rw [hstarted.status, hstarted.within.savedStatus (Set.notMem_empty _)]

end Launched

/-! ## One turn -/

theorem within_pass (hd : d.WellFormed) :
    d.Within { tenants := {tenant | tenant ∈ d.ledger.tenants}
               usages := {tenant | tenant ∈ d.ledger.tenants} } (d.step .pass) := by
  obtain ⟨t, hclock⟩ := hd.clock
  obtain ⟨applied, after, hrun, hwithin, -⟩ := run_fire hd hclock
  have hstep : d.step .pass = after := congrArg Prod.snd hrun
  rw [hstep]
  exact hwithin

theorem within_request (hd : d.WellFormed) (r : Http.Request) :
    d.Within (r.footprint d) (d.step (.request r)) :=
  (Http.handled_serve hd r).within

theorem wellFormed_step (hd : d.WellFormed) (turn : Turn) : (d.step turn).WellFormed := by
  cases turn with
  | request r => exact (within_request hd r).wellFormed
  | world w =>
    exact ⟨w.readable, hd.ledger, hd.archive.usages, hd.archive.conversations, hd.archive.lastReset⟩
  | pass => exact (within_pass hd).wellFormed
  | restart =>
    obtain ⟨t, -, -, hstarted⟩ := started_restart hd
    exact hstarted.within.wellFormed

theorem log_step (hd : d.WellFormed) (turn : Turn) :
    d.outbox.records <+: (d.step turn).outbox.records := by
  cases turn with
  | request r => exact (within_request hd r).log
  | world w => exact List.prefix_refl _
  | pass => exact (within_pass hd).log
  | restart =>
    obtain ⟨t, -, -, hstarted⟩ := started_restart hd
    exact hstarted.within.log

/-- Where every tenant has the usage of its row, it has so after a turn that reports no loss. -/
theorem synced_step (hd : d.WellFormed) (turn : Turn) (hsaved : ¬ (d.step turn).LostSave)
    (hsynced : ∀ tenant, d.Synced tenant) (tenant : String) : (d.step turn).Synced tenant := by
  cases turn with
  | request r =>
    have hhandled := Http.handled_serve hd r
    exact hhandled.synced (r.footprint_usages d) hsaved (hsynced tenant)
  | world w => exact hsynced tenant
  | pass =>
    obtain ⟨t, hclock⟩ := hd.clock
    obtain ⟨applied, after, hrun, -⟩ := run_fire hd hclock
    have hstep : d.step .pass = after := congrArg Prod.snd hrun
    rw [hstep] at hsaved ⊢
    exact synced_fire hd hrun hsaved (hsynced tenant)
  | restart =>
    obtain ⟨t, -, -, hstarted⟩ := started_restart hd
    exact hstarted.synced hsaved tenant

/-- Only a concluded cycle saves the status of its conversation. -/
theorem savedStatus_step (hd : d.WellFormed) (h : ¬ turn.Keeps id d) :
    (d.step turn).savedStatus id = d.savedStatus id := by
  cases turn with
  | request r =>
    by_cases hcycle : r.Cycles id
    · obtain ⟨form, hcall, -⟩ := hcycle.form
      rcases Http.serve_cycle_cases hd hcall with ⟨-, hsame⟩ | ⟨hconcluded, -⟩
      · exact hsame.savedStatus (Set.notMem_empty _)
      · exact absurd ⟨hcycle, hconcluded⟩ h
    · exact (within_request hd r).savedStatus (r.notMem_statuses hcycle d)
  | world w => rfl
  | pass => exact (within_pass hd).savedStatus (Set.notMem_empty _)
  | restart => exact absurd trivial h

/-- Besides that only an override changes a status. -/
theorem status_step (hd : d.WellFormed) (h : ¬ turn.Keeps id d) (hoverride : ¬ turn.Overrides id) :
    (d.step turn).registry.status id = d.registry.status id := by
  cases turn with
  | request r =>
    by_cases hcycle : r.Cycles id
    · obtain ⟨form, hcall, -⟩ := hcycle.form
      rcases Http.serve_cycle_cases hd hcall with ⟨-, hsame⟩ | ⟨hconcluded, -⟩
      · exact hsame.status _ (Set.notMem_empty _)
      · exact absurd ⟨hcycle, hconcluded⟩ h
    · exact (within_request hd r).status id (r.notMem_conversations hcycle hoverride d)
  | world w => rfl
  | pass => exact (within_pass hd).status id (Set.notMem_empty _)
  | restart => exact absurd trivial h

/-- After a turn that keeps a conversation its row holds its status, unless a loss is reported. -/
theorem savedStatus_of_keeps (hd : d.WellFormed) (h : turn.Keeps id d)
    (hsaved : ¬ (d.step turn).LostSave) :
    (d.step turn).savedStatus id = (d.step turn).registry.status id := by
  cases turn with
  | request r =>
    obtain ⟨hcycle, hconcluded⟩ := h
    obtain ⟨form, hcall, rfl⟩ := hcycle.form
    rcases Http.serve_cycle_cases hd hcall with ⟨hnot, -⟩ | ⟨-, -, hkept⟩
    · exact absurd hconcluded hnot
    · exact (hkept.resolve_right hsaved).savedStatus
  | world w => exact h.elim
  | pass => exact h.elim
  | restart =>
    obtain ⟨t, -, -, hstarted⟩ := started_restart hd
    rw [hstarted.status, hstarted.within.savedStatus (Set.notMem_empty _)]

/-! ## A whole session -/

theorem wellFormed_through (hd : d.WellFormed) (turns : List Turn) :
    (d.through turns).WellFormed := by
  induction turns generalizing d with
  | nil => exact hd
  | cons turn rest ih => exact ih (wellFormed_step hd turn)

theorem log_through (hd : d.WellFormed) (turns : List Turn) :
    d.outbox.records <+: (d.through turns).outbox.records := by
  induction turns generalizing d with
  | nil => exact List.prefix_refl _
  | cons turn rest ih => exact (log_step hd turn).trans (ih (wellFormed_step hd turn))

theorem synced_through (hd : d.WellFormed) (turns : List Turn)
    (hsaved : ¬ (d.through turns).LostSave) (hsynced : ∀ tenant, d.Synced tenant)
    (tenant : String) : (d.through turns).Synced tenant := by
  induction turns generalizing d with
  | nil => exact hsynced tenant
  | cons turn rest ih =>
    have hwf := wellFormed_step hd turn
    have hearlier : ¬ (d.step turn).LostSave := fun hlost => hsaved (hlost.mono (log_through hwf rest))
    exact ih hwf hsaved (synced_step hd turn hearlier hsynced)

end Desk

end SalesDesk
