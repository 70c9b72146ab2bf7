import SalesDesk.Proofs.Desk.Confinement

/-!
# Saving

The usage of a tenant and the status of a conversation are saved as they are at that moment, or the
log reports that they could not be saved. What is saved is read back as the same usage and the same
status.
-/

namespace SalesDesk

open Quota

namespace Archive

variable {archive kept : Archive} {now : Timestamp} {tenant id : String}

theorem row_of_saveUsage {u : Usage} (hutc : u.lastReset.IsUtc)
    (h : archive.saveUsage tenant (.ofUsage u) now = .ok kept) :
    ∃ row : UsageRow, row.usage = u ∧
      kept = { archive with usages := archive.usages.put tenant row } := by
  have hoffset : u.lastReset.offset = some 0 := by
    obtain ⟨hsame, -⟩ := Timestamp.toUtc_eq_ok hutc
    rw [hsame]
  let row : UsageRow :=
    { toSnapshot := u.toSnapshot, lastReset := u.lastReset.naive, updatedAt := now.naive }
  have hrow : row.usage = u := by
    change ({ toSnapshot := u.toSnapshot, lastReset := ⟨u.lastReset.wall, some 0⟩ } : Usage) = u
    rw [← hoffset]
  refine ⟨row, hrow, ?_⟩
  unfold saveUsage whenInOrder at h
  split at h
  · cases h
  · cases hlarge : (UsageEntry.ofUsage u).counters.any fun c => c.2.any UsageEntry.isTooLarge with
    | true =>
      simp only [hlarge, if_true] at h
      cases h
    | false =>
      cases hfound : archive.usages.find? tenant with
      | none =>
        simp only [hlarge, hfound] at h
        cases h
        rfl
      | some old =>
        simp only [hlarge, hfound] at h
        cases h
        rfl

theorem row_of_saveStatus {s : Conversation.Status}
    (h : archive.saveStatus id (.ofStatus tenant s) now = .ok kept) :
    ∃ row : ConversationRow, row.status? = some s ∧
      kept = { archive with conversations := archive.conversations.put id row } := by
  have hnamed := s.state.named?_name
  unfold saveStatus whenInOrder at h
  split at h
  · cases h
  · cases hfound : archive.conversations.find? id with
    | none =>
      simp only [hfound] at h
      cases h
      exact ⟨_, by simp [ConversationRow.status?, StatusEntry.ofStatus, hnamed], rfl⟩
    | some old =>
      simp only [hfound] at h
      cases h
      exact ⟨_, by simp [ConversationRow.status?, hnamed], rfl⟩

end Archive

/-- Does a record report a usage or a status that could not be saved? -/
def Log.Record.isLostSave (r : Log.Record) : Bool :=
  r.level == .error && r.logger == Log.loggerName "storage_service"

namespace Desk

variable {f : Footprint} {d after : Desk} {t : Timestamp} {tenant id : String} {a : Account}

/-- The log reports a usage or a status that could not be saved. -/
def LostSave (d : Desk) : Prop := ∃ r ∈ d.outbox.records, r.isLostSave = true

instance (d : Desk) : Decidable d.LostSave :=
  inferInstanceAs (Decidable (∃ r ∈ d.outbox.records, r.isLostSave = true))

/-- The row of a tenant holds its usage as it is. -/
def UsageSaved (d : Desk) (tenant : String) : Prop :=
  ∃ a row, d.ledger.accounts.find? tenant = some a ∧ d.archive.usages.find? tenant = some row ∧
    a.usage = row.usage

/-- The row of a conversation holds its status as it is. -/
def StatusSaved (d : Desk) (id : String) : Prop :=
  ∃ row, d.archive.conversations.find? id = some row ∧ row.status? = some (d.registry.status id)

/-- The usage of a tenant is saved as it is, unless a loss is reported. -/
def UsageKept (d : Desk) (tenant : String) : Prop := d.UsageSaved tenant ∨ d.LostSave

/-- The status of a conversation is saved as it is, unless a loss is reported. -/
def StatusKept (d : Desk) (id : String) : Prop := d.StatusSaved id ∨ d.LostSave

/-- A tenant has the usage of its row; without a row it has sent nothing. -/
def Synced (d : Desk) (tenant : String) : Prop :=
  match d.archive.usages.find? tenant with
  | none => d.ledger.counters tenant = {}
  | some row => ∃ a, d.ledger.accounts.find? tenant = some a ∧ a.usage = row.usage

theorem LostSave.mono (hlost : d.LostSave) (h : d.outbox.records <+: after.outbox.records) :
    after.LostSave := by
  obtain ⟨r, hr, hlost⟩ := hlost
  exact ⟨r, h.subset hr, hlost⟩

theorem Within.usageKept (h : d.Within f after) (htenant : tenant ∉ f.tenants)
    (husage : tenant ∉ f.usages) (hkept : d.UsageKept tenant) : after.UsageKept tenant := by
  rcases hkept with ⟨a, row, hknown, hrow, hsame⟩ | hlost
  · exact Or.inl ⟨a, row, h.known htenant hknown, (h.usage tenant husage).trans hrow, hsame⟩
  · exact Or.inr (hlost.mono h.log)

theorem UsageSaved.synced (h : d.UsageSaved tenant) : d.Synced tenant := by
  obtain ⟨a, row, ha, hrow, hsame⟩ := h
  unfold Synced
  rw [hrow]
  exact ⟨a, ha, hsame⟩

theorem Within.synced (h : d.Within f after) (htenant : tenant ∉ f.tenants)
    (husage : tenant ∉ f.usages) (hsynced : d.Synced tenant) : after.Synced tenant := by
  unfold Synced at hsynced ⊢
  rw [h.usage tenant husage]
  cases hrow : d.archive.usages.find? tenant with
  | none =>
    simp only [hrow] at hsynced ⊢
    rw [h.counters htenant, hsynced]
  | some row =>
    simp only [hrow] at hsynced ⊢
    obtain ⟨a, ha, hsame⟩ := hsynced
    exact ⟨a, h.known htenant ha, hsame⟩

theorem Within.statusKept (h : d.Within f after) (hid : id ∉ f.conversations)
    (hsaved : id ∉ f.statuses) (hkept : d.StatusKept id) : after.StatusKept id := by
  rcases hkept with ⟨row, hrow, hsame⟩ | hlost
  · refine Or.inl ⟨row, (h.saved id hsaved).trans hrow, ?_⟩
    rw [h.status id hid]
    exact hsame
  · exact Or.inr (hlost.mono h.log)

theorem lostSave_logged {n : Log.Notice} (hlevel : n.level = .error)
    (hpart : n.part = "storage_service") : (d.logged t [n]).LostSave := by
  refine ⟨n.record t, by simp [logged], ?_⟩
  simp [Log.Record.isLostSave, Log.Notice.record, hlevel, hpart]

theorem within_savedUsage (hd : d.WellFormed) (htenant : tenant ∈ f.usages) {row : Archive.UsageRow}
    (hutc : row.usage.lastReset.IsUtc) :
    d.Within f { d with archive := { d.archive with usages := d.archive.usages.put tenant row } } where
  wellFormed := by
    refine ⟨hd.clock, hd.ledger, Table.nodup_names_put hd.archive.usages, hd.archive.conversations,
      fun other found hfound => ?_⟩
    by_cases hother : tenant = other
    · subst hother
      have hsame : row = found := by simpa [Table.find?_put_self] using hfound
      rwa [← hsame]
    · simp only [Table.find?_put_of_ne _ _ hother] at hfound
      exact hd.archive.lastReset other found hfound
  settings := rfl
  given := rfl
  earlier := rfl
  clock := rfl
  account _ _ := Or.inl rfl
  status _ _ := rfl
  halt _ _ := .refl _
  usage _ hother := Table.find?_put_of_ne _ _ fun h => hother (h ▸ htenant)
  saved _ _ := rfl
  log := List.prefix_refl _

theorem within_savedStatus (hd : d.WellFormed) (hid : id ∈ f.statuses) (row : Archive.ConversationRow) :
    d.Within f
      { d with archive := { d.archive with conversations := d.archive.conversations.put id row } }
    where
  wellFormed := ⟨hd.clock, hd.ledger, hd.archive.usages,
    Table.nodup_names_put hd.archive.conversations, hd.archive.lastReset⟩
  settings := rfl
  given := rfl
  earlier := rfl
  clock := rfl
  account _ _ := Or.inl rfl
  status _ _ := rfl
  halt _ _ := .refl _
  usage _ _ := rfl
  saved _ hother := Table.find?_put_of_ne _ _ fun h => hother (h ▸ hid)
  log := List.prefix_refl _

theorem run_persistTenant (hd : d.WellFormed) (tenant : String) :
    ∃ saved after, (persistTenant tenant).run d = (.ok saved, after) ∧
      (∀ f : Footprint, tenant ∈ f.usages → d.Within f after) ∧
      after.UsageKept tenant := by
  obtain ⟨t, hclock⟩ := hd.clock
  obtain ⟨a, ha, hutc⟩ := exists_account_of_wellFormed hd tenant
  have hentered (f : Footprint) : d.Within f (d.withAccount tenant a) := within_entered hd ha
  have hread : (d.withAccount tenant a).clock.toUtc = .ok t := hclock
  unfold persistTenant usage
  rw [Act.run_bind_ok (run_account ha _), saveUsage_eq]
  rcases run_save hread (fun archive => archive.saveUsage tenant (.ofUsage a.usage))
    (Archive.usageNotSaved tenant) with ⟨archive, hwrite, hrun⟩ | ⟨e, hrun⟩
  · obtain ⟨row, hrow, rfl⟩ := Archive.row_of_saveUsage hutc hwrite
    refine ⟨_, _, Act.run_bind_ok hrun, fun f hf => ?_, Or.inl ⟨a, row, ?_, ?_, hrow.symm⟩⟩
    · exact (hentered f).trans (within_savedUsage (hentered f).wellFormed hf (hrow ▸ hutc))
    · exact Table.find?_put_self ..
    · exact Table.find?_put_self ..
  · refine ⟨_, _, Act.run_bind_ok hrun, fun f _ => ?_, Or.inr (lostSave_logged rfl rfl)⟩
    exact (hentered f).trans (within_logged (hentered f).wellFormed t _)

theorem run_persistConversation (hd : d.WellFormed) (tenant id : String) :
    ∃ saved after, (persistConversation tenant id).run d = (.ok saved, after) ∧
      (∀ f : Footprint, id ∈ f.statuses → d.Within f after) ∧
      after.StatusKept id := by
  obtain ⟨t, hclock⟩ := hd.clock
  have hentered (f : Footprint) : d.Within f ((status id).run d).2 := keeps_status id d hd
  have hread : ((status id).run d).2.clock.toUtc = .ok t := hclock
  have hstatus : ((status id).run d).2.registry.status id = d.registry.status id :=
    Conversation.Registry.status_update_self d.registry id fun s => s
  have hrun : (status id).run d = (.ok (d.registry.status id), ((status id).run d).2) := rfl
  unfold persistConversation
  rw [Act.run_bind_ok hrun, saveStatus_eq]
  rcases run_save hread
    (fun archive => archive.saveStatus id (.ofStatus tenant (d.registry.status id)))
    (Archive.statusNotSaved id) with ⟨archive, hwrite, hrun⟩ | ⟨e, hrun⟩
  · obtain ⟨row, hrow, rfl⟩ := Archive.row_of_saveStatus hwrite
    refine ⟨_, _, Act.run_bind_ok hrun, fun f hf => ?_, Or.inl ⟨row, ?_, hrow.trans ?_⟩⟩
    · exact (hentered f).trans (within_savedStatus (hentered f).wellFormed hf row)
    · exact Table.find?_put_self ..
    · exact congrArg some hstatus.symm
  · refine ⟨_, _, Act.run_bind_ok hrun, fun f _ => ?_, Or.inr (lostSave_logged rfl rfl)⟩
    exact (hentered f).trans (within_logged (hentered f).wellFormed t _)

end Desk

end SalesDesk
