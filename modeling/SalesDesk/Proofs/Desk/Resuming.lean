import SalesDesk.Proofs.Desk.Passing
import SalesDesk.Proofs.Desk.Saving

/-!
# Resuming and the reset pass

A process that begins finds the rows of the archive: every tenant with a row has the usage of its
row, and every conversation the status of its row. The reset pass runs the resets that are due for
each tenant by its last reset and the clock alone, and saves what it has reset.
-/

namespace SalesDesk

open Quota

/-- A usage after the resets that are due at a time. -/
def Quota.Usage.due (u : Usage) (t : Timestamp) : Usage :=
  { toSnapshot := Usage.renewed u.toSnapshot (Usage.dueResets u.lastReset t)
    lastReset := if Usage.dueResets u.lastReset t = [] then u.lastReset else t }

theorem Quota.Usage.due_of_none {u : Usage} {t : Timestamp}
    (h : Usage.dueResets u.lastReset t = []) : u.due t = u := by
  simp [due, h, renewed]

/-- Counters that are zero stay zero. -/
theorem Quota.Usage.renewed_zero (resets : List Reset) : Usage.renewed {} resets = {} := by
  induction resets with
  | nil => rfl
  | cons r rest ih => cases r <;> exact ih

namespace Desk

variable {f : Footprint} {d after : Desk} {t : Timestamp} {tenant id : String} {a : Account}

/-! ## The reset pass -/

theorem run_applyDue_due (hd : d.WellFormed) (hclock : d.clock.toUtc = .ok t) (tenant : String) :
    ∃ a applied after, d.ledger.account tenant d.clock.toUtc = .ok a ∧
      applied = Usage.dueResets a.usage.lastReset t ∧
      (applyDue tenant).run d = (.ok applied, after) ∧
      (∀ f : Footprint, tenant ∈ f.tenants → d.Within f after) ∧
      after.ledger.accounts.find? tenant = some { a with usage := a.usage.due t } := by
  obtain ⟨a, ha, hutc⟩ := exists_account_of_wellFormed hd tenant
  have htime : t.toUtc = .ok t := Timestamp.toUtc_of_toUtc hclock
  have hdue := Usage.applyDue_eq htime hutc
  have hlast : (a.usage.due t).lastReset.IsUtc := by
    unfold Usage.due
    dsimp only
    split
    · exact hutc
    · exact htime
  refine ⟨a, _, _, ha, rfl, run_applyDue ha hclock hdue, fun f hf => ?_, Table.find?_put_self ..⟩
  have hput : d.Within f (d.withAccount tenant { a with usage := a.usage.due t }) :=
    within_withAccount hd hlast fun hout => absurd hf hout
  exact hput.trans (within_logged hput.wellFormed t _)

theorem run_runDue {tenants : List String} (hd : d.WellFormed) (hclock : d.clock.toUtc = .ok t)
    (hnodup : tenants.Nodup) : ∃ applied after, (runDue tenants).run d = (.ok applied, after) ∧
      (∀ f : Footprint, (∀ tenant ∈ tenants, tenant ∈ f.tenants) → d.Within f after) ∧
      (∀ tenant ∈ Table.names applied, tenant ∈ tenants) ∧
      ∀ tenant ∈ tenants, ∀ a, d.ledger.accounts.find? tenant = some a →
        after.ledger.accounts.find? tenant = some { a with usage := a.usage.due t } ∧
        (a.usage.due t = a.usage ∨ tenant ∈ Table.names applied) := by
  induction tenants generalizing d with
  | nil => exact ⟨[], d, rfl, fun f _ => .refl f hd, nofun, nofun⟩
  | cons first rest ih =>
    obtain ⟨hnew, hrest⟩ := List.nodup_cons.mp hnodup
    obtain ⟨a, applied, later, ha, happlied, hrun, hwithin, hfirst⟩ :=
      run_applyDue_due hd hclock first
    have hlater : d.Within { tenants := {first} } later := hwithin _ rfl
    have hread : later.clock.toUtc = .ok t := by rw [hlater.clock, hclock]
    obtain ⟨others, last, hothers, hlast, hnames, hdue⟩ := ih hlater.wellFormed hread hrest
    have hend : later.Within { tenants := {tenant | tenant ∈ rest} } last := hlast _ fun _ h => h
    refine ⟨if applied = [] then others else (first, applied) :: others, last, ?_, ?_, ?_, ?_⟩
    · unfold runDue
      rw [Act.run_bind_ok hrun, Act.run_bind_ok hothers, Act.run_pure]
    · intro f hf
      have hsecond := hlast f fun tenant h => hf tenant (List.mem_cons_of_mem _ h)
      exact (hwithin f (hf first (List.mem_cons_self ..))).trans hsecond
    · intro tenant htenant
      by_cases hnone : applied = []
      · rw [if_pos hnone] at htenant
        exact List.mem_cons_of_mem _ (hnames tenant htenant)
      · rw [if_neg hnone, Table.names_cons, List.mem_cons] at htenant
        exact List.mem_cons.mpr (htenant.imp id (hnames tenant))
    · intro tenant htenant b hb
      -- A name stands once in the list, so what was done for the first tenant is not done again.
      by_cases hsame : tenant = first
      · subst hsame
        have hknown : a = b := by
          simpa [Ledger.account, hb] using ha.symm
        subst hknown
        refine ⟨hend.known hnew hfirst, ?_⟩
        by_cases hnone : applied = []
        · exact Or.inl (Usage.due_of_none (happlied.symm.trans hnone))
        · rw [if_neg hnone]
          exact Or.inr (List.mem_cons_self ..)
      · have hin : tenant ∈ rest := (List.mem_cons.mp htenant).resolve_left hsame
        obtain ⟨haccount, hcase⟩ := hdue tenant hin b (hlater.known hsame hb)
        refine ⟨haccount, hcase.imp id fun h => ?_⟩
        by_cases hnone : applied = []
        · rwa [if_pos hnone]
        · rw [if_neg hnone]
          exact List.mem_cons_of_mem _ h

theorem run_persistTenants (tenants : List String) (hd : d.WellFormed) :
    ∃ after, (persistTenants tenants).run d = (.ok (), after) ∧
      (∀ f : Footprint, (∀ tenant ∈ tenants, tenant ∈ f.usages) → d.Within f after) ∧
      ∀ tenant ∈ tenants, after.UsageKept tenant := by
  induction tenants generalizing d with
  | nil => exact ⟨d, rfl, fun f _ => .refl f hd, nofun⟩
  | cons first rest ih =>
    obtain ⟨saved, later, hrun, hwithin, hkept⟩ := run_persistTenant hd first
    have hlater : d.Within { usages := {first} } later := hwithin _ rfl
    obtain ⟨last, hothers, hlast, hkepts⟩ := ih hlater.wellFormed
    refine ⟨last, ?_, fun f hf => ?_, fun tenant htenant => ?_⟩
    · unfold persistTenants
      rw [Act.run_bind_ok hrun, hothers]
    · have hsecond := hlast f fun tenant h => hf tenant (List.mem_cons_of_mem _ h)
      exact (hwithin f (hf first (List.mem_cons_self ..))).trans hsecond
    · by_cases hin : tenant ∈ rest
      · exact hkepts tenant hin
      · have hsame : tenant = first := (List.mem_cons.mp htenant).resolve_right hin
        have hend : later.Within { usages := {tenant | tenant ∈ rest} } last :=
          hlast _ fun _ h => h
        rw [hsame] at hin ⊢
        exact hend.usageKept (Set.notMem_empty _) hin hkept

/-- The end of a pass, which tells what was reset. -/
private def tell (applied : Table (List Reset)) : Act (Table (List Reset)) := do
  if applied = [] then return applied
  notify [passApplied applied]
  return applied

private theorem fire_eq : fire true = (do
    let tenants ← Act.look fun d => d.ledger.tenants
    let applied ← runDue tenants
    persistTenants (Table.names applied)
    tell applied) :=
  rfl

private theorem run_tell (hd : d.WellFormed) (applied : Table (List Reset)) :
    ∃ after, (tell applied).run d = (.ok applied, after) ∧ ∀ f, d.Within f after := by
  obtain ⟨t, hclock⟩ := hd.clock
  unfold tell
  by_cases hnone : applied = []
  · rw [if_pos hnone]
    exact ⟨d, rfl, fun f => .refl f hd⟩
  · rw [if_neg hnone]
    exact ⟨_, Act.run_bind_ok (run_notify hclock _), fun f => within_logged hd t _⟩

/-- The reset pass runs what is due for each tenant, and keeps what it has changed. -/
theorem run_fire (hd : d.WellFormed) (hclock : d.clock.toUtc = .ok t) :
    ∃ applied after, (fire true).run d = (.ok applied, after) ∧
      d.Within { tenants := {tenant | tenant ∈ d.ledger.tenants}
                 usages := {tenant | tenant ∈ d.ledger.tenants} } after ∧
      ∀ tenant a, d.ledger.accounts.find? tenant = some a →
        after.ledger.accounts.find? tenant = some { a with usage := a.usage.due t } ∧
        (a.usage.due t = a.usage ∧
            after.archive.usages.find? tenant = d.archive.usages.find? tenant ∨
          after.UsageKept tenant) := by
  have hlook := Act.run_look (fun d : Desk => d.ledger.tenants) d
  obtain ⟨applied, reset, hdue, hreset, hnames, haccounts⟩ :
      ∃ applied after, (runDue d.ledger.tenants).run d = (.ok applied, after) ∧ _ :=
    run_runDue hd hclock hd.ledger.names
  have hfirst : d.Within { tenants := {tenant | tenant ∈ d.ledger.tenants} } reset :=
    hreset _ fun _ h => h
  obtain ⟨saved, hpersist, hsaved, hkept⟩ :=
    run_persistTenants (Table.names applied) hfirst.wellFormed
  have hsecond : reset.Within { usages := {tenant | tenant ∈ Table.names applied} } saved :=
    hsaved _ fun _ h => h
  obtain ⟨after, htell, hlast⟩ := run_tell hsecond.wellFormed applied
  refine ⟨applied, after, ?_, ?_, fun tenant a ha => ?_⟩
  · rw [fire_eq, Act.run_bind_ok hlook, Act.run_bind_ok hdue, Act.run_bind_ok hpersist, htell]
  · have hpassed := (hreset { tenants := {tenant | tenant ∈ d.ledger.tenants}
                              usages := {tenant | tenant ∈ d.ledger.tenants} } fun _ h => h)
    exact (hpassed.trans (hsaved _ hnames)).trans (hlast _)
  · obtain ⟨haccount, hcase⟩ := haccounts tenant (Table.mem_names_of_find? ha) a ha
    have hsame := hsecond.known (Set.notMem_empty _) haccount
    refine ⟨(hlast {}).known (Set.notMem_empty _) hsame, ?_⟩
    -- A tenant without a due reset is not saved, and has nothing new to save.
    by_cases hin : tenant ∈ Table.names applied
    · exact Or.inr ((hlast {}).usageKept (Set.notMem_empty _) (Set.notMem_empty _)
        (hkept tenant hin))
    · refine Or.inl ⟨hcase.resolve_right hin, ?_⟩
      rw [(hlast {}).usage tenant (Set.notMem_empty _), hsecond.usage tenant hin,
        hfirst.usage tenant (Set.notMem_empty _)]

/-! ## Resuming -/

theorem run_resumeUsages {rows : Table Archive.UsageRow} (hd : d.WellFormed)
    (hnodup : rows.names.Nodup)
    (hutc : ∀ tenant row, rows.find? tenant = some row → row.usage.lastReset.IsUtc) :
    ∃ after, (resumeUsages rows).run d = (.ok (), after) ∧
      (∀ f : Footprint, (∀ tenant ∈ rows.names, tenant ∈ f.tenants) → d.Within f after) ∧
      ∀ tenant row, rows.find? tenant = some row →
        ∃ a, after.ledger.accounts.find? tenant = some a ∧ a.usage = row.usage := by
  induction rows generalizing d with
  | nil => exact ⟨d, rfl, fun f _ => .refl f hd, nofun⟩
  | cons e rest ih =>
    obtain ⟨first, row⟩ := e
    obtain ⟨hnew, hrest⟩ := List.nodup_cons.mp hnodup
    obtain ⟨a, ha, -⟩ := exists_account_of_wellFormed hd first
    have hrow : row.usage.lastReset.IsUtc := hutc first row (by simp [Table.find?])
    have hothers (tenant : String) (found : Archive.UsageRow)
        (hfound : Table.find? rest tenant = some found) :
        Table.find? ((first, row) :: rest) tenant = some found := by
      have hne : first ≠ tenant := by
        intro hsame
        exact hnew (hsame ▸ Table.mem_names_of_find? hfound)
      simp [Table.find?, hne, hfound]
    have hput (f : Footprint) (hf : first ∈ f.tenants) :
        d.Within f (d.withAccount first { a with usage := row.usage }) :=
      within_withAccount hd hrow fun hout => absurd hf hout
    have hwf := (hput { tenants := {first} } rfl).wellFormed
    obtain ⟨after, hrun, hafter, hknown⟩ :=
      ih hwf hrest fun tenant found h => hutc tenant found (hothers tenant found h)
    refine ⟨after, ?_, fun f hf => ?_, fun tenant found hfound => ?_⟩
    · unfold resumeUsages restoreUsage
      rw [Act.run_bind_ok (run_onAccount ha _), hrun]
    · have hsecond := hafter f fun tenant h => hf tenant (List.mem_cons_of_mem _ h)
      exact (hput f (hf first (List.mem_cons_self ..))).trans hsecond
    · by_cases hsame : first = tenant
      · subst hsame
        have hvalue : row = found := by simpa [Table.find?] using hfound
        have hend : (d.withAccount first { a with usage := row.usage }).Within
            { tenants := {tenant | tenant ∈ Table.names rest} } after := hafter _ fun _ h => h
        refine ⟨_, hend.known hnew (Table.find?_put_self ..), ?_⟩
        rw [← hvalue]
      · refine hknown tenant found ?_
        simpa [Table.find?, hsame] using hfound

/-- One row restores its status, or is passed over. -/
private theorem run_resumeStatuses_cons (hd : d.WellFormed) (first : String)
    (row : Archive.ConversationRow) (rest : Table Archive.ConversationRow) :
    ∃ middle : Desk,
      (∀ count after, (resumeStatuses rest).run middle = (.ok count, after) →
        ∃ total, (resumeStatuses ((first, row) :: rest)).run d = (.ok total, after)) ∧
      (∀ f : Footprint, first ∈ f.conversations → first ∈ f.handedBack → d.Within f middle) ∧
      middle.registry.status first = row.status?.getD (d.registry.status first) := by
  obtain ⟨t, hclock⟩ := hd.clock
  cases hstatus : row.status? with
  | none =>
    refine ⟨d.logged t [Archive.skippedNotice first row.state], fun count after h => ?_,
      fun f _ _ => within_logged hd t _, rfl⟩
    rw [resumeStatuses, hstatus]
    exact ⟨count, (Act.run_bind_ok (run_notify hclock _)).trans h⟩
  | some s =>
    have hput : (restoreStatus first s).run d =
        (.ok (), { d with registry := d.registry.restore first s }) := rfl
    refine ⟨{ d with registry := d.registry.restore first s }, fun count after h => ?_,
      fun f hf hback => ?_, ?_⟩
    · rw [resumeStatuses, hstatus]
      exact ⟨count + 1, (Act.run_bind_ok hput).trans (Act.run_bind_ok h)⟩
    · exact within_update hd _ (fun hout => absurd hf hout) fun hout => absurd hback hout
    · exact Conversation.Registry.status_update_self d.registry first fun _ => s

theorem run_resumeStatuses {rows : Table Archive.ConversationRow} (hd : d.WellFormed)
    (hnodup : rows.names.Nodup) :
    ∃ count after, (resumeStatuses rows).run d = (.ok count, after) ∧
      (∀ f : Footprint,
        (∀ id ∈ rows.names, id ∈ f.conversations ∧ id ∈ f.handedBack) → d.Within f after) ∧
      ∀ id row, rows.find? id = some row →
        after.registry.status id = row.status?.getD (d.registry.status id) := by
  induction rows generalizing d with
  | nil => exact ⟨0, d, rfl, fun f _ => .refl f hd, nofun⟩
  | cons e rest ih =>
    obtain ⟨first, row⟩ := e
    obtain ⟨hnew, hrest⟩ := List.nodup_cons.mp hnodup
    obtain ⟨middle, hmiddle, hwithin, hfirst⟩ := run_resumeStatuses_cons hd first row rest
    have hchanged := hwithin { conversations := {first}, handedBack := {first} } rfl rfl
    obtain ⟨count, after, hrun, hafter, hstatuses⟩ := ih hchanged.wellFormed hrest
    have hend : middle.Within { conversations := {id | id ∈ Table.names rest}
                                handedBack := {id | id ∈ Table.names rest} } after :=
      hafter _ fun _ h => ⟨h, h⟩
    obtain ⟨total, htotal⟩ := hmiddle count after hrun
    refine ⟨total, after, htotal, fun f hf => ?_, fun id found hfound => ?_⟩
    · obtain ⟨hconversation, hback⟩ := hf first (List.mem_cons_self ..)
      have hsecond := hafter f fun id h => hf id (List.mem_cons_of_mem _ h)
      exact (hwithin f hconversation hback).trans hsecond
    · by_cases hsame : first = id
      · subst hsame
        have hvalue : row = found := by simpa [Table.find?] using hfound
        rw [hend.status first hnew, hfirst, hvalue]
      · have hrow : Table.find? rest id = some found := by simpa [Table.find?, hsame] using hfound
        rw [hstatuses id found hrow, hchanged.status id (Ne.symm hsame)]

/-- Resuming gives every tenant the usage of its row, and every conversation the status of its. -/
theorem run_resume (hd : d.WellFormed) :
    ∃ resumed after, resume.run d = (.ok resumed, after) ∧
      d.Within { tenants := {tenant | tenant ∈ d.archive.usages.names}
                 conversations := {id | id ∈ d.archive.conversations.names}
                 handedBack := {id | id ∈ d.archive.conversations.names} } after ∧
      (∀ tenant row, d.archive.usages.find? tenant = some row →
        ∃ a, after.ledger.accounts.find? tenant = some a ∧ a.usage = row.usage) ∧
      ∀ id row, d.archive.conversations.find? id = some row →
        after.registry.status id = row.status?.getD (d.registry.status id) := by
  have husages := Act.run_look (fun d : Desk => d.archive.usages) d
  obtain ⟨usaged, hrun, husaged, hknown⟩ :=
    run_resumeUsages hd hd.archive.usages hd.archive.lastReset
  have hfirst : d.Within { tenants := {tenant | tenant ∈ d.archive.usages.names} } usaged :=
    husaged _ fun _ h => h
  have hconversations := Act.run_look (fun d : Desk => d.archive.conversations) usaged
  obtain ⟨count, statused, hcount, hstatused, hstatuses⟩ :=
    run_resumeStatuses hfirst.wellFormed hfirst.wellFormed.archive.conversations
  have hsecond : usaged.Within { conversations := {id | id ∈ usaged.archive.conversations.names}
                                 handedBack := {id | id ∈ usaged.archive.conversations.names} }
      statused := hstatused _ fun _ h => ⟨h, h⟩
  obtain ⟨t, hclock⟩ := hsecond.wellFormed.clock
  let resumed : Archive.Resumed := { tenants := d.archive.usages.length, conversations := count }
  let after := statused.logged t [Archive.resumedNotice resumed]
  have hlast (f : Footprint) : statused.Within f after := within_logged hsecond.wellFormed t _
  refine ⟨resumed, after, ?_, ?_, ?_, ?_⟩
  · unfold resume
    rw [Act.run_bind_ok husages, Act.run_bind_ok hrun, Act.run_bind_ok hconversations,
      Act.run_bind_ok hcount, Act.run_bind_ok (run_notify hclock _), Act.run_pure]
  · have hnames : ∀ id ∈ usaged.archive.conversations.names,
        id ∈ d.archive.conversations.names := by
      intro id hid
      obtain ⟨row, hrow⟩ := Table.exists_find?_of_mem_names hid
      rw [hfirst.saved id (Set.notMem_empty _)] at hrow
      exact Table.mem_names_of_find? hrow
    have hresumed := hstatused { tenants := {tenant | tenant ∈ d.archive.usages.names}
                                 conversations := {id | id ∈ d.archive.conversations.names}
                                 handedBack := {id | id ∈ d.archive.conversations.names} }
      fun id h => ⟨hnames id h, hnames id h⟩
    exact ((husaged _ fun _ h => h).trans hresumed).trans (hlast _)
  · intro tenant row hrow
    obtain ⟨a, ha, hsame⟩ := hknown tenant row hrow
    have hkept := hsecond.known (Set.notMem_empty _) ha
    exact ⟨a, (hlast {}).known (Set.notMem_empty _) hkept, hsame⟩
  · intro id row hrow
    have hsame : usaged.archive.conversations.find? id = some row :=
      (hfirst.saved id (Set.notMem_empty _)).trans hrow
    rw [(hlast {}).status id (Set.notMem_empty _), hstatuses id row hsame,
      hfirst.status id (Set.notMem_empty _)]

/-! ## Starting -/

/-- The status that the row of a conversation holds; without one it is that of a new one. -/
def savedStatus (d : Desk) (id : String) : Conversation.Status :=
  ((d.archive.conversations.find? id).bind Archive.ConversationRow.status?).getD {}

theorem Within.savedStatus (h : d.Within f after) (hid : id ∉ f.statuses) :
    after.savedStatus id = d.savedStatus id := by
  unfold Desk.savedStatus
  rw [h.saved id hid]

theorem StatusSaved.savedStatus (h : d.StatusSaved id) :
    d.savedStatus id = d.registry.status id := by
  obtain ⟨row, hrow, hsame⟩ := h
  simp [Desk.savedStatus, hrow, hsame]

/-- After a pass every tenant has the usage of its row, if it had before and no loss is reported. -/
theorem synced_fire {applied : Table (List Reset)} (hd : d.WellFormed)
    (hrun : (fire true).run d = (.ok applied, after)) (hsaved : ¬ after.LostSave)
    (hsynced : d.Synced tenant) : after.Synced tenant := by
  obtain ⟨t, hclock⟩ := hd.clock
  obtain ⟨_, last, hfire, hwithin, haccounts⟩ := run_fire hd hclock
  rw [hrun] at hfire
  cases hfire
  cases ha : d.ledger.accounts.find? tenant with
  | none =>
    have hunknown : tenant ∉ d.ledger.tenants := Table.find?_eq_none_iff.mp ha
    exact hwithin.synced hunknown hunknown hsynced
  | some a =>
    obtain ⟨haccount, ⟨hsame, hrow⟩ | hkept | hlost⟩ := haccounts tenant a ha
    · rw [hsame] at haccount
      unfold Synced at hsynced ⊢
      rw [hrow]
      have hcounters : after.ledger.counters tenant = d.ledger.counters tenant := by
        simp [Ledger.counters, ha, haccount]
      rw [hcounters, haccount, ← ha]
      exact hsynced
    · exact hkept.synced
    · exact absurd hlost hsaved

/-- The counters of a tenant after a pass. -/
theorem counters_fire {applied : Table (List Reset)} (hd : d.WellFormed)
    (hclock : d.clock.toUtc = .ok t) (hrun : (fire true).run d = (.ok applied, after))
    (tenant : String) :
    (∀ a, d.ledger.accounts.find? tenant = some a →
      ∃ b, after.ledger.accounts.find? tenant = some b ∧ b.usage = a.usage.due t) ∧
    (d.ledger.counters tenant = {} → after.ledger.counters tenant = {}) := by
  obtain ⟨_, last, hfire, hwithin, haccounts⟩ := run_fire hd hclock
  rw [hrun] at hfire
  cases hfire
  refine ⟨fun a ha => ⟨_, (haccounts tenant a ha).1, rfl⟩, fun hzero => ?_⟩
  cases ha : d.ledger.accounts.find? tenant with
  | none =>
    have hunknown : tenant ∉ d.ledger.tenants := Table.find?_eq_none_iff.mp ha
    rw [hwithin.counters hunknown, hzero]
  | some a =>
    have hunused : a.snapshot = {} := by simpa [Ledger.counters, ha] using hzero
    have hcounters : after.ledger.counters tenant = (a.usage.due t).toSnapshot := by
      simp [Ledger.counters, (haccounts tenant a ha).1, Account.snapshot]
    have husage : a.usage.toSnapshot = {} := hunused
    rw [hcounters, Usage.due, husage, Usage.renewed_zero]

private theorem keeps_begin : begin.Keeps f := by
  intro d hd
  have hbegun : begin.Leads (Confined f) := (frame_confined f).leads_begin fun d _ =>
    ⟨⟨rfl, rfl⟩, fun hd =>
      within_of_eq hd rfl rfl rfl rfl rfl rfl hd.archive rfl rfl (List.prefix_refl _)⟩
  exact (hbegun d).within hd

private theorem total_begin : begin.Total := by
  have htell : (do
      notify [← Act.look fun d => startedNotice d.ledger.tenants.length d.generator.isSome]
      : Act Unit).Total :=
    (Act.total_look _).bind fun _ => total_notify _
  have hput (schedule : Schedule) : (Act.change fun d : Desk => { d with schedule }).Total := by
    intro d hd
    exact ⟨(), _, rfl, hd.clock, hd.ledger, hd.archive⟩
  unfold begin
  apply (Act.total_look _).bind
  intro enabled
  cases enabled with
  | false => exact (total_notify _).bind fun _ => htell
  | true =>
    apply (Act.total_look _).bind
    intro started
    exact (hput started.1).bind fun _ => (total_notify _).bind fun _ => htell

/-- What a process has once it is started: every conversation the status of its row, every tenant
the usage of its row after the resets that are due. -/
structure Started (t : Timestamp) (d after : Desk) : Prop where
  within : d.Within { tenants := Set.univ, conversations := Set.univ, handedBack := Set.univ
                      usages := Set.univ } after
  status : ∀ id, after.registry.status id = d.savedStatus id
  usage : ∀ tenant row, d.archive.usages.find? tenant = some row →
    ∃ a, after.ledger.accounts.find? tenant = some a ∧ a.usage = row.usage.due t
  unused : ∀ tenant, d.archive.usages.find? tenant = none → after.ledger.counters tenant = {}
  synced : ¬ after.LostSave → ∀ tenant, after.Synced tenant

/-- Starting a new process succeeds. -/
theorem run_start (hd : d.WellFormed) (hclock : d.clock.toUtc = .ok t)
    (haccounts : d.ledger.accounts = []) (hregistry : d.registry = []) :
    ∃ after, start.run d = (.ok (), after) ∧ Started t d after := by
  obtain ⟨resumed, middle, hresume, hfirst, hknown, hstatuses⟩ := run_resume hd
  have hread : middle.clock.toUtc = .ok t := by rw [hfirst.clock, hclock]
  have hwf := hfirst.wellFormed
  have hrows (tenant : String) :
      middle.archive.usages.find? tenant = d.archive.usages.find? tenant :=
    hfirst.usage tenant (Set.notMem_empty _)
  have hunused (tenant : String) (hnone : d.archive.usages.find? tenant = none) :
      middle.ledger.counters tenant = {} := by
    have hunnamed : tenant ∉ d.archive.usages.names := Table.find?_eq_none_iff.mp hnone
    rw [hfirst.counters hunnamed, Ledger.counters, haccounts]
    rfl
  have hsynced (tenant : String) : middle.Synced tenant := by
    unfold Synced
    rw [hrows]
    cases hrow : d.archive.usages.find? tenant with
    | none => exact hunused tenant hrow
    | some row => exact hknown tenant row hrow
  obtain ⟨applied, fired, hfire, hsecond, -⟩ := run_fire hwf hread
  obtain ⟨_, after, hbegin, -⟩ := total_begin fired hsecond.wellFormed
  have hlast : fired.Within {} after := by
    have hkeeps := keeps_begin (f := {}) fired hsecond.wellFormed
    rwa [hbegin] at hkeeps
  have hcounters := counters_fire hwf hread hfire
  refine ⟨after, ?_, ?_, fun id => ?_, fun tenant row hrow => ?_, fun tenant hnone => ?_,
    fun hsaved tenant => ?_⟩
  · rw [start_eq, Act.run_bind_ok hresume, Act.run_bind_ok hfire, hbegin]
  · exact (hfirst.mono (by simp) (by simp) (by simp) (by simp) (by simp)).trans
      ((hsecond.mono (by simp) (by simp) (by simp) (by simp) (by simp)).trans hlast.widen)
  · rw [hlast.status id (Set.notMem_empty _), hsecond.status id (Set.notMem_empty _)]
    unfold Desk.savedStatus
    cases hrow : d.archive.conversations.find? id with
    | none =>
      have hunnamed : id ∉ d.archive.conversations.names := Table.find?_eq_none_iff.mp hrow
      rw [hfirst.status id hunnamed, hregistry]
      rfl
    | some row =>
      rw [hstatuses id row hrow, hregistry]
      rfl
  · obtain ⟨a, ha, hsame⟩ := hknown tenant row hrow
    obtain ⟨b, hb, hdue⟩ := (hcounters tenant).1 a ha
    exact ⟨b, hlast.known (Set.notMem_empty _) hb, hsame ▸ hdue⟩
  · rw [hlast.counters (Set.notMem_empty _)]
    exact (hcounters tenant).2 (hunused tenant hnone)
  · have hfired : ¬ fired.LostSave := fun hlost => hsaved (hlost.mono hlast.log)
    have hkept : fired.Synced tenant := synced_fire hwf hfire hfired (hsynced tenant)
    exact hlast.synced (Set.notMem_empty _) (Set.notMem_empty _) hkept

end Desk

end SalesDesk
