import SalesDesk.Proofs.Desk.Handling
import SalesDesk.Proofs.Desk.Unanswered

/-!
# What requests change

Every request keeps within a footprint that can be told from the call it makes. What it changes of a
usage it also saves, or else the loss is reported; and so it is with what a cycle changes of a
status. A cycle that is not answered has changed nothing, unless it was over and nothing but the
answer about it could not be given. Only an override changes a status without saving it.
-/

namespace SalesDesk

open Quota Desk

namespace Http

variable {f : Footprint} {d after : Desk}

/-- What a call may change. -/
def Call.footprint (d : Desk) : Call → Footprint
  | .override conversation _ =>
    { conversations := {conversation}, handedBack := {conversation} }
  | .cycle form =>
    { tenants := {tenantOf d form.tenant}, usages := {tenantOf d form.tenant}
      conversations := {form.conversation}, statuses := {form.conversation} }
  | .recordSend form =>
    { tenants := {tenantOf d form.tenant}, usages := {tenantOf d form.tenant} }
  | .resetDaily name => { tenants := {tenantOf d name}, usages := {tenantOf d name} }
  | .resetWeekly name => { tenants := {tenantOf d name}, usages := {tenantOf d name} }
  | _ => {}

/-! ## Cycles -/

theorem run_warnUnless (hd : d.WellFormed) (saved : Bool) (warning : Log.Notice) :
    ∃ after, (warnUnless saved warning).run d = (.ok (), after) ∧ ∀ f, d.Within f after := by
  obtain ⟨t, hclock⟩ := hd.clock
  cases saved with
  | true => exact ⟨d, rfl, fun f => .refl f hd⟩
  | false => exact ⟨_, run_notify hclock [warning], fun f => within_logged hd t [warning]⟩

theorem run_saveCycle (hd : d.WellFormed) (tenant conversation : String) :
    ∃ after, (saveCycle tenant conversation).run d = (.ok (), after) ∧
      (∀ f : Footprint, tenant ∈ f.usages → conversation ∈ f.statuses → d.Within f after) ∧
      after.UsageKept tenant ∧ after.StatusKept conversation := by
  obtain ⟨saved, later, hrun, hlater, husage⟩ := run_persistTenant hd tenant
  have hwf : later.WellFormed := (hlater { usages := {tenant} } rfl).wellFormed
  obtain ⟨warned, hwarn, hwarned⟩ := run_warnUnless hwf saved (usageNotPersisted tenant)
  obtain ⟨entered, last, hlast, hentered, hstatus⟩ :=
    run_persistConversation (hwarned {}).wellFormed tenant conversation
  have hwf' : last.WellFormed := (hentered { statuses := {conversation} } rfl).wellFormed
  obtain ⟨after, hend, hafter⟩ := run_warnUnless hwf' entered (statusNotPersisted conversation)
  refine ⟨after, ?_, fun f hf hid => ?_, ?_, ?_⟩
  · exact ((Act.run_bind_ok hrun).trans (Act.run_bind_ok hwarn)).trans
      ((Act.run_bind_ok hlast).trans hend)
  · exact (((hlater f hf).trans (hwarned f)).trans (hentered f hid)).trans (hafter f)
  · have hrest : later.Within { statuses := {conversation} } after :=
      ((hwarned _).trans (hentered { statuses := {conversation} } rfl)).trans (hafter _)
    exact hrest.usageKept (Set.notMem_empty _) (Set.notMem_empty _) husage
  · exact (hafter {}).statusKept (Set.notMem_empty _) (Set.notMem_empty _) hstatus

/-- A cycle with an outcome keeps what it has changed and is told, and any other has changed
nothing. -/
theorem runCycle_cases (hd : d.WellFormed) (form : CycleForm)
    (event : Option Conversation.Event) :
    (∃ e after, (runCycle quiet form event).run d = (.error e, after) ∧
      (∀ issues, e ≠ .unfit issues) ∧ d.Within {} after) ∨
    (∃ o after, (runCycle quiet form event).run d = (tellCycle o).run after ∧
      d.Within ((Call.cycle form).footprint d) after ∧
      after.UsageKept (tenantOf d form.tenant) ∧ after.StatusKept form.conversation) := by
  obtain ⟨t, hclock⟩ := hd.clock
  rw [run_runCycle]
  cases hcycle : (cycle quiet (incoming d form event)).run d with
  | mk result later =>
    cases result with
    | error e =>
      refine Or.inl ⟨e, later, Act.run_bind_error hcycle, fault_of_cycle hclock hcycle, ?_⟩
      exact atomic_cycle _ d e later hd hcycle
    | ok o =>
      have hlater : d.Within ((Call.cycle form).footprint d)
          ((cycle quiet (incoming d form event)).run d).2 :=
        keeps_cycle (Set.mem_singleton _) (Set.mem_singleton _) d hd
      rw [hcycle] at hlater
      obtain ⟨after, hend, hafter, husage, hstatus⟩ :=
        run_saveCycle hlater.wellFormed (tenantOf d form.tenant) form.conversation
      refine Or.inr ⟨o, after, (Act.run_bind_ok hcycle).trans (Act.run_bind_ok hend), ?_, husage,
        hstatus⟩
      exact hlater.trans (hafter _ rfl rfl)

/-- A call of a cycle comes to the outcome of the cycle, or nothing has changed. -/
theorem answerCycle_cases (hd : d.WellFormed) (form : CycleForm) :
    (∃ result after, (answerCycle quiet form).run d = (result, after) ∧
      (∀ a, result = .ok a → a.status ≠ 200) ∧ (∀ issues, result ≠ .error (.unfit issues)) ∧
      d.Within {} after) ∨
    (∃ o after, (answerCycle quiet form).run d = (tellCycle o).run after ∧
      d.Within ((Call.cycle form).footprint d) after ∧
      after.UsageKept (tenantOf d form.tenant) ∧ after.StatusKept form.conversation) := by
  rcases answerCycle_eq form with hinvalid | ⟨event, hanswer⟩
  · refine Or.inl ⟨.ok .invalidEvent, d, by rw [hinvalid, Act.run_pure], ?_, nofun, .refl _ hd⟩
    rintro a ⟨⟩
    decide
  · rw [hanswer]
    rcases runCycle_cases hd form event with ⟨e, after, hrun, he, hsame⟩ | hkept
    · refine Or.inl ⟨.error e, after, hrun, nofun, fun issues h => ?_, hsame⟩
      exact he issues (Except.error.inj h)
    · exact Or.inr hkept

theorem run_tellCycle (o : CycleOutcome) (d : Desk) : ((tellCycle o).run d).2 = d := by
  rcases tellCycle_cases o with ⟨-, htold⟩ | ⟨-, htold⟩ <;> rw [htold] <;> rfl

/-! ## Sends and resets -/

theorem run_saveSend (hd : d.WellFormed) (tenant : String) (admission : Admission) :
    ∃ after, (saveSend tenant admission).run d = (.ok (.ok (sendJson admission)), after) ∧
      (admission.allowed = false → after = d) ∧
      (∀ f : Footprint, tenant ∈ f.usages → d.Within f after) ∧
      (admission.allowed = true → after.UsageKept tenant) := by
  unfold saveSend
  cases hallowed : admission.allowed with
  | false => exact ⟨d, rfl, fun _ => rfl, fun f _ => .refl f hd, nofun⟩
  | true =>
    obtain ⟨saved, after, hrun, hafter, hkept⟩ := run_persistTenant hd tenant
    exact ⟨after, Act.run_bind_ok hrun, nofun, hafter, fun _ => hkept⟩

/-- A send that is admitted has been kept, and any other has changed nothing. -/
theorem answerRecord_cases (hd : d.WellFormed) (form : SendForm) :
    (∃ result after, (answerRecord form).run d = (result, after) ∧ d.Within {} after) ∨
    (∃ answer after, (answerRecord form).run d = (.ok answer, after) ∧
      d.Within ((Call.recordSend form).footprint d) after ∧
      after.UsageKept (tenantOf d form.tenant)) := by
  -- Only an admission with room is counted, and only such a one is followed by a save.
  rw [run_answerRecord]
  cases mediaOf? form.kind with
  | none => exact Or.inl ⟨_, d, rfl, .refl _ hd⟩
  | some media =>
    let x : Send := media.elim .message .media
    have hsend : d.Within ((Call.recordSend form).footprint d)
        ((trySend (tenantOf d form.tenant) x).run d).2 :=
      keeps_trySend (Set.mem_singleton _) x d hd
    cases hrun : (trySend (tenantOf d form.tenant) x).run d with
    | mk result later =>
      rw [hrun] at hsend
      cases result with
      | error e =>
        refine Or.inl ⟨_, later, Act.run_bind_error hrun, ?_⟩
        exact within_of_not_admitted hd hrun fun admission h => by cases h
      | ok admission =>
        obtain ⟨after, hend, hsame, hafter, hkept⟩ :=
          run_saveSend hsend.wellFormed (tenantOf d form.tenant) admission
        cases hallowed : admission.allowed with
        | false =>
          refine Or.inl ⟨_, after, (Act.run_bind_ok hrun).trans hend, ?_⟩
          rw [hsame hallowed]
          exact within_of_not_admitted hd hrun fun a h => by cases h; exact hallowed
        | true =>
          refine Or.inr ⟨_, after, (Act.run_bind_ok hrun).trans hend, ?_, hkept hallowed⟩
          exact hsend.trans (hafter _ (Set.mem_singleton _))

theorem run_saveReset (hd : d.WellFormed) (tenant : String) (kind : Reset) :
    ∃ answer after, (saveReset tenant kind).run d = (.ok answer, after) ∧
      (∀ f : Footprint, tenant ∈ f.usages → d.Within f after) ∧ after.UsageKept tenant := by
  obtain ⟨saved, after, hrun, hafter, hkept⟩ := run_persistTenant hd tenant
  have hwf : after.WellFormed := (hafter { usages := {tenant} } rfl).wellFormed
  obtain ⟨t, hclock⟩ := hwf.clock
  refine ⟨.ok (.obj [("reset_type", .str kind.name), ("timestamp", .str t.iso)]), after, ?_, hafter,
    hkept⟩
  unfold saveReset
  rw [Act.run_bind_ok hrun, Act.run_bind_ok (run_now hclock), Act.run_pure]

/-- A reset has been kept. -/
theorem answerReset_kept (hd : d.WellFormed) (kind : Reset) (name : Option String) :
    ∃ answer after, (answerReset kind name).run d = (.ok answer, after) ∧
      (∀ f : Footprint, tenantOf d name ∈ f.tenants → tenantOf d name ∈ f.usages →
        d.Within f after) ∧
      after.UsageKept (tenantOf d name) := by
  obtain ⟨usage, later, hrun, hlater⟩ := within_runReset hd (tenantOf d name) kind
  have hwf : later.WellFormed := (hlater { tenants := {tenantOf d name} } rfl).wellFormed
  obtain ⟨answer, after, hend, hafter, hkept⟩ := run_saveReset hwf (tenantOf d name) kind
  refine ⟨answer, after, ?_, fun f htenant husage => ?_, hkept⟩
  · rw [run_answerReset]
    exact (Act.run_bind_ok hrun).trans hend
  · exact (hlater f htenant).trans (hafter f husage)

/-! ## All requests -/

/-- Nothing has changed, or only what is in the footprint, and this is kept. -/
def Handled (f : Footprint) (d after : Desk) : Prop :=
  d.Within {} after ∨ d.Within f after ∧ (∀ tenant ∈ f.tenants, after.UsageKept tenant) ∧
    ∀ id ∈ f.statuses, after.StatusKept id

theorem Handled.within (h : Handled f d after) : d.Within f after :=
  h.elim Within.widen And.left

/-- What has changed of one tenant is kept. -/
theorem handled_of_usageKept {tenant : String}
    (hwithin : d.Within { tenants := {tenant}, usages := {tenant} } after)
    (hkept : after.UsageKept tenant) :
    Handled { tenants := {tenant}, usages := {tenant} } d after := by
  refine Or.inr ⟨hwithin, fun other hother => ?_, fun id h => absurd h (Set.notMem_empty _)⟩
  rw [Set.mem_singleton_iff.mp hother]
  exact hkept

theorem handled_answerOverride (hd : d.WellFormed) (conversation : String) (state : Option String) :
    Handled ((Call.override conversation state).footprint d) d
      ((answerOverride conversation state).run d).2 := by
  refine Or.inr ⟨?_, fun tenant h => absurd h (Set.notMem_empty _),
    fun id h => absurd h (Set.notMem_empty _)⟩
  exact ((frame_confined _).leads_answerOverride state (confined_overridden rfl rfl) d).within hd

theorem handled_answerCycle (hd : d.WellFormed) (form : CycleForm) :
    Handled ((Call.cycle form).footprint d) d ((answerCycle quiet form).run d).2 := by
  rcases answerCycle_cases hd form with
    ⟨result, after, hrun, -, -, hsame⟩ | ⟨o, after, hrun, hwithin, husage, hstatus⟩
  · rw [hrun]
    exact Or.inl hsame
  · rw [hrun, run_tellCycle]
    refine Or.inr ⟨hwithin, fun tenant htenant => ?_, fun id hid => ?_⟩
    · rw [Set.mem_singleton_iff.mp htenant]
      exact husage
    · rw [Set.mem_singleton_iff.mp hid]
      exact hstatus

theorem handled_answer (hd : d.WellFormed) (call : Call) :
    Handled (call.footprint d) d ((answer quiet call).run d).2 := by
  have hidle {act : Act Answer} (f : Footprint)
      (h : ∀ R : Nat → Desk → Desk → Prop, Frame R → act.Leads (R 0)) :
      Handled f d (act.run d).2 := Or.inl (keeps_of_leads h d hd)
  have hreset (kind : Reset) (name : Option String) : Handled
      { tenants := {tenantOf d name}, usages := {tenantOf d name} } d
      ((answerReset kind name).run d).2 := by
    obtain ⟨answer, after, hrun, hwithin, hkept⟩ := answerReset_kept hd kind name
    rw [hrun]
    exact handled_of_usageKept (hwithin _ rfl rfl) hkept
  cases call with
  | decide form => exact hidle _ fun _ hR => hR.leads_pure _
  | validate text => exact hidle _ fun _ hR => hR.leads_read _ _
  | transition state event => exact hidle _ fun _ hR => hR.leads_answerTransition state event
  | override conversation state => exact handled_answerOverride hd conversation state
  | cycle form => exact handled_answerCycle hd form
  | checkQuota form => exact hidle _ fun _ hR => hR.leads_answerCheck form
  | recordSend form =>
    rcases answerRecord_cases hd form with
      ⟨result, after, hrun, hsame⟩ | ⟨answer, after, hrun, hwithin, hkept⟩
    · have hafter : ((answer quiet (.recordSend form)).run d).2 = after := congrArg Prod.snd hrun
      rw [hafter]
      exact Or.inl hsame
    · have hafter : ((Http.answer quiet (.recordSend form)).run d).2 = after :=
        congrArg Prod.snd hrun
      rw [hafter]
      exact handled_of_usageKept hwithin hkept
  | resetDaily name => exact hreset .daily name
  | resetWeekly name => exact hreset .weekly name
  | quotaStatus name => exact hidle _ fun _ hR => hR.leads_answerStatus name
  | products => exact hidle _ fun _ hR => hR.leads_read _ _
  | loadProducts products =>
    exact Or.inl (((frame_confined {}).leads_answerLoad confined_loaded d).within hd)
  | product id => exact hidle _ fun _ hR => hR.leads_answerProduct id
  | writeAudit form =>
    have hwritten : (answerWriteAudit form).Leads (Confined {}) :=
      (frame_confined {}).leads_answerWriteAudit (n := 0) fun _ _ _ _ => confined_append
    exact Or.inl ((hwritten d).within hd)
  | report start stop => exact hidle _ fun _ hR => hR.leads_answerReport start stop
  | trail conversation => exact hidle _ fun _ hR => hR.leads_answerTrail conversation
  | health => exact hidle _ fun _ hR => hR.leads_pure _

/-- What a request may change. -/
def Request.footprint (d : Desk) (r : Request) : Footprint :=
  match Call.ofRequest r with
  | .error _ => {}
  | .ok call => call.footprint d

theorem handled_serve (hd : d.WellFormed) (r : Request) :
    Handled (r.footprint d) d ((serve quiet r).run d).2 := by
  unfold Request.footprint
  cases hcall : Call.ofRequest r with
  | error m =>
    rw [serve_of_misfit hcall, Act.run_map]
    exact Or.inl (keeps_of_leads (fun _ hR => hR.leads_refuse m) d hd)
  | ok call =>
    rw [serve_of_call hcall, Act.run_map]
    exact handled_answer hd call

/-! ## What a request keeps -/

theorem Request.footprint_usages (d : Desk) (r : Request) :
    (r.footprint d).usages = (r.footprint d).tenants := by
  unfold Request.footprint
  cases Call.ofRequest r with
  | error m => rfl
  | ok call => cases call <;> rfl

theorem Handled.synced {tenant : String} (h : Handled f d after) (hsame : f.usages = f.tenants)
    (hsaved : ¬ after.LostSave) (hsynced : d.Synced tenant) : after.Synced tenant := by
  rcases h with hidle | ⟨hwithin, husages, -⟩
  · exact hidle.synced (Set.notMem_empty _) (Set.notMem_empty _) hsynced
  · by_cases htenant : tenant ∈ f.tenants
    · exact ((husages tenant htenant).resolve_right hsaved).synced
    · exact hwithin.synced htenant (hsame ▸ htenant) hsynced

/-- The conversation that a call runs a cycle of. -/
def Call.cycled? : Call → Option String
  | .cycle form => some form.conversation
  | _ => none

/-- The conversation that a call hands back to automation. -/
def Call.overridden? : Call → Option String
  | .override conversation _ => some conversation
  | _ => none

def Request.Cycles (r : Request) (id : String) : Prop :=
  ∃ call, Call.ofRequest r = .ok call ∧ call.cycled? = some id

def Request.Overrides (r : Request) (id : String) : Prop :=
  ∃ call, Call.ofRequest r = .ok call ∧ call.overridden? = some id

def decidableOk {ε α : Type} (x : Except ε α) (p : α → Prop) [DecidablePred p] :
    Decidable (∃ a, x = .ok a ∧ p a) :=
  match x with
  | .ok a => decidable_of_iff (p a) (by simp)
  | .error _ => isFalse (by simp)

instance (r : Request) (id : String) : Decidable (r.Cycles id) :=
  decidableOk (Call.ofRequest r) fun call => call.cycled? = some id

instance (r : Request) (id : String) : Decidable (r.Overrides id) :=
  decidableOk (Call.ofRequest r) fun call => call.overridden? = some id

theorem Request.Cycles.form {r : Request} {id : String} (h : r.Cycles id) :
    ∃ form, Call.ofRequest r = .ok (.cycle form) ∧ form.conversation = id := by
  obtain ⟨call, hcall, hid⟩ := h
  cases call with
  | cycle form => exact ⟨form, hcall, Option.some.inj hid⟩
  | _ => simp [Call.cycled?] at hid

theorem Call.notMem_statuses {call : Call} {id : String} (h : call.cycled? ≠ some id) (d : Desk) :
    id ∉ (call.footprint d).statuses := by
  cases call with
  | cycle form => exact fun hid => h (congrArg some (Set.mem_singleton_iff.mp hid).symm)
  | _ => exact Set.notMem_empty _

theorem Call.notMem_handedBack {call : Call} {id : String} (h : call.overridden? ≠ some id)
    (d : Desk) : id ∉ (call.footprint d).handedBack := by
  cases call with
  | override conversation state =>
    exact fun hid => h (congrArg some (Set.mem_singleton_iff.mp hid).symm)
  | _ => exact Set.notMem_empty _

/-- A status may be changed only where it is also saved or handed back. -/
theorem Call.notMem_conversations {call : Call} {id : String} {d : Desk}
    (hstatuses : id ∉ (call.footprint d).statuses) (hback : id ∉ (call.footprint d).handedBack) :
    id ∉ (call.footprint d).conversations := by
  cases call with
  | cycle form => exact hstatuses
  | override conversation state => exact hback
  | _ => exact Set.notMem_empty _

theorem Request.notMem_statuses {r : Request} {id : String} (h : ¬ r.Cycles id) (d : Desk) :
    id ∉ (r.footprint d).statuses := by
  unfold Request.footprint
  cases hcall : Call.ofRequest r with
  | error m => exact Set.notMem_empty _
  | ok call => exact Call.notMem_statuses (fun hid => h ⟨call, hcall, hid⟩) d

theorem Request.notMem_handedBack {r : Request} {id : String} (h : ¬ r.Overrides id) (d : Desk) :
    id ∉ (r.footprint d).handedBack := by
  unfold Request.footprint
  cases hcall : Call.ofRequest r with
  | error m => exact Set.notMem_empty _
  | ok call => exact Call.notMem_handedBack (fun hid => h ⟨call, hcall, hid⟩) d

theorem Request.notMem_conversations {r : Request} {id : String} (hcycle : ¬ r.Cycles id)
    (hoverride : ¬ r.Overrides id) (d : Desk) : id ∉ (r.footprint d).conversations := by
  have hstatuses := Request.notMem_statuses hcycle d
  have hback := Request.notMem_handedBack hoverride d
  unfold Request.footprint at hstatuses hback ⊢
  cases hcall : Call.ofRequest r with
  | error m => exact Set.notMem_empty _
  | ok call =>
    rw [hcall] at hstatuses hback
    exact Call.notMem_conversations hstatuses hback

/-- A request is answered, and not with an error. -/
def Request.Answered (r : Request) (d : Desk) : Prop :=
  ∃ a, ((serve quiet r).run d).1 = .ok a ∧ a.status = 200

instance (r : Request) (d : Desk) : Decidable (r.Answered d) :=
  decidableOk ((serve quiet r).run d).1 fun a => a.status = 200

/-- A request is answered without an error, or it has run a cycle, and nothing but the answer about it
is missing. -/
def Request.Concluded (r : Request) (d : Desk) : Prop := r.Answered d ∨ r.Unanswered d

/-- A cycle that is concluded has kept the status it leaves, and any other has changed nothing. -/
theorem serve_cycle_cases {r : Request} {form : CycleForm} (hd : d.WellFormed)
    (hcall : Call.ofRequest r = .ok (.cycle form)) :
    (¬ r.Concluded d ∧ d.Within {} ((serve quiet r).run d).2) ∨
    (r.Concluded d ∧ d.Within ((Call.cycle form).footprint d) ((serve quiet r).run d).2 ∧
      ((serve quiet r).run d).2.StatusKept form.conversation) := by
  have hserve : (serve quiet r).run d = (answerCycle quiet form).run d :=
    run_serve_of_call hcall quiet d
  unfold Request.Concluded Request.Answered Request.Unanswered
  rw [hserve]
  rcases answerCycle_cases hd form with
    ⟨result, after, hrun, herror, hfit, hsame⟩ | ⟨o, after, hrun, hwithin, -, hstatus⟩
  · rw [hrun]
    refine Or.inl ⟨?_, hsame⟩
    rintro (⟨a, ha, hok⟩ | ⟨_, issues, -, hunfit⟩)
    · exact herror a ha hok
    · exact hfit issues hunfit
  · rw [hrun, run_tellCycle]
    refine Or.inr ⟨?_, hwithin, hstatus⟩
    rcases tellCycle_cases o with ⟨-, htold⟩ | ⟨-, htold⟩
    · rw [htold]
      exact Or.inl ⟨_, rfl, rfl⟩
    · rw [htold]
      exact Or.inr ⟨form, _, hcall, rfl⟩

end Http

end SalesDesk
