import SalesDesk.Proofs.Desk.Handling
import SalesDesk.Proofs.Desk.Keeping
import SalesDesk.Proofs.Desk.Parallel

/-!
# Discretion

How the service for alerts answers shows in the log and in what a cycle says about its alert.
Nothing else that the desk does depends on it: two desks that differ in these answers and in their
logs go on to differ in nothing else. On the way every act is followed in what it does to the store
of audit records, which only the keeping of a record changes.
-/

namespace SalesDesk

open Quota

/-- Holds of a store of audit records, and goes on to hold as records are added. -/
def Audit.Store.Grows (P : Audit.Store → Prop) : Prop :=
  ∀ s r kept, P s → s.append r = .ok kept → P kept

namespace Desk

variable {P : Audit.Store → Prop} {d e : Desk}

/-- The desk with another answer of the service for alerts. -/
def answering (d : Desk) (alerts : Answer) : Desk :=
  { d with network := { d.network with alerts } }

/-- Two desks differ at most in how alerts are answered and in their logs. -/
structure Hears (P : Audit.Store → Prop) (d e : Desk) : Prop where
  same : ∃ alerts records, e = (d.answering alerts).withLog records
  readable : ∃ t, d.clock.toUtc = .ok t
  store : P d.archive.audit

theorem Hears.refl {t : Timestamp} (hclock : d.clock.toUtc = .ok t) (h : P d.archive.audit) :
    d.Hears P d :=
  ⟨⟨d.network.alerts, d.outbox.records, rfl⟩, ⟨t, hclock⟩, h⟩

theorem likeness_hears : Likeness (Hears P) where
  clock := by
    rintro d _ ⟨⟨_, _, rfl⟩, -, -⟩
    rfl
  readable h := h.readable
  memory := by
    rintro d _ ⟨⟨_, _, rfl⟩, -, -⟩
    rfl
  remembering := by
    rintro d _ ⟨⟨alerts, records, rfl⟩, hread, hP⟩ m
    exact ⟨⟨alerts, records, rfl⟩, hread, hP⟩
  logged := by
    rintro d _ ⟨⟨alerts, records, rfl⟩, hread, hP⟩ t notices others
    exact ⟨⟨alerts, _, rfl⟩, hread, hP⟩

theorem respects_look {α : Type} {f : Desk → α}
    (h : ∀ (d : Desk) alerts records, f ((d.answering alerts).withLog records) = f d) :
    (Act.look f).Respects (Hears P) := by
  apply Act.parallel_look
  rintro d _ ⟨⟨alerts, records, rfl⟩, -, -⟩
  exact (h d alerts records).symm

theorem respects_change {f : Desk → Desk}
    (h : ∀ (d : Desk) alerts records,
      f ((d.answering alerts).withLog records) = ((f d).answering alerts).withLog records)
    (hclock : ∀ d, (f d).clock = d.clock)
    (hstore : ∀ d, P d.archive.audit → P (f d).archive.audit) :
    (Act.change f).Respects (Hears P) := by
  rintro d _ ⟨⟨alerts, records, rfl⟩, hread, hP⟩
  exact ⟨rfl, ⟨alerts, records, h d alerts records⟩, (hclock d).symm ▸ hread, hstore d hP⟩

theorem respects_send (posts : List Post) : (send posts).Respects (Hears P) :=
  respects_change (fun _ _ _ => rfl) (fun _ => rfl) fun _ h => h

theorem run_onProcess_of_none {α : Type} (act : Act α) {number : Nat}
    (h : d.earlier[number]? = none) : (onProcess number act).run d = act.run d := by
  simp only [Act.run, onProcess, h]

theorem run_onProcess_earlier {α : Type} {act : Act α} {number : Nat} {process : Process}
    {result : Except Fault α} {after : Desk} (h : d.earlier[number]? = some process)
    (hrun : act.run { d with toProcess := process } = (result, after)) :
    (onProcess number act).run d = (result, { after with
      toProcess := d.toProcess, earlier := after.earlier.set number after.toProcess }) := by
  have hact : act { d with toProcess := process } = (result, after) := hrun
  simp only [Act.run, onProcess, h, hact]

/-- Acts go on in the process in which they began. -/
theorem parallel_onProcess {α β : Type} {p : α → β → Prop} {act : Act α} {other : Act β}
    (h : Act.Parallel (Hears P) p act other) (number : Nat) :
    Act.Parallel (Hears P) p (onProcess number act) (onProcess number other) := by
  rintro d _ ⟨⟨alerts, records, rfl⟩, hread, hP⟩
  let e : Desk := (d.answering alerts).withLog records
  cases hfound : d.earlier[number]? with
  | none =>
    have hother : e.earlier[number]? = none := hfound
    rw [run_onProcess_of_none act hfound, run_onProcess_of_none other hother]
    exact h d e ⟨⟨alerts, records, rfl⟩, hread, hP⟩
  | some process =>
    have hother : e.earlier[number]? = some process := hfound
    obtain ⟨hmatched, hlater⟩ := h { d with toProcess := process } { e with toProcess := process }
      ⟨⟨alerts, records, rfl⟩, hread, hP⟩
    rcases hfirst : act.run { d with toProcess := process } with ⟨result, after⟩
    rcases hsecond : other.run { e with toProcess := process } with ⟨otherResult, last⟩
    rw [hfirst, hsecond] at hmatched hlater
    obtain ⟨⟨later, logged, rfl⟩, hclock, hstore⟩ := hlater
    rw [run_onProcess_earlier hfound hfirst, run_onProcess_earlier hother hsecond]
    exact ⟨hmatched, ⟨later, logged, rfl⟩, hclock, hstore⟩

/-! ## The archive -/

theorem respects_put {archive : Archive} (h : P archive.audit) :
    (Act.change fun d => { d with archive }).Respects (Hears P) :=
  respects_change (fun _ _ _ => rfl) (fun _ => rfl) fun _ _ => h

/-- Writes that leave the store of audit records alone. -/
theorem respects_save {write : Archive → Timestamp → Except WriteError Archive}
    (h : ∀ a t kept, write a t = .ok kept → kept.audit = a.audit) (lost : WriteError → Log.Notice) :
    (save write lost).Respects (Hears P) := by
  unfold save
  apply likeness_hears.respects_now.bind
  intro time
  apply Act.Parallel.bind (p := fun x y => x = y ∧ ∀ kept, x = .ok kept → P kept.audit)
  · apply Act.parallel_look
    rintro d _ ⟨⟨alerts, records, rfl⟩, -, hP⟩
    exact ⟨rfl, fun kept hkept => h _ _ _ hkept ▸ hP⟩
  · rintro result _ ⟨rfl, hstore⟩
    cases result with
    | ok archive => exact (respects_put (hstore archive rfl)).bind fun _ => Act.respects_pure _
    | error e => exact (likeness_hears.respects_notify _).bind fun _ => Act.respects_pure _

theorem respects_keepRecord (hP : Audit.Store.Grows P) (r : Audit.Record) :
    (keepRecord r).Respects (Hears P) := by
  unfold keepRecord
  apply Act.Parallel.bind (p := fun x y => x = y ∧ ∀ kept, x = .ok kept → P kept.audit)
  · apply Act.parallel_look
    rintro d _ ⟨⟨alerts, records, rfl⟩, -, hstore⟩
    refine ⟨rfl, fun kept hkept => ?_⟩
    obtain ⟨audit, happend, rfl⟩ := Archive.append_eq_ok hkept
    exact hP _ _ _ hstore happend
  · rintro result _ ⟨rfl, hstore⟩
    cases result with
    | ok archive =>
      apply (respects_put (hstore archive rfl)).bind
      intro _
      exact (likeness_hears.respects_notify _).bind fun _ => Act.respects_pure _
    | error e => exact (likeness_hears.respects_notify _).bind fun _ => Act.respects_pure _

theorem respects_persistTenant (tenant : String) : (persistTenant tenant).Respects (Hears P) := by
  unfold persistTenant
  apply (likeness_hears.respects_account tenant _).bind
  intro usage
  rw [saveUsage_eq]
  apply (respects_save (fun _ _ _ => Archive.audit_of_saveUsage) _).bind
  intro saved
  exact Act.respects_pure _

theorem respects_persistConversation (tenant id : String) :
    (persistConversation tenant id).Respects (Hears P) := by
  unfold persistConversation
  apply (likeness_hears.respects_status id).bind
  intro status
  rw [saveStatus_eq]
  apply (respects_save (fun _ _ _ => Archive.audit_of_saveStatus) _).bind
  intro saved
  exact Act.respects_pure _

theorem respects_persistTenants (tenants : List String) :
    (persistTenants tenants).Respects (Hears P) := by
  induction tenants with
  | nil => exact Act.respects_pure _
  | cons tenant rest ih => exact (respects_persistTenant tenant).bind fun _ => ih

/-! ## Starting and the reset pass -/

theorem respects_fire (persist : Bool) : (fire persist).Respects (Hears P) := by
  have htell (applied : Table (List Reset)) : (do
      if applied = [] then return applied
      notify [passApplied applied]
      return applied : Act (Table (List Reset))).Respects (Hears P) := by
    by_cases hnone : applied = []
    · rw [if_pos hnone]
      exact Act.respects_pure _
    · rw [if_neg hnone]
      exact (likeness_hears.respects_notify _).bind fun _ => Act.respects_pure _
  unfold fire
  apply (respects_look fun _ _ _ => rfl).bind
  intro tenants
  apply (likeness_hears.respects_runDue tenants).bind
  intro applied
  cases persist with
  | true => exact (respects_persistTenants _).bind fun _ => htell applied
  | false => exact htell applied

theorem respects_resumeUsages (rows : Table Archive.UsageRow) :
    (resumeUsages rows).Respects (Hears P) := by
  induction rows with
  | nil => exact Act.respects_pure _
  | cons e rest ih => exact (likeness_hears.respects_onAccount e.1 _).bind fun _ => ih

theorem respects_resumeStatuses (rows : Table Archive.ConversationRow) :
    (resumeStatuses rows).Respects (Hears P) := by
  induction rows with
  | nil => exact Act.respects_pure _
  | cons e rest ih =>
    obtain ⟨conversation, row⟩ := e
    unfold resumeStatuses
    cases row.status? with
    | none => exact (likeness_hears.respects_notify _).bind fun _ => ih
    | some s =>
      apply (likeness_hears.respects_update conversation _).bind
      intro _
      exact ih.bind fun _ => Act.respects_pure _

theorem respects_resume : resume.Respects (Hears P) := by
  unfold resume
  apply (respects_look fun _ _ _ => rfl).bind
  intro usages
  apply (respects_resumeUsages usages).bind
  intro _
  apply (respects_look fun _ _ _ => rfl).bind
  intro rows
  apply (respects_resumeStatuses rows).bind
  intro conversations
  exact (likeness_hears.respects_notify _).bind fun _ => Act.respects_pure _

theorem respects_start : start.Respects (Hears P) := by
  have htell : (do
      notify [← Act.look fun d => startedNotice d.ledger.tenants.length d.generator.isSome]
      : Act Unit).Respects (Hears P) :=
    (respects_look fun _ _ _ => rfl).bind fun _ => likeness_hears.respects_notify _
  have hput (schedule : Schedule) :
      (Act.change fun d : Desk => { d with schedule }).Respects (Hears P) :=
    respects_change (fun _ _ _ => rfl) (fun _ => rfl) fun _ h => h
  unfold start
  apply respects_resume.bind
  intro _
  apply (respects_fire true).bind
  intro _
  apply (respects_look fun _ _ _ => rfl).bind
  intro enabled
  cases enabled with
  | false => exact (likeness_hears.respects_notify _).bind fun _ => htell
  | true =>
    apply (respects_look fun _ _ _ => rfl).bind
    intro started
    exact (hput started.1).bind fun _ => (likeness_hears.respects_notify _).bind fun _ => htell

/-! ## Cycles -/

theorem concord_hears : Concord (Hears P) where
  toLikeness := likeness_hears
  number := by
    rintro d _ ⟨⟨_, _, rfl⟩, -, -⟩
    rfl
  settings := by
    rintro d _ ⟨⟨_, _, rfl⟩, -, -⟩
    rfl
  catalogue := by
    rintro d _ ⟨⟨_, _, rfl⟩, -, -⟩
    rfl
  generator := by
    rintro d _ ⟨⟨_, _, rfl⟩, -, -⟩
    rfl
  completions := by
    rintro d _ ⟨⟨_, _, rfl⟩, -, -⟩
    rfl
  respects_send := respects_send

theorem respects_ask_quiet (behaviour : Generation.Behaviour) (list : List Json)
    (call : Generation.Call) : (ask quiet (.rehearsed behaviour list) call).Respects (Hears P) :=
  Act.respects_pure behaviour.result

variable {r : Incoming} {state : Conversation.State} {before : Snapshot}
  {trigger : Option Alert.Trigger}
  {generated : Option (Generation.Outcome × Option Generation.Call)}

/-- Whether an alert was delivered is all that its answer decides. -/
theorem parallel_alert_hears (trigger : Option Alert.Trigger) (action : Action) :
    Act.Parallel (Hears P) (fun _ _ => True) (alert r trigger action) (alert r trigger action) := by
  rw [alert_eq]
  cases Alert.reason? trigger action with
  | none => exact Act.parallel_pure trivial
  | some reason =>
    apply Act.Parallel.bind (p := fun x y : Alert.Delivery => x.posts = y.posts)
    · apply Act.parallel_look
      rintro d _ ⟨⟨alerts, records, rfl⟩, -, -⟩
      rw [Alert.posts_send, Alert.posts_send]
      rfl
    · intro delivery other hposts
      rw [hposts]
      apply Act.Parallel.bind (respects_send _)
      intro _ _ _
      exact (likeness_hears.parallel_notify _ _).bind fun _ _ _ => Act.parallel_pure trivial

theorem respects_recordCycle (hP : Audit.Store.Grows P) (action : Action)
    (generated : Option Generation.Outcome) :
    (recordCycle r state before action generated).Respects (Hears P) := by
  unfold recordCycle
  apply (likeness_hears.respects_account r.tenant _).bind
  intro after
  apply likeness_hears.respects_now.bind
  intro time
  apply (likeness_hears.respects_makeRecord _ _).bind
  intro record
  apply (respects_keepRecord hP record).bind
  intro kept
  cases kept with
  | success record => exact Act.respects_pure _
  | failure error code =>
    exact (likeness_hears.respects_notify _).bind fun _ => Act.respects_pure _

/-- Two outcomes that differ in what is said about an alert at most. -/
def SameButAlert (o other : CycleOutcome) : Prop := other = { o with alertSent := other.alertSent }

theorem parallel_wrapUp_hears (hP : Audit.Store.Grows P) (settled : Action × Option Int) :
    Act.Parallel (Hears P) SameButAlert (wrapUp r state before trigger generated settled)
      (wrapUp r state before trigger generated settled) := by
  have hfinish (sent otherSent : Bool) : Act.Parallel (Hears P) SameButAlert
      (finish r state before trigger generated settled.1 settled.2 sent)
      (finish r state before trigger generated settled.1 settled.2 otherSent) := by
    unfold finish
    apply Act.Parallel.bind (respects_recordCycle hP settled.1 _)
    rintro audit _ rfl
    apply Act.Parallel.bind (likeness_hears.respects_close r.conversation state _)
    rintro stateAfter _ rfl
    exact (likeness_hears.parallel_notify _ _).bind fun _ _ _ => Act.parallel_pure rfl
  unfold wrapUp
  apply (parallel_alert_hears trigger settled.1).bind
  intro sent otherSent _
  by_cases hstop : settled.1 = .stopAutomation
  · rw [if_pos hstop, if_pos hstop]
    apply Act.Parallel.bind (likeness_hears.respects_stopAutomation r.conversation)
    intro _ _ _
    exact hfinish sent otherSent
  · rw [if_neg hstop, if_neg hstop]
    exact hfinish sent otherSent

theorem parallel_conclude_hears (hP : Audit.Store.Grows P) (choice : Action) :
    Act.Parallel (Hears P) SameButAlert (conclude r state before trigger choice generated)
      (conclude r state before trigger choice generated) := by
  cases generated with
  | none => exact parallel_wrapUp_hears hP (choice, none)
  | some given =>
    rw [conclude_some]
    apply Act.Parallel.bind (likeness_hears.respects_settle r given.1)
    rintro settled _ rfl
    exact parallel_wrapUp_hears hP settled

theorem parallel_cycle (hP : Audit.Store.Grows P) (r : Incoming) :
    Act.Parallel (Hears P) SameButAlert (cycle quiet r) (cycle quiet r) := by
  apply Act.parallel_of_abreast
  intro d e h
  refine concord_hears.abreast_cycle respects_ask_quiet (fun _ _ hears => hears) ?_ h
  intro process state before trigger first generated d e h
  exact (parallel_onProcess (parallel_conclude_hears hP first) process).abreast (fun _ _ h => h) h

end Desk

end SalesDesk
