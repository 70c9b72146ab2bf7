import SalesDesk.Proofs.Desk.Discretion

/-!
# Lost records

Two desks that differ in their archives run the cycle of one message. Both make one and the same
record of it, and each archive keeps the record or refuses it. Nothing else of the cycle depends on
the archive: what is chosen, said, counted, posted and moved on is the same on both desks.
-/

namespace SalesDesk

open Quota

/-- What becomes of a record in an archive: it is kept, or it is lost and the archive is left as it
is. -/
inductive Archive.Files (a : Archive) (r : Audit.Record) : Result Audit.Record → Archive → Prop
  | kept {archive : Archive} (appends : a.append r = .ok archive) : Files a r (.success r) archive
  | lost {e : WriteError} (fails : a.append r = .error e) :
      Files a r (.failure e.message Audit.writeErrorCode) a

namespace Archive

variable {a kept later : Archive} {r : Audit.Record} {result : Result Audit.Record} {e : WriteError}

theorem Files.of_ok (h : a.Files r result later) (happend : a.append r = .ok kept) :
    result = .success r ∧ later = kept := by
  cases h with
  | kept appends =>
    rw [happend] at appends
    exact ⟨rfl, (Except.ok.inj appends).symm⟩
  | lost fails =>
    rw [happend] at fails
    cases fails

theorem Files.of_error (h : a.Files r result later) (happend : a.append r = .error e) :
    result = .failure e.message Audit.writeErrorCode ∧ later = a := by
  cases h with
  | kept appends =>
    rw [happend] at appends
    cases appends
  | lost fails =>
    rw [happend] at fails
    rw [Except.error.inj fails]
    exact ⟨rfl, rfl⟩

end Archive

/-- The desk with another archive. -/
def Desk.archiving (d : Desk) (archive : Archive) : Desk := { d with archive }

/-- Two desks are the same but for their archives and their logs. -/
def Desk.SameButArchive (d e : Desk) : Prop :=
  ∃ archive records, e = (d.archiving archive).withLog records

namespace Desk

variable {d e : Desk} {t : Timestamp} {errands : Errands} {r : Incoming} {A B : Archive}

/-- Two desks with an archive each that differ in nothing else but their logs. -/
structure Parted (A B : Archive) (d e : Desk) : Prop where
  first : d.archive = A
  second : e.archive = B
  same : d.SameButArchive e
  readable : ∃ t, d.clock.toUtc = .ok t

theorem likeness_parted : Likeness (Parted A B) where
  clock := by
    rintro d _ ⟨-, -, ⟨_, _, rfl⟩, -⟩
    rfl
  readable h := h.readable
  memory := by
    rintro d _ ⟨-, -, ⟨_, _, rfl⟩, -⟩
    rfl
  remembering := by
    rintro d _ ⟨hfirst, hsecond, ⟨archive, records, rfl⟩, hread⟩ m
    exact ⟨hfirst, hsecond, ⟨archive, records, rfl⟩, hread⟩
  logged := by
    rintro d _ ⟨hfirst, hsecond, ⟨archive, records, rfl⟩, hread⟩ t notices others
    exact ⟨hfirst, hsecond, ⟨archive, _, rfl⟩, hread⟩

theorem respects_look_parted {α : Type} {f : Desk → α}
    (h : ∀ (d : Desk) archive records, f ((d.archiving archive).withLog records) = f d) :
    (Act.look f).Respects (Parted A B) := by
  apply Act.parallel_look
  rintro d _ ⟨-, -, ⟨archive, records, rfl⟩, -⟩
  exact (h d archive records).symm

theorem respects_send_parted (posts : List Post) : (send posts).Respects (Parted A B) := by
  rintro d _ ⟨hfirst, hsecond, ⟨archive, records, rfl⟩, hread⟩
  exact ⟨rfl, hfirst, hsecond, ⟨archive, records, rfl⟩, hread⟩

/-! ## Writing a reply -/

theorem concord_parted : Concord (Parted A B) where
  toLikeness := likeness_parted
  number := by
    rintro d _ ⟨-, -, ⟨_, _, rfl⟩, -⟩
    rfl
  settings := by
    rintro d _ ⟨-, -, ⟨_, _, rfl⟩, -⟩
    rfl
  catalogue := by
    rintro d _ ⟨-, -, ⟨_, _, rfl⟩, -⟩
    rfl
  generator := by
    rintro d _ ⟨-, -, ⟨_, _, rfl⟩, -⟩
    rfl
  completions := by
    rintro d _ ⟨-, -, ⟨_, _, rfl⟩, -⟩
    rfl
  respects_send := respects_send_parted

/-- Errands that neither read the archive nor change it. -/
def Errands.LeavesArchive (errands : Errands) : Prop :=
  ∀ (A B : Archive) (list : List Json) (d e : Desk), Parted A B d e →
    (errands list e).1 = (errands list d).1 ∧ Parted A B (errands list d).2 (errands list e).2

theorem leavesArchive_quiet : Errands.LeavesArchive quiet := fun _ _ _ _ _ h => ⟨rfl, h⟩

theorem Errands.LeavesArchive.respects_ask (herrands : errands.LeavesArchive)
    (behaviour : Generation.Behaviour) (list : List Json) (call : Generation.Call) :
    (ask errands (.rehearsed behaviour list) call).Respects (Parted A B) := by
  intro d e hparted
  obtain ⟨hstopped, hlater⟩ := herrands A B list d e hparted
  rcases hfirst : errands list d with ⟨stopped, later⟩
  rcases hsecond : errands list e with ⟨otherStopped, last⟩
  rw [hfirst, hsecond] at hstopped hlater
  subst hstopped
  cases otherStopped <;> simp only [ask, Act.run, hfirst, hsecond] <;> exact ⟨rfl, hlater⟩

/-! ## The end of a cycle -/

theorem respects_alert_parted (trigger : Option Alert.Trigger) (action : Action) :
    (alert r trigger action).Respects (Parted A B) := by
  rw [alert_eq]
  cases Alert.reason? trigger action with
  | none => exact Act.respects_pure _
  | some reason =>
    apply (respects_look_parted fun _ _ _ => rfl).bind
    intro delivery
    apply (respects_send_parted _).bind
    intro _
    exact (likeness_parted.respects_notify _).bind fun _ => Act.respects_pure _

theorem run_keepRecord_files (hclock : d.clock.toUtc = .ok t) (record : Audit.Record) :
    ∃ kept archive records, (keepRecord record).run d =
        (.ok kept, (d.archiving archive).withLog records) ∧
      d.archive.Files record kept archive := by
  cases happend : d.archive.append record with
  | ok archive => exact ⟨_, archive, _, run_keepRecord_ok hclock happend, .kept happend⟩
  | error e => exact ⟨_, d.archive, _, run_keepRecord_error hclock happend, .lost happend⟩

theorem abreast_keepRecord (h : Parted A B d e) (record : Audit.Record) :
    Act.Abreast SameButArchive (keepRecord record) (keepRecord record) d e
      fun kept later other last => Parted later.archive last.archive later last ∧
        A.Files record kept later.archive ∧ B.Files record other last.archive := by
  obtain ⟨rfl, rfl, ⟨archive, records, rfl⟩, t, hclock⟩ := h
  obtain ⟨kept, first, logged, hfirst, hfiles⟩ := run_keepRecord_files hclock record
  obtain ⟨otherKept, second, otherLogged, hsecond, hotherFiles⟩ :=
    run_keepRecord_files (d := (d.archiving archive).withLog records) hclock record
  unfold Act.Abreast
  rw [hfirst, hsecond]
  exact .done ⟨⟨rfl, rfl, ⟨second, otherLogged, rfl⟩, t, hclock⟩, hfiles, hotherFiles⟩

variable {state : Conversation.State} {before : Snapshot} {trigger : Option Alert.Trigger}
  {generated : Option (Generation.Outcome × Option Generation.Call)}

theorem Parted.after {α β γ : Type} {act : Act α} {next : α → Act β} {otherNext : α → Act γ}
    {post : β → Desk → γ → Desk → Prop} (h : Parted A B d e) (hact : act.Respects (Parted A B))
    (hnext : ∀ a later last, Parted A B later last →
      Act.Abreast SameButArchive (next a) (otherNext a) later last post) :
    Act.Abreast SameButArchive (act >>= next) (act >>= otherNext) d e post :=
  hact.after (fun _ _ hparted => hparted.same) h hnext

/-- A cycle goes on from a record that was kept or lost, and logs the loss. -/
def reported (r : Incoming) (kept : Result Audit.Record) : Act (Result Audit.Record) :=
  match kept with
  | .success _ => pure kept
  | .failure error _ => do
    notify [r.notice .warning "Decision cycle continued without audit record"
      [("error", .str error)]]
    return kept

theorem run_reported (hclock : d.clock.toUtc = .ok t) (r : Incoming) (kept : Result Audit.Record) :
    ∃ records, (reported r kept).run d = (.ok kept, d.withLog records) := by
  cases kept with
  | success record => exact ⟨d.outbox.records, rfl⟩
  | failure error code => exact ⟨_, Act.run_bind_ok (run_notify hclock _)⟩

theorem abreast_recordCycle (h : Parted A B d e) (action : Action)
    (generated : Option Generation.Outcome) :
    Act.Abreast SameButArchive (recordCycle r state before action generated)
      (recordCycle r state before action generated) d e fun kept later other last =>
        Parted later.archive last.archive later last ∧
          ∃ record, A.Files record kept later.archive ∧ B.Files record other last.archive := by
  unfold recordCycle
  refine h.after (likeness_parted.respects_account r.tenant _) fun after d e h => ?_
  refine h.after likeness_parted.respects_now fun time d e h => ?_
  refine h.after (likeness_parted.respects_makeRecord _ _) fun record d e h => ?_
  refine (abreast_keepRecord h record).bind fun kept d other e hfiled => ?_
  obtain ⟨hparted, hfiles, hotherFiles⟩ := hfiled
  obtain ⟨t, hclock⟩ := hparted.readable
  have hother : e.clock.toUtc = .ok t := by rw [likeness_parted.clock hparted, hclock]
  obtain ⟨records, hfirst⟩ := run_reported hclock r kept
  obtain ⟨otherRecords, hsecond⟩ := run_reported hother r other
  change Act.Abreast SameButArchive (reported r kept) (reported r other) d e _
  unfold Act.Abreast
  rw [hfirst, hsecond]
  obtain ⟨-, -, ⟨archive, logged, rfl⟩, -⟩ := hparted
  exact .done ⟨⟨rfl, rfl, ⟨archive, otherRecords, rfl⟩, t, hclock⟩, record, hfiles, hotherFiles⟩

/-- Two cycles differ in their audit results and in their archives at most, and one record was made
for both. -/
structure Twin (A B : Archive) (o : CycleOutcome) (later : Desk) (other : CycleOutcome)
    (last : Desk) : Prop where
  outcome : other = { o with audit := other.audit }
  same : later.SameButArchive last
  filed : ∃ record, A.Files record o.audit later.archive ∧
    B.Files record other.audit last.archive

theorem abreast_finish (h : Parted A B d e) (action : Action) (delay : Option Int) (sent : Bool) :
    Act.Abreast SameButArchive (finish r state before trigger generated action delay sent)
      (finish r state before trigger generated action delay sent) d e (Twin A B) := by
  unfold finish
  refine (abreast_recordCycle h action _).bind fun audit d otherAudit e hfiled => ?_
  obtain ⟨hparted, record, hfiles, hotherFiles⟩ := hfiled
  refine hparted.after (likeness_parted.respects_close r.conversation state _)
    fun stateAfter later last h => ?_
  refine h.after (likeness_parted.respects_notify _) fun _ later last h => ?_
  rw [← h.first] at hfiles
  rw [← h.second] at hotherFiles
  exact Act.abreast_pure ⟨rfl, h.same, record, hfiles, hotherFiles⟩

theorem abreast_wrapUp (h : Parted A B d e) (settled : Action × Option Int) :
    Act.Abreast SameButArchive (wrapUp r state before trigger generated settled)
      (wrapUp r state before trigger generated settled) d e (Twin A B) := by
  unfold wrapUp
  refine h.after (respects_alert_parted trigger settled.1) fun sent d e h => ?_
  by_cases hstop : settled.1 = .stopAutomation
  · rw [if_pos hstop]
    exact h.after (likeness_parted.respects_stopAutomation r.conversation) fun _ d e h =>
      abreast_finish h _ _ sent
  · rw [if_neg hstop]
    exact abreast_finish h _ _ sent

theorem abreast_conclude (h : Parted A B d e) (first : Action) :
    Act.Abreast SameButArchive (conclude r state before trigger first generated)
      (conclude r state before trigger first generated) d e (Twin A B) := by
  cases generated with
  | none => exact abreast_wrapUp h (first, none)
  | some given =>
    rw [conclude_some]
    exact h.after (likeness_parted.respects_settle r given.1) fun settled d e h =>
      abreast_wrapUp h settled

/-! ## Whole cycles -/

/-- Cycles end on both desks in the process in which they began. -/
theorem abreast_onProcess {act : Act CycleOutcome} (h : Parted A B d e) (number : Nat)
    (hact : ∀ d e, Parted A B d e → Act.Abreast SameButArchive act act d e (Twin A B)) :
    Act.Abreast SameButArchive (onProcess number act) (onProcess number act) d e (Twin A B) := by
  obtain ⟨hfirst, hsecond, ⟨archive, records, rfl⟩, hread⟩ := h
  let e : Desk := (d.archiving archive).withLog records
  unfold Act.Abreast
  cases hfound : d.earlier[number]? with
  | none =>
    have hother : e.earlier[number]? = none := hfound
    rw [run_onProcess_of_none act hfound, run_onProcess_of_none act hother]
    exact hact d e ⟨hfirst, hsecond, ⟨archive, records, rfl⟩, hread⟩
  | some process =>
    have hother : e.earlier[number]? = some process := hfound
    have hinner := hact { d with toProcess := process } { e with toProcess := process }
      ⟨hfirst, hsecond, ⟨archive, records, rfl⟩, hread⟩
    unfold Act.Abreast at hinner
    rcases hrun : act.run { d with toProcess := process } with ⟨result, after⟩
    rcases hotherRun : act.run { e with toProcess := process } with ⟨otherResult, last⟩
    rw [hrun, hotherRun] at hinner
    rw [run_onProcess_earlier hfound hrun, run_onProcess_earlier hother hotherRun]
    cases hinner with
    | done htwin =>
      obtain ⟨houtcome, ⟨later, logged, rfl⟩, hfiled⟩ := htwin
      exact .done ⟨houtcome, ⟨later, logged, rfl⟩, hfiled⟩
    | fault hsame =>
      obtain ⟨later, logged, rfl⟩ := hsame
      exact .fault ⟨later, logged, rfl⟩

theorem opened_archiving (d : Desk) (archive : Archive) (r : Incoming) :
    (d.archiving archive).opened r = (d.opened r).archiving archive := by
  cases ha : d.ledger.account r.tenant d.clock.toUtc with
  | ok a =>
    have hother := opened_of_account (d := d.archiving archive) ha
    rw [hother, opened_of_account ha]
    rfl
  | error e =>
    have hother := opened_of_account_error (d := d.archiving archive) ha
    rw [hother, opened_of_account_error ha]
    rfl

/-- On one desk with two archives, the cycles of a message end in one fault, or in outcomes that
differ in nothing but the audit result. One record is made for both: each archive has kept it, or has
refused it and is left as it was. Apart from that, both desks are the same afterwards. -/
theorem cycle_twin (herrands : errands.LeavesArchive) (d : Desk) (r : Incoming) (A B : Archive) :
    Act.Met SameButArchive (Twin A B) ((cycle errands r).run (d.archiving A))
      ((cycle errands r).run (d.archiving B)) := by
  cases hclock : d.clock.toUtc with
  | ok t =>
    have hparted : Parted A B (d.archiving A) (d.archiving B) :=
      ⟨rfl, rfl, ⟨B, d.outbox.records, rfl⟩, t, hclock⟩
    refine concord_parted.abreast_cycle herrands.respects_ask (fun _ _ h => h.same) ?_ hparted
    intro process state before trigger first generated d e h
    exact abreast_onProcess h process fun d e h => abreast_conclude h first
  | error e =>
    rw [run_cycle_of_unread (d := d.archiving A) hclock,
      run_cycle_of_unread (d := d.archiving B) hclock, opened_archiving, opened_archiving]
    exact .fault ⟨B, (d.opened r).outbox.records, rfl⟩

/-- A greeting is answered, and counted, whether its record is kept or the memory is out of order. -/
theorem cycle_twin_greeting :
    let noon : Timestamp := ⟨738000 * Timestamp.day + 43200 * Timestamp.second, some 0⟩
    let inOrder : Archive := { audit := .memory [] }
    let broken : Archive := { audit := .memory [], brokenMemory := some "disque plein" }
    let d : Desk := Desk.new {} none inOrder noon
    let r : Incoming := { tenant := "shop", conversation := "chat", message := some "Bonjour" }
    Errands.LeavesArchive quiet ∧
    ∃ o after other last record,
      (cycle quiet r).run (d.archiving inOrder) = (.ok o, after) ∧
      (cycle quiet r).run (d.archiving broken) = (.ok other, last) ∧
      o.action = .respondText Generation.defaultFallback ∧ other.action = o.action ∧
      o.audit = .success record ∧
      other.audit = .failure "disque plein" Audit.writeErrorCode ∧
      last.ledger = after.ledger := by
  intro noon inOrder broken d r
  have haction : ((cycle quiet r).run (d.archiving inOrder)).1.toOption.map (·.action) =
      some (.respondText Generation.defaultFallback) := by decide +kernel
  have hmet := cycle_twin leavesArchive_quiet d r inOrder broken
  generalize hrun : (cycle quiet r).run (d.archiving inOrder) = first at hmet haction
  generalize hotherRun : (cycle quiet r).run (d.archiving broken) = second at hmet
  refine ⟨leavesArchive_quiet, ?_⟩
  cases hmet with
  | fault _ => cases haction
  | @done o after other last htwin =>
    obtain ⟨houtcome, ⟨archive, records, rfl⟩, record, hfiles, hotherFiles⟩ := htwin
    have hsame : other.action = o.action := by rw [houtcome]
    have happend : inOrder.append record = .ok { audit := .memory [record] } := rfl
    have hrefuse : broken.append record = .error (.refused "disque plein") := rfl
    obtain ⟨hkept, -⟩ := hfiles.of_ok happend
    obtain ⟨hlost, -⟩ := hotherFiles.of_error hrefuse
    exact ⟨o, after, other, _, record, rfl, rfl, Option.some.inj haction, hsame, hkept, hlost, rfl⟩

end Desk

end SalesDesk
