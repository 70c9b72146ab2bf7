import SalesDesk.Proofs.Audit.Stores
import SalesDesk.Proofs.Desk.Invisible

/-!
# Filing the record of a cycle

A cycle that has an outcome has made a record of it: what it chose and said, and the counters of its
tenant when it began and when it is over. The record stands at the end of the table of records, or
the outcome tells that it does not.
-/

namespace SalesDesk

open Quota

namespace Audit

/-- What became of a record: it is the last row of a table, which can hold it, or there is no row of
it. -/
inductive Filed (rows : List Row) (r : Record) : Result Record → Store → Prop
  | kept (fit : r.refusal? = none) : Filed rows r (.success r) (.table (rows ++ [Row.ofRecord r]))
  | lost {error code : String} : Filed rows r (.failure error code) (.table rows)

end Audit

namespace Desk

variable {d : Desk} {t : Timestamp} {rows : List Audit.Row} {v : View}

/-! ## Keeping records -/

theorem yields_keepRecord_filed (hv : d.view = v) (hclock : v.clock.toUtc = .ok t)
    (haudit : d.archive.audit = .table rows) (r : Audit.Record) :
    (keepRecord r).Yields d fun kept later =>
      later.view = v ∧ Audit.Filed rows r kept later.archive.audit := by
  subst hv
  cases happend : d.archive.append r with
  | error e =>
    refine ⟨_, _, run_keepRecord_error hclock happend, rfl, ?_⟩
    have hsame : (d.logged t [r.failedNotice e.message]).archive.audit = .table rows := haudit
    rw [hsame]
    exact .lost
  | ok archive =>
    refine ⟨_, _, run_keepRecord_ok hclock happend, rfl, ?_⟩
    obtain ⟨audit, hstore, rfl⟩ := Archive.append_eq_ok happend
    rw [haudit] at hstore
    obtain ⟨hfit, rfl⟩ := Audit.Store.append_table_ok hstore
    exact .kept hfit

/-! ## Leaving the records -/

/-- What respects every property of the store of records leaves the store as it is. -/
theorem audit_of_parallel {α : Type} {p : α → α → Prop} {act : Act α}
    (h : ∀ P, Act.Parallel (Hears P) p act act) (hclock : d.clock.toUtc = .ok t) :
    (act.run d).2.archive.audit = d.archive.audit := by
  obtain ⟨-, hlater⟩ := h (fun s => s = d.archive.audit) d d (.refl hclock rfl)
  exact hlater.store

theorem yields_leaving {α : Type} {p : α → α → Prop} {act : Act α} {post : α → Desk → Prop}
    (hv : d.view = v) (hclock : v.clock.toUtc = .ok t) (h : act.Yields d post)
    (hleft : ∀ P, Act.Parallel (Hears P) p act act) : act.Yields d fun a later =>
      post a later ∧ later.archive.audit = d.archive.audit := by
  subst hv
  obtain ⟨a, later, hrun, hpost⟩ := h
  have hsame := audit_of_parallel hleft hclock
  rw [hrun] at hsame
  exact ⟨a, later, hrun, hpost, hsame⟩

/-! ## The end of a cycle -/

/-- A record says what a cycle did to a message in a state, and what its tenant had counted before
and after. -/
structure Recorded (r : Incoming) (state : Conversation.State) (action : Action)
    (before after : Snapshot) (t : Timestamp) (record : Audit.Record) : Prop where
  conversation : record.conversation = some r.conversation
  message : record.message = r.message
  details : record.details = action.details
  sent : record.sent = action.outbound
  state : record.state = some state.name
  action : record.action = some action.name
  before : record.before = before
  after : record.after = after
  time : record.time = t

variable {r : Incoming} {state : Conversation.State} {before : Snapshot}
  {trigger : Option Alert.Trigger} {action : Action} {delay : Option Int}
  {generated : Option (Generation.Outcome × Option Generation.Call)}

theorem yields_recordCycle_filed (hv : d.view = v) (hclock : v.clock.toUtc = .ok t)
    (haudit : d.archive.audit = .table rows) (state : Conversation.State) (before : Snapshot)
    (action : Action) (generated : Option Generation.Outcome) :
    (recordCycle r state before action generated).Yields d fun kept later => later.view = v ∧
      ∃ record, Recorded r state action before (v.counters r.tenant) t record ∧
        Audit.Filed rows record kept later.archive.audit := by
  unfold recordCycle
  refine (yields_leaving hv hclock (yields_snapshot hv hclock r.tenant)
    fun _ => likeness_hears.respects_account r.tenant _).bind fun after counted h => ?_
  obtain ⟨⟨rfl, hcounted⟩, hsame⟩ := h
  rw [haudit] at hsame
  have hutc : counted.clock.toUtc = .ok t := by
    subst hcounted
    exact hclock
  have hnow : now.Yields counted fun time later => time = t ∧ later = counted :=
    ⟨t, counted, run_now hutc, rfl, rfl⟩
  refine hnow.bind fun time later h => ?_
  obtain ⟨rfl, rfl⟩ := h
  let record : Audit.Record :=
    { conversation := some r.conversation, message := r.message, state := some state.name
      action := some action.name, before, after := v.counters r.tenant, details := action.details
      prompt := generated.bind fun g => g.prompt
      response := generated.bind fun g => g.rawResponse
      sent := action.outbound, id := Audit.idText later.numbered.lastId, time }
  have hrecorded : Recorded r state action before (v.counters r.tenant) time record :=
    ⟨rfl, rfl, rfl, rfl, rfl, rfl, rfl, rfl, rfl⟩
  have hmake : (makeRecord record.toEntry (some time)).Yields later fun made last =>
      made = record ∧ last = later.numbered := by
    -- The time of a cycle is universal time already.
    have hstamp : later.stamp (some time) = .ok time := by
      have hagain := Timestamp.toUtc_of_toUtc hutc
      obtain ⟨rfl, -⟩ := Timestamp.toUtc_eq_ok hutc
      exact hagain
    refine ⟨record, later.numbered, ?_, rfl, rfl⟩
    rw [run_makeRecord, hstamp]
    rfl
  refine hmake.bind fun made last h => ?_
  obtain ⟨rfl, rfl⟩ := h
  have hnumbered : later.numbered.view = v := hcounted
  refine (yields_keepRecord_filed hnumbered hclock hsame record).bind fun kept last h => ?_
  obtain ⟨hlast, hfiled⟩ := h
  cases kept with
  | success _ => exact Act.yields_pure ⟨hlast, record, hrecorded, hfiled⟩
  | failure error code =>
    refine (yields_leaving hlast hclock (yields_notify hlast hclock _)
      fun _ => likeness_hears.respects_notify _).bind fun _ final h => ?_
    obtain ⟨hfinal, hleft⟩ := h
    rw [← hleft] at hfiled
    exact Act.yields_pure ⟨hfinal, record, hrecorded, hfiled⟩

/-- A cycle has an outcome, and a record of it was made and filed. -/
def Documented (r : Incoming) (before : Snapshot) (t : Timestamp) (rows : List Audit.Row)
    (o : CycleOutcome) (later : Desk) : Prop :=
  ∃ record, Recorded r o.stateBefore o.action before (later.ledger.counters r.tenant) t record ∧
    Audit.Filed rows record o.audit later.archive.audit

theorem yields_finish_documented (hv : d.view = v) (hclock : v.clock.toUtc = .ok t)
    (haudit : d.archive.audit = .table rows) (sent : Bool) :
    (finish r state before trigger generated action delay sent).Yields d
      (Documented r before t rows) := by
  unfold finish
  refine (yields_recordCycle_filed hv hclock haudit state before action _).bind
    fun audit later h => ?_
  obtain ⟨hlater, record, hrecorded, hfiled⟩ := h
  refine (yields_leaving hlater hclock (yields_close hlater hclock r.conversation state _)
    fun _ => likeness_hears.respects_close _ _ _).bind fun stateAfter last h => ?_
  obtain ⟨⟨status, hlast, -⟩, hclosed⟩ := h
  refine (yields_leaving hlast hclock (yields_notify hlast hclock _)
    fun _ => likeness_hears.respects_notify _).bind fun _ final h => ?_
  obtain ⟨hfinal, hleft⟩ := h
  have hcounters : final.ledger.counters = v.counters := congrArg View.counters hfinal
  refine Act.yields_pure ⟨record, ?_, ?_⟩
  · rw [hcounters]
    exact hrecorded
  · rw [hleft, hclosed]
    exact hfiled

theorem yields_wrapUp_documented (hv : d.view = v) (hclock : v.clock.toUtc = .ok t)
    (haudit : d.archive.audit = .table rows) (settled : Action × Option Int) :
    (wrapUp r state before trigger generated settled).Yields d (Documented r before t rows) := by
  unfold wrapUp
  refine (yields_leaving hv hclock (yields_alert hv hclock trigger settled.1)
    fun _ => parallel_alert_hears trigger settled.1).bind fun sent later h => ?_
  obtain ⟨⟨hlater, -⟩, hsame⟩ := h
  rw [haudit] at hsame
  by_cases hstop : settled.1 = .stopAutomation
  · rw [if_pos hstop]
    refine (yields_leaving hlater hclock (yields_stopAutomation hlater hclock r.conversation)
      fun _ => likeness_hears.respects_stopAutomation _).bind fun _ last h => ?_
    obtain ⟨hlast, hstopped⟩ := h
    rw [hsame] at hstopped
    exact yields_finish_documented hlast hclock hstopped sent
  · rw [if_neg hstop]
    exact yields_finish_documented hlater hclock hsame sent

/-! ## Whole cycles -/

/-- An act that ends a cycle documents it, or ends in a fault and leaves the records. -/
def Documents (act : Act CycleOutcome) (r : Incoming) (before : Snapshot) (t : Timestamp)
    (rows : List Audit.Row) : Prop :=
  ∀ d : Desk, d.WellFormed → d.clock.toUtc = .ok t → d.archive.audit = .table rows →
    match act.run d with
    | (.ok o, later) => Documented r before t rows o later
    | (.error _, later) => later.archive.audit = .table rows

theorem Documents.after {α : Type} {f : Footprint} {act : Act α} {next : α → Act CycleOutcome}
    (hnext : ∀ a, Documents (next a) r before t rows) (hkeeps : act.Keeps f)
    (hleft : ∀ P, act.Respects (Hears P)) : Documents (act >>= next) r before t rows := by
  intro d hd hclock haudit
  have hwithin := hkeeps d hd
  have hsame := audit_of_parallel hleft hclock
  rcases hrun : act.run d with ⟨e | a, later⟩
  · rw [hrun] at hsame
    rw [Act.run_bind_error hrun]
    exact hsame.trans haudit
  · rw [hrun] at hsame hwithin
    rw [Act.run_bind_ok hrun]
    exact hnext a later hwithin.wellFormed (hwithin.clock ▸ hclock) (hsame.trans haudit)

theorem documents_wrapUp (settled : Action × Option Int) :
    Documents (wrapUp r state before trigger generated settled) r before t rows := by
  intro d hd hclock haudit
  obtain ⟨o, later, hrun, hdocumented⟩ :=
    yields_wrapUp_documented (d := d) rfl hclock haudit settled
  rw [hrun]
  exact hdocumented

theorem documents_conclude (choice : Action) :
    Documents (conclude r state before trigger choice generated) r before t rows := by
  cases generated with
  | none => exact documents_wrapUp (choice, none)
  | some given =>
    rw [conclude_some]
    exact .after documents_wrapUp
      (keeps_settle (f := { tenants := {r.tenant}, conversations := {r.conversation} })
        (Set.mem_singleton _) (Set.mem_singleton _) given.1)
      fun _ => likeness_hears.respects_settle r given.1

theorem respects_writeFor {P : Audit.Store → Prop} (r : Incoming) (choice : Action) :
    (writeFor r choice).Respects (Hears P) := by
  cases choice with
  | respondText text => exact (concord_hears.respects_write respects_ask_quiet r _).map some
  | _ => exact Act.respects_pure none

theorem audit_opened (hclock : d.clock.toUtc = .ok t) (r : Incoming) :
    (d.opened r).archive.audit = d.archive.audit := by
  obtain ⟨a, -, hopened⟩ := exists_opened_eq hclock r
  rw [hopened]
  rfl

theorem documents_cycle (hd : d.WellFormed) (hclock : d.clock.toUtc = .ok t)
    (haudit : d.archive.audit = .table rows) (r : Incoming) :
    match (cycle quiet r).run d with
    | (.ok o, later) => Documented r (d.ledger.counters r.tenant) t rows o later
    | (.error _, later) => later.archive.audit = .table rows := by
  have hpursue (inside : Bool) :
      Documents (d.pursue r inside) r (d.ledger.counters r.tenant) t rows :=
    .after (fun _ => documents_conclude _)
      (keeps_of_leads (f := {}) fun _ hR => hR.leads_writeFor r _)
      fun _ => respects_writeFor r _
  have hopened : d.Within {} (d.opened r) := within_opened hd r
  rw [run_cycle_quiet hclock]
  refine Documents.after hpursue (Act.keeps_ofExcept (f := {}) _ _)
    (fun _ => Act.respects_ofExcept _ _) (d.opened r) hopened.wellFormed ?_ ?_
  · rw [hopened.clock]
    exact hclock
  · rw [audit_opened hclock]
    exact haudit

end Desk

/-! ## Answers -/

namespace Http

open Desk

variable {d : Desk} {t : Timestamp} {rows : List Audit.Row}

/-- A cycle whose words are no texts has no record in a table. -/
theorem audit_of_unfitSaid {r : Incoming} {before : Snapshot} {o : CycleOutcome}
    (h : Documented r before t rows o d) (hunfit : unfitSaid o.action ≠ []) :
    d.archive.audit = .table rows := by
  obtain ⟨record, hrecorded, hfiled⟩ := h
  generalize o.audit = kept at hfiled
  generalize d.archive.audit = store at hfiled
  cases hfiled with
  | kept hfit =>
    have htexts := (Audit.Record.refusal?_eq_none_iff.mp hfit).2.sent
    rw [hrecorded.sent] at htexts
    exact absurd ((unfitSaid_eq_nil_iff _).mpr htexts) hunfit
  | lost => rfl

/-- A cycle that is answered is documented still when it is saved. -/
theorem runCycle_documented (hd : d.WellFormed) (hclock : d.clock.toUtc = .ok t)
    (haudit : d.archive.audit = .table rows) (form : CycleForm)
    (event : Option Conversation.Event) :
    (∃ o later, (runCycle quiet form event).run d = (.ok (.ok (cycleJson o)), later) ∧
      Documented (incoming d form event) (d.ledger.counters (tenantOf d form.tenant)) t rows o
        later) ∨
    ∃ e later, (runCycle quiet form event).run d = (.error e, later) ∧
      later.archive.audit = .table rows := by
  have hdocumented := documents_cycle hd hclock haudit (incoming d form event)
  have hwithin : d.Within ((Call.cycle form).footprint d)
      ((cycle quiet (incoming d form event)).run d).2 :=
    keeps_cycle (Set.mem_singleton _) (Set.mem_singleton _) d hd
  rw [run_runCycle]
  rcases hcycle : (cycle quiet (incoming d form event)).run d with ⟨e | o, later⟩
  · rw [hcycle] at hdocumented
    exact Or.inr ⟨e, later, Act.run_bind_error hcycle, hdocumented⟩
  · rw [hcycle] at hdocumented hwithin
    obtain ⟨record, hrecorded, hfiled⟩ := hdocumented
    have hlater : later.clock.toUtc = .ok t := by
      rw [hwithin.clock]
      exact hclock
    obtain ⟨after, hend, hsaved, -, -⟩ :=
      run_saveCycle hwithin.wellFormed (tenantOf d form.tenant) form.conversation
    have hleft := audit_of_parallel (fun P => respects_saveCycle (P := P)
      (tenantOf d form.tenant) form.conversation) hlater
    rw [hend] at hleft
    have hrest : later.Within { usages := {tenantOf d form.tenant}
                                statuses := {form.conversation} } after := hsaved _ rfl rfl
    have hcounters : after.ledger.counters (tenantOf d form.tenant) =
        later.ledger.counters (tenantOf d form.tenant) := hrest.counters (Set.notMem_empty _)
    have hkept : Documented (incoming d form event) (d.ledger.counters (tenantOf d form.tenant)) t
        rows o after := by
      refine ⟨record, ?_, ?_⟩
      · change Recorded _ _ _ _ (after.ledger.counters (tenantOf d form.tenant)) _ _
        rw [hcounters]
        exact hrecorded
      · rw [hleft]
        exact hfiled
    rw [Act.run_bind_ok hcycle, Act.run_bind_ok hend]
    rcases tellCycle_cases o with ⟨-, htold⟩ | ⟨hunfit, htold⟩
    · rw [htold]
      exact Or.inl ⟨o, after, rfl, hkept⟩
    · rw [htold]
      exact Or.inr ⟨_, after, rfl, audit_of_unfitSaid hkept hunfit⟩

/-- A call of a cycle is answered with a documented outcome, or leaves the records. -/
theorem answerCycle_documented (hd : d.WellFormed) (hclock : d.clock.toUtc = .ok t)
    (haudit : d.archive.audit = .table rows) (form : CycleForm) :
    (∃ event o later, (answerCycle quiet form).run d = (.ok (.ok (cycleJson o)), later) ∧
      Documented (incoming d form event) (d.ledger.counters (tenantOf d form.tenant)) t rows o
        later) ∨
    ∃ result later, (answerCycle quiet form).run d = (result, later) ∧
      (∀ a, result = .ok a → a.status ≠ 200) ∧ later.archive.audit = .table rows := by
  rcases answerCycle_eq form with hinvalid | ⟨event, hanswer⟩
  · refine Or.inr ⟨.ok .invalidEvent, d, by rw [hinvalid, Act.run_pure], ?_, haudit⟩
    rintro a ⟨⟩
    decide
  · rw [hanswer]
    rcases runCycle_documented hd hclock haudit form event with
      ⟨o, later, hrun, hdocumented⟩ | ⟨e, later, hrun, hleft⟩
    · exact Or.inl ⟨event, o, later, hrun, hdocumented⟩
    · exact Or.inr ⟨.error e, later, hrun, nofun, hleft⟩

/-- An entry is answered with its record, which is kept, or leaves the records. -/
theorem answerWriteAudit_cases (hclock : d.clock.toUtc = .ok t)
    (haudit : d.archive.audit = .table rows) (form : AuditForm) :
    (∃ record later, (answerWriteAudit form).run d =
        (.ok (.body 201 (record.toJson Timestamp.isoZulu)), later) ∧
      record.toEntry = form.entry ∧ record.time.offset = some 0 ∧ record.refusal? = none ∧
      later.archive.audit = .table (rows ++ [.ofRecord record])) ∨
    ∃ result later, (answerWriteAudit form).run d = (result, later) ∧
      (∀ a, result = .ok a → a.status ≠ 201) ∧ later.archive.audit = .table rows := by
  have hmake := run_makeRecord (d := d) form.entry form.time
  unfold answerWriteAudit
  cases hstamp : d.stamp form.time with
  | error e =>
    rw [hstamp] at hmake
    exact Or.inr ⟨_, _, Act.run_bind_error hmake, nofun, haudit⟩
  | ok u =>
    rw [hstamp] at hmake
    obtain ⟨kept, later, hrun, -, hfiled⟩ :=
      yields_keepRecord_filed (d := d.numbered) rfl hclock haudit
        { toEntry := form.entry, id := Audit.idText d.numbered.lastId, time := u }
    rw [Act.run_bind_ok hmake, Act.run_bind_ok hrun]
    generalize hstore : later.archive.audit = store at hfiled
    cases hfiled with
    | kept hfit => exact Or.inl ⟨_, later, rfl, rfl, offset_of_stamp hstamp, hfit, hstore⟩
    | lost =>
      refine Or.inr ⟨_, later, rfl, ?_, hstore⟩
      rintro a ⟨⟩
      decide

end Http

end SalesDesk
