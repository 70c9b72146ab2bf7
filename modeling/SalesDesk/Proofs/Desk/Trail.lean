import SalesDesk.Proofs.Desk.Filing
import Mathlib.Data.List.Perm.Subperm

/-!
# The audit trail

Audit records in a table are only ever added: one by a cycle that says so in its answer, which it
repeats, and one by an entry that is answered with its record. All that was ever read of the trail
of a conversation is read again by every later request, and after every restart.
-/

namespace SalesDesk

open Quota

namespace Audit

variable {rows : List Row} {r : Record}

/-- A store is a table of some rows, with further ones below them whose records it would take. -/
def Store.Extends (rows : List Row) (s : Store) : Prop :=
  ∃ added, s = .table (rows ++ added) ∧ ∀ row ∈ added, row.record.refusal? = none

theorem Store.extends_refl (rows : List Row) : Extends rows (.table rows) :=
  ⟨[], by rw [List.append_nil], fun _ hrow => absurd hrow List.not_mem_nil⟩

theorem Store.grows_extends (rows : List Row) : Grows (Extends rows) := by
  rintro _ r kept ⟨added, rfl, hfit⟩ happend
  obtain ⟨hrefusal, rfl⟩ := append_table_ok happend
  refine ⟨added ++ [Row.ofRecord r], by rw [List.append_assoc], fun row hrow => ?_⟩
  rcases List.mem_append.mp hrow with hrow | hrow
  · exact hfit row hrow
  · rw [List.mem_singleton.mp hrow]
    exact Row.refusal?_record hrefusal

end Audit

/-! ## Reading the trail of a conversation -/

namespace Http

open Desk

variable {d : Desk} {r : Request} {records : List Audit.Record}

/-- A record fits into an answer if a table takes it. -/
theorem unfitParts_eq_nil_iff (r : Audit.Record) : unfitParts r = [] ↔ r.refusal? = none := by
  rw [Audit.Record.refusal?_eq_none_iff, unfitParts, List.append_eq_nil_iff, unfitWords_eq_nil_iff]
  refine and_congr ?_ ?_
  · simp [Audit.Entry.Complete, Option.isSome_iff_ne_none]
  · simp only [List.forall_mem_cons, List.not_mem_nil, false_imp_iff, implies_true, and_true]
    exact ⟨fun h => ⟨h.1, h.2.1, h.2.2⟩, fun h => ⟨h.details, h.response, h.sent⟩⟩

theorem recordsJson_cons (first : Audit.Record) (rest : List Audit.Record)
    (h : first.refusal? = none) : recordsJson (first :: rest) =
      (List.cons (first.toJson Timestamp.isoZulu)) <$> recordsJson rest := by
  have hfit := (unfitParts_eq_nil_iff first).mpr h
  simp only [recordsJson, hfit]
  rfl

theorem run_recordsJson (d : Desk) (h : ∀ r ∈ records, r.refusal? = none) :
    (recordsJson records).run d =
      (.ok (records.map (Audit.Record.toJson Timestamp.isoZulu)), d) := by
  induction records with
  | nil => rfl
  | cons first rest ih =>
    rw [recordsJson_cons first rest (h first List.mem_cons_self), Act.run_map,
      ih fun r hr => h r (List.mem_cons_of_mem _ hr)]
    rfl

/-- Records are answered only where all of them fit into the answer. -/
theorem fit_of_recordsJson {items : List Json} (h : ((recordsJson records).run d).1 = .ok items) :
    ∀ r ∈ records, r.refusal? = none := by
  induction records generalizing items with
  | nil => exact fun _ hr => absurd hr List.not_mem_nil
  | cons first rest ih =>
    cases hrefusal : first.refusal? with
    | some e =>
      have hunfit : unfitParts first ≠ [] := by
        rw [Ne, unfitParts_eq_nil_iff, hrefusal]
        exact nofun
      have hfail : ((recordsJson (first :: rest)).run d).1 =
          .error (.unfit (unfitParts first)) := by
        have hnonempty : (!(unfitParts first).isEmpty) = true := by simpa using hunfit
        unfold recordsJson
        rw [if_pos hnonempty]
        rfl
      rw [hfail] at h
      cases h
    | none =>
      rw [recordsJson_cons first rest hrefusal, Act.run_map] at h
      cases hrest : ((recordsJson rest).run d).1 with
      | error e =>
        rw [hrest] at h
        cases h
      | ok others =>
        intro r hr
        rcases List.mem_cons.mp hr with rfl | hr
        · exact hrefusal
        · exact ih hrest r hr

/-- The conversation whose trail a call asks for. -/
def Call.trailed? : Call → Option String
  | .trail conversation => some conversation
  | _ => none

def Request.Reads (r : Request) (id : String) : Prop :=
  ∃ call, Call.ofRequest r = .ok call ∧ call.trailed? = some id

instance (r : Request) (id : String) : Decidable (r.Reads id) :=
  decidableOk (Call.ofRequest r) fun call => call.trailed? = some id

theorem Request.Reads.call {id : String} (h : r.Reads id) :
    Call.ofRequest r = .ok (.trail id) := by
  obtain ⟨call, hcall, hid⟩ := h
  cases call with
  | trail conversation =>
    cases hid
    exact hcall
  | _ => simp [Call.trailed?] at hid

end Http

namespace Desk

variable {d : Desk} {t : Timestamp} {rows : List Audit.Row} {turn : Turn}

/-- The audit records of a desk, in the order in which they came. -/
def records (d : Desk) : List Audit.Record := d.archive.audit.records

/-- The trail of a conversation is answered with all its records, if they all fit. -/
theorem reply_trail {r : Http.Request} {conversation : String} {items : List Json}
    (h : r.Reads conversation) :
    d.reply? (.request r) = some (.ok (.body 200 (.arr items))) ↔
      (∀ record ∈ d.records, record.conversation = some conversation → record.refusal? = none) ∧
      items = (d.archive.audit.ofConversation (some conversation)).map
        (Audit.Record.toJson Timestamp.isoZulu) := by
  let records := d.archive.audit.ofConversation (some conversation)
  have hmem : (∀ record ∈ d.records, record.conversation = some conversation →
      record.refusal? = none) ↔ ∀ record ∈ records, record.refusal? = none := by
    have hperm := d.archive.audit.ofConversation_perm (some conversation)
    simp only [records, hperm.mem_iff, List.mem_filter, decide_eq_true_eq, and_imp]
    rfl
  have hanswer : ((Http.answer quiet (.trail conversation)).run d).1 =
      ((Http.recordsJson records).run d).1.map fun items => .ok (.arr items) := by
    change ((Http.recordsJson records >>= fun items =>
      pure (Http.Answer.ok (.arr items))).run d).1 = _
    rcases hrun : (Http.recordsJson records).run d with ⟨e | items, later⟩
    · rw [Act.run_bind_error hrun]
      rfl
    · rw [Act.run_bind_ok hrun]
      rfl
  rw [hmem, reply?, Http.run_serve_of_call h.call quiet, hanswer]
  constructor
  · intro hreply
    cases hjson : ((Http.recordsJson records).run d).1 with
    | error e =>
      rw [hjson] at hreply
      cases hreply
    | ok given =>
      rw [hjson] at hreply
      have hfit := Http.fit_of_recordsJson hjson
      rw [Http.run_recordsJson d hfit] at hjson
      cases hreply
      cases hjson
      exact ⟨hfit, rfl⟩
  · rintro ⟨hfit, rfl⟩
    rw [Http.run_recordsJson d hfit]
    rfl

/-! ## Records are only added -/

theorem extends_through (hclock : d.clock.toUtc = .ok t) (haudit : d.archive.audit = .table rows)
    (turns : List Turn) : (d.through turns).archive.audit.Extends rows := by
  have hgrows := Audit.Store.grows_extends rows
  -- The desk is followed beside itself, for what is carried along of its store.
  have hears : (d.through turns).Hears (Audit.Store.Extends rows) (d.through turns) := by
    induction turns using List.reverseRecOn with
    | nil => exact .refl hclock (haudit ▸ Audit.Store.extends_refl rows)
    | append_singleton turns turn ih =>
      rw [through_concat]
      exact (ih.step fun _ => hgrows).2
  exact hears.store

/-- A turn that keeps no record leaves the store as it is. -/
theorem audit_step (hclock : d.clock.toUtc = .ok t) (h : turn.mayRecord = false) :
    (d.step turn).archive.audit = d.archive.audit := by
  have hears : d.Hears (fun s => s = d.archive.audit) d := .refl hclock rfl
  have hnever : turn.mayRecord = true → Audit.Store.Grows fun s => s = d.archive.audit := by
    intro hmay
    rw [h] at hmay
    cases hmay
  obtain ⟨-, hlater⟩ := hears.step hnever
  exact hlater.store

theorem audit_launched (settings : Settings) (given : Option Generation.Generator) (w : World)
    {archive : Archive} (haudit : archive.audit = .table rows) :
    (launched settings given archive w).archive.audit = .table rows := by
  obtain ⟨t, hclock⟩ := w.readable
  have hstart := audit_of_parallel (d := (Desk.new settings given archive w.clock).inWorld w)
    (fun _ => respects_start) hclock
  exact hstart.trans haudit

end Desk

namespace Http

/-- The answer to a cycle says the same as a record. -/
structure Repeats (json : Json) (record : Audit.Record) : Prop where
  state : json.get? "state_before" = some (optionalText record.state)
  action : json.get? "action" = some (optionalText record.action)
  details : json.get? "details" = some (optionalWords record.details)
  sent : json.get? "outbound_text" = some (optionalWords record.sent)

theorem written_cycleJson (o : Desk.CycleOutcome) :
    (cycleJson o).get? "audit_written" = some (.bool o.audit.isOk) := by
  simp [cycleJson, Json.get?, Table.find?]

theorem repeats_cycleJson {r : Desk.Incoming} {o : Desk.CycleOutcome} {before after : Snapshot}
    {t : Timestamp} {record : Audit.Record}
    (h : Desk.Recorded r o.stateBefore o.action before after t record) :
    Repeats (cycleJson o) record where
  state := by
    rw [h.state]
    simp [cycleJson, Json.get?, Table.find?, optionalText, Json.ofOption]
  action := by
    rw [h.action]
    simp [cycleJson, Json.get?, Table.find?, optionalText, Json.ofOption]
  details := by
    rw [h.details]
    simp [cycleJson, Json.get?, Table.find?]
  sent := by
    rw [h.sent]
    simp [cycleJson, Json.get?, Table.find?]

end Http

namespace Desk

variable {d : Desk} {t : Timestamp} {rows : List Audit.Row} {turn : Turn}

/-- What a turn adds to the audit records. -/
inductive Adds (d : Desk) (turn : Turn) : List Audit.Record → Prop
  /-- A cycle that is answered so adds one record of what it did. -/
  | cycle {r : Http.Request} {form : Http.CycleForm} {json : Json} {record : Audit.Record}
      (request : turn = .request r) (call : Http.Call.ofRequest r = .ok (.cycle form))
      (answer : d.reply? turn = some (.ok (.body 200 json)))
      (written : json.get? "audit_written" = some (.bool true))
      (conversation : record.conversation = some form.conversation)
      (message : record.message = some form.message)
      (repeats : Http.Repeats json record)
      (before : record.before = d.ledger.counters (Http.tenantOf d form.tenant))
      (after : record.after = (d.step turn).ledger.counters (Http.tenantOf d form.tenant))
      (time : d.clock.toUtc = .ok record.time) : Adds d turn [record]
  /-- An entry that is answered with its record adds this record. -/
  | entry {r : Http.Request} {form : Http.AuditForm} {record : Audit.Record}
      (request : turn = .request r) (call : Http.Call.ofRequest r = .ok (.writeAudit form))
      (answer : d.reply? turn = some (.ok (.body 201 (record.toJson Timestamp.isoZulu))))
      (same : record.toEntry = form.entry) : Adds d turn [record]
  /-- Every other turn adds nothing. -/
  | nothing
      (cycle : ∀ r form json, turn = .request r → Http.Call.ofRequest r = .ok (.cycle form) →
        d.reply? turn = some (.ok (.body 200 json)) →
        json.get? "audit_written" ≠ some (.bool true))
      (entry : ∀ r form json, turn = .request r → Http.Call.ofRequest r = .ok (.writeAudit form) →
        d.reply? turn ≠ some (.ok (.body 201 json))) : Adds d turn []

theorem records_append {later : Desk} {record : Audit.Record}
    (haudit : d.archive.audit = .table rows) (hfit : record.refusal? = none)
    (htime : record.time.offset = some 0)
    (hlater : later.archive.audit = .table (rows ++ [.ofRecord record])) :
    later.records = d.records ++ [record] := by
  unfold records
  rw [haudit, hlater]
  simp only [Audit.Store.records, List.map_append, List.map_cons, List.map_nil,
    Audit.Row.record_ofRecord htime (Audit.Record.refusal?_eq_none_iff.mp hfit).2]

theorem records_same {later : Desk} (haudit : d.archive.audit = .table rows)
    (hlater : later.archive.audit = .table rows) : later.records = d.records ++ [] := by
  unfold records
  rw [haudit, hlater, List.append_nil]

theorem adds_cycle (hd : d.WellFormed) (haudit : d.archive.audit = .table rows)
    {r : Http.Request} {form : Http.CycleForm} (hcall : Http.Call.ofRequest r = .ok (.cycle form)) :
    ∃ added, (d.step (.request r)).records = d.records ++ added ∧ d.Adds (.request r) added := by
  obtain ⟨t, hclock⟩ := hd.clock
  have hserve : (Http.serve quiet r).run d = (Http.answerCycle quiet form).run d :=
    Http.run_serve_of_call hcall quiet d
  have hnothing (hleft : (d.step (.request r)).archive.audit = .table rows)
      (hunwritten : ∀ json, d.reply? (.request r) = some (.ok (.body 200 json)) →
        json.get? "audit_written" ≠ some (.bool true)) :
      ∃ added, (d.step (.request r)).records = d.records ++ added ∧
        d.Adds (.request r) added := by
    refine ⟨[], records_same haudit hleft, .nothing ?_ ?_⟩
    · intro _ _ json _ _
      exact hunwritten json
    · rintro _ entry json ⟨⟩ hentry
      rw [hcall] at hentry
      cases hentry
  rcases Http.answerCycle_documented hd hclock haudit form with
    ⟨event, o, later, hrun, record, hrecorded, hfiled⟩ | ⟨result, later, hrun, hstatus, hleft⟩
  · have hreply : d.reply? (.request r) = some (.ok (.body 200 (Http.cycleJson o))) := by
      rw [reply?, hserve, hrun]
      rfl
    have hstep : d.step (.request r) = later := congrArg Prod.snd (hserve.trans hrun)
    have hwritten := Http.written_cycleJson o
    generalize o.audit = kept at hfiled hwritten
    generalize hstore : later.archive.audit = store at hfiled
    cases hfiled with
    | kept hfit =>
      have htime : d.clock.toUtc = .ok record.time := by
        rw [hrecorded.time]
        exact hclock
      have hstamp : d.stamp none = .ok record.time := htime
      refine ⟨[record], ?_, .cycle rfl hcall hreply hwritten hrecorded.conversation
        hrecorded.message (Http.repeats_cycleJson hrecorded) hrecorded.before ?_ htime⟩
      · rw [hstep]
        exact records_append haudit hfit (offset_of_stamp hstamp) hstore
      · rw [hstep]
        exact hrecorded.after
    | lost =>
      refine hnothing (hstep ▸ hstore) fun json hanswer => ?_
      rw [hreply] at hanswer
      cases hanswer
      rw [hwritten]
      exact nofun
  · have hstep : d.step (.request r) = later := congrArg Prod.snd (hserve.trans hrun)
    refine hnothing (hstep ▸ hleft) fun json hanswer => ?_
    rw [reply?, hserve, hrun] at hanswer
    cases hanswer
    exact absurd rfl (hstatus _ rfl)

theorem adds_entry (hclock : d.clock.toUtc = .ok t) (haudit : d.archive.audit = .table rows)
    {r : Http.Request} {form : Http.AuditForm}
    (hcall : Http.Call.ofRequest r = .ok (.writeAudit form)) :
    ∃ added, (d.step (.request r)).records = d.records ++ added ∧ d.Adds (.request r) added := by
  have hserve : (Http.serve quiet r).run d = (Http.answerWriteAudit form).run d :=
    Http.run_serve_of_call hcall quiet d
  rcases Http.answerWriteAudit_cases hclock haudit form with
    ⟨record, later, hrun, hsame, htime, hfit, hstore⟩ | ⟨result, later, hrun, hstatus, hleft⟩
  · have hstep : d.step (.request r) = later := congrArg Prod.snd (hserve.trans hrun)
    refine ⟨[record], ?_, .entry rfl hcall ?_ hsame⟩
    · rw [hstep]
      exact records_append haudit hfit htime hstore
    · rw [reply?, hserve, hrun]
  · have hstep : d.step (.request r) = later := congrArg Prod.snd (hserve.trans hrun)
    refine ⟨[], records_same haudit (hstep ▸ hleft), .nothing ?_ ?_⟩
    · rintro _ cycled json ⟨⟩ hcycled
      rw [hcall] at hcycled
      cases hcycled
    · intro _ _ json _ _ hanswer
      rw [reply?, hserve, hrun] at hanswer
      cases hanswer
      exact absurd rfl (hstatus _ rfl)

theorem adds_nothing (hclock : d.clock.toUtc = .ok t) (haudit : d.archive.audit = .table rows)
    (h : turn.mayRecord = false) :
    ∃ added, (d.step turn).records = d.records ++ added ∧ d.Adds turn added := by
  have hother {r : Http.Request} {call : Http.Call} (hturn : turn = .request r)
      (hcall : Http.Call.ofRequest r = .ok call) : call.mayRecord = false := by
    subst hturn
    simpa only [Turn.mayRecord, Http.Request.mayRecord, hcall] using h
  refine ⟨[], records_same haudit ((audit_step hclock h).trans haudit), .nothing ?_ ?_⟩
  · intro r form json hturn hcall
    cases hother hturn hcall
  · intro r form json hturn hcall
    cases hother hturn hcall

theorem adds_step (hd : d.WellFormed) (haudit : d.archive.audit = .table rows) (turn : Turn) :
    ∃ added, (d.step turn).records = d.records ++ added ∧ d.Adds turn added := by
  obtain ⟨t, hclock⟩ := hd.clock
  by_cases h : turn.mayRecord = false
  · exact adds_nothing hclock haudit h
  · cases turn with
    | request r =>
      simp only [Turn.mayRecord, Http.Request.mayRecord] at h
      cases hcall : Http.Call.ofRequest r with
      | error m => simp [hcall] at h
      | ok call =>
        cases call with
        | cycle form => exact adds_cycle hd haudit hcall
        | writeAudit form => exact adds_entry hclock haudit hcall
        | _ => simp [hcall, Http.Call.mayRecord] at h
    | _ => exact absurd rfl h

/-! ## What was read is read again -/

/-- New records are below the old ones, and fit into every answer. -/
theorem exists_records_through (hclock : d.clock.toUtc = .ok t)
    (haudit : d.archive.audit = .table rows) (later : List Turn) :
    ∃ added, (d.through later).records = d.records ++ added ∧
      ∀ record ∈ added, record.refusal? = none := by
  obtain ⟨added, hlater, hfit⟩ := extends_through hclock haudit later
  refine ⟨added.map Audit.Row.record, ?_, fun record hrecord => ?_⟩
  · unfold records
    rw [hlater, haudit]
    exact List.map_append
  · obtain ⟨row, hrow, rfl⟩ := List.mem_map.mp hrecord
    exact hfit row hrow

theorem reply_trail_through (hclock : d.clock.toUtc = .ok t)
    (haudit : d.archive.audit = .table rows) (later : List Turn) {r : Http.Request}
    {conversation : String} {items : List Json} (hreads : r.Reads conversation)
    (hreply : d.reply? (.request r) = some (.ok (.body 200 (.arr items)))) :
    items.Perm ((d.records.filter fun record => record.conversation = some conversation).map
      (Audit.Record.toJson Timestamp.isoZulu)) ∧
    ∃ more, (d.through later).reply? (.request r) = some (.ok (.body 200 (.arr more))) ∧
      items.Subperm more := by
  let json (l : List Audit.Record) : List Json :=
    (l.filter fun record => record.conversation = some conversation).map
      (Audit.Record.toJson Timestamp.isoZulu)
  have hread (e : Desk) : ((e.archive.audit.ofConversation (some conversation)).map
      (Audit.Record.toJson Timestamp.isoZulu)).Perm (json e.records) :=
    (e.archive.audit.ofConversation_perm (some conversation)).map _
  obtain ⟨hfit, rfl⟩ := (reply_trail hreads).mp hreply
  obtain ⟨added, hrecords, hadded⟩ := exists_records_through hclock haudit later
  have hlater : ∀ record ∈ (d.through later).records,
      record.conversation = some conversation → record.refusal? = none := by
    intro record hrecord hconversation
    rw [hrecords] at hrecord
    rcases List.mem_append.mp hrecord with hold | hnew
    · exact hfit record hold hconversation
    · exact hadded record hnew
  have hmore : json (d.through later).records = json d.records ++ json added := by
    simp only [json, hrecords, List.filter_append, List.map_append]
  have hkept : (json d.records).Subperm (json (d.through later).records) := by
    rw [hmore]
    exact (List.sublist_append_left _ _).subperm
  refine ⟨hread d, _, (reply_trail hreads).mpr ⟨hlater, rfl⟩, ?_⟩
  exact ((hread d).subperm.trans hkept).trans (hread (d.through later)).symm.subperm

/-- In a session over a table of audit records, each turn adds what there is to add and leaves all
else in its place, and what was read of the trail of a conversation is read again ever after. -/
theorem trail_faithful (settings : Settings) (given : Option Generation.Generator) (w : World)
    {archive : Archive} (harchive : archive.WellFormed) (haudit : archive.audit = .table rows)
    (turns : List Turn) :
    let d := (launched settings given archive w).through turns
    (∀ turn, ∃ added, (d.step turn).records = d.records ++ added ∧ d.Adds turn added) ∧
    ∀ later, d.records <+: (d.through later).records ∧
      ∀ (r : Http.Request) conversation items, r.Reads conversation →
        d.reply? (.request r) = some (.ok (.body 200 (.arr items))) →
        items.Perm ((d.records.filter fun record => record.conversation = some conversation).map
          (Audit.Record.toJson Timestamp.isoZulu)) ∧
        ∃ more, (d.through later).reply? (.request r) = some (.ok (.body 200 (.arr more))) ∧
          items.Subperm more := by
  intro d
  have hlaunched := wellFormed_launched settings given w harchive
  have hd : d.WellFormed := wellFormed_through hlaunched turns
  obtain ⟨t, hstart⟩ := hlaunched.clock
  obtain ⟨u, hclock⟩ := hd.clock
  obtain ⟨added, hrows, -⟩ :=
    extends_through hstart (audit_launched settings given w haudit) turns
  change d.archive.audit = .table (rows ++ added) at hrows
  refine ⟨adds_step hd hrows, fun later => ⟨?_, fun r conversation items hreads hreply => ?_⟩⟩
  · obtain ⟨more, hrecords, -⟩ := exists_records_through hclock hrows later
    exact ⟨more, hrecords.symm⟩
  · exact reply_trail_through hclock hrows later hreads hreply

/-- A greeting is answered with the fallback, and its record is read again after a restart. -/
theorem trail_faithful_greeting :
    let noon : Timestamp := ⟨738000 * Timestamp.day + 43200 * Timestamp.second, some 0⟩
    let w : World := { clock := noon, readable := ⟨noon, rfl⟩ }
    let d := launched {} none { audit := .table [] } w
    let greeting : Http.Request :=
      { method := "POST", target := "/api/v1/cycle"
        content := some "\x7b\"conversation_id\": \"chat\", \"message\": \"Bonjour\"\x7d" }
    let trail : Http.Request := { method := "GET", target := "/api/v1/audit/chat" }
    let greeted := d.step (.request greeting)
    ∃ record, d.Adds (.request greeting) [record] ∧ greeted.records = [record] ∧
      trail.Reads "chat" ∧
      greeted.reply? (.request trail) =
        some (.ok (.body 200 (.arr [record.toJson Timestamp.isoZulu]))) ∧
      ∃ more, (greeted.through [.restart, .request greeting]).reply? (.request trail) =
        some (.ok (.body 200 (.arr more))) ∧ record.toJson Timestamp.isoZulu ∈ more := by
  intro noon w d greeting trail greeted
  have hempty : d.records = [] := by decide +kernel
  have hone : greeted.records.length = 1 := by decide +kernel
  have hfit : ∀ record ∈ greeted.records, record.refusal? = none := by
    simp only [← Option.isNone_iff_eq_none]
    decide +kernel
  have hread : greeted.archive.audit.ofConversation (some "chat") = greeted.records := by
    decide +kernel
  have hreads : trail.Reads "chat" := by decide +kernel
  obtain ⟨hadds, -⟩ := trail_faithful {} none w (Archive.wellFormed_empty (.table [])) rfl []
  obtain ⟨added, hrecords, hadded⟩ := hadds (.request greeting)
  change greeted.records = d.records ++ added at hrecords
  rw [hempty, List.nil_append] at hrecords
  obtain ⟨record, rfl⟩ := List.length_eq_one_iff.mp (hrecords ▸ hone)
  have hreply : greeted.reply? (.request trail) =
      some (.ok (.body 200 (.arr [record.toJson Timestamp.isoZulu]))) := by
    refine (reply_trail hreads).mpr ⟨fun r hr _ => hfit r hr, ?_⟩
    rw [hread, hrecords]
    rfl
  obtain ⟨-, hlater⟩ := trail_faithful {} none w (Archive.wellFormed_empty (.table [])) rfl
    [.request greeting]
  obtain ⟨-, htrail⟩ := hlater [.restart, .request greeting]
  obtain ⟨-, more, hmore, hsub⟩ := htrail trail "chat" _ hreads hreply
  refine ⟨record, hadded, hrecords, hreads, hreply, more, hmore, ?_⟩
  exact hsub.subset List.mem_cons_self

end Desk

end SalesDesk
