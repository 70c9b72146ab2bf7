import SalesDesk.Proofs.Audit.Stores
import SalesDesk.Proofs.Audit.Tallies
import SalesDesk.Proofs.Desk.Keeping
import SalesDesk.Proofs.Time.Instant

/-!
# Reports on a store

A report counts the records of the instants between its bounds, whatever the clocks on which these
were read, and whichever store the records are kept in. The empty fallback is not counted, and bounds
beyond the calendar have no report.
-/

namespace SalesDesk.Audit

variable {records later : List Record} {start stop : Timestamp} {fallback : String}

/-! ## What a report counts -/

namespace Report

variable {report other : Report}

/-- A report counts some records: all of them, by action and by state, their conversations, and those
by which a fallback was sent that is not empty. -/
structure Counts (report : Report) (fallback : String) (records : List Record) : Prop where
  total : report.total = records.length
  byAction : report.byAction.Counts (records.map fun r => r.action)
  byState : report.byState.Counts (records.map fun r => r.state)
  conversations : report.conversations = (records.map fun r => r.conversation).toFinset.card
  fallbackSent : report.fallbackSent =
    if fallback = "" then 0 else records.countP fun r => r.sent = some (.text fallback)

/-- Two reports are the same up to the order of what they tally. -/
structure Same (report other : Report) : Prop where
  start : report.start = other.start
  stop : report.stop = other.stop
  total : report.total = other.total
  byAction : report.byAction.Perm other.byAction
  byState : report.byState.Perm other.byState
  fallbackSent : report.fallbackSent = other.fallbackSent
  conversations : report.conversations = other.conversations

theorem counts_ofRecords (start stop : Timestamp) (fallback : String) (records : List Record) :
    (ofRecords start stop fallback records).Counts fallback records where
  total := rfl
  byAction := Tally.counts_ofNames _
  byState := Tally.counts_ofNames _
  conversations := (Tally.counts_ofNames _).length_eq
  fallbackSent := by simp only [ofRecords, List.countP_eq_length_filter]

/-- The order of the records does not matter. -/
theorem Counts.of_perm (h : report.Counts fallback records) (hperm : records.Perm later) :
    report.Counts fallback later where
  total := h.total.trans hperm.length_eq
  byAction := h.byAction.of_perm (hperm.map _)
  byState := h.byState.of_perm (hperm.map _)
  conversations := by rw [h.conversations, List.toFinset_eq_of_perm _ _ (hperm.map _)]
  fallbackSent := by rw [h.fallbackSent, hperm.countP_eq]

/-- Two reports between the same bounds that count the same records are the same. -/
theorem Counts.same (h : report.Counts fallback records) (hother : other.Counts fallback records)
    (hstart : report.start = other.start) (hstop : report.stop = other.stop) :
    report.Same other where
  start := hstart
  stop := hstop
  total := h.total.trans hother.total.symm
  byAction := h.byAction.perm hother.byAction
  byState := h.byState.perm hother.byState
  fallbackSent := h.fallbackSent.trans hother.fallbackSent.symm
  conversations := h.conversations.trans hother.conversations.symm

end Report

/-! ## The report on a store -/

/-- The time of a record is between two bounds, both included. -/
def Record.Within (start stop : Timestamp) (r : Record) : Prop :=
  start.instant ≤ r.time.instant ∧ r.time.instant ≤ stop.instant

instance (start stop : Timestamp) : DecidablePred (Record.Within start stop) :=
  fun _ => inferInstanceAs (Decidable (_ ∧ _))

namespace Report

/-- The report between bounds in the calendar counts the records between them, from whichever store. -/
theorem exists_make (hstart : start.InCalendar) (hstop : stop.InCalendar) (s : Store)
    (fallback : String) : ∃ report, make s fallback start stop = .ok report ∧
      report.start = ⟨start.instant, some 0⟩ ∧ report.stop = ⟨stop.instant, some 0⟩ ∧
      report.Counts fallback (s.records.filter fun r => r.Within start stop) := by
  let first : Timestamp := ⟨start.instant, some 0⟩
  let last : Timestamp := ⟨stop.instant, some 0⟩
  have hinstant (i : Int) : (⟨i, some 0⟩ : Timestamp).instant = i := by simp [Timestamp.instant]
  have hbetween : (s.between first last).Perm (s.records.filter fun r => r.Within start stop) := by
    have hperm := s.between_perm (rfl : first.offset = some 0) (rfl : last.offset = some 0)
    refine hperm.trans (.of_eq (List.filter_congr fun r _ => decide_eq_decide.mpr ?_))
    simp only [first, last, hinstant, Record.Within]
  refine ⟨ofRecords first last fallback (s.between first last), ?_, rfl, rfl,
    (counts_ofRecords ..).of_perm hbetween⟩
  unfold make
  rw [Timestamp.asUtc_of_inCalendar hstart, Timestamp.asUtc_of_inCalendar hstop]
  rfl

theorem make_of_not_inCalendar (h : ¬ (start.InCalendar ∧ stop.InCalendar)) (s : Store)
    (fallback : String) : make s fallback start stop = .error .outOfRange := by
  unfold make
  by_cases hstart : start.InCalendar
  · have hstop : ¬ stop.InCalendar := fun hstop => h ⟨hstart, hstop⟩
    rw [Timestamp.asUtc_of_inCalendar hstart, Timestamp.asUtc_of_not_inCalendar hstop]
    rfl
  · rw [Timestamp.asUtc_of_not_inCalendar hstart]
    rfl

end Report

/-! ## Two stores with the same records -/

/-- A record is made of an entry that has all its main parts and texts for words. -/
structure Record.Made (r : Record) : Prop where
  complete : r.toEntry.Complete
  textual : r.toEntry.Textual
  made : ∃ (d : Desk) (time : Option Timestamp),
    ((Desk.makeRecord r.toEntry time).run d).1 = .ok r

theorem Record.Made.offset {r : Record} (h : r.Made) : r.time.offset = some 0 := by
  obtain ⟨d, time, hmade⟩ := h.made
  rw [Desk.run_makeRecord] at hmade
  cases hstamp : d.stamp time with
  | error e =>
    rw [hstamp] at hmade
    cases hmade
  | ok u =>
    rw [hstamp] at hmade
    have hrecord := Except.ok.inj hmade
    rw [← hrecord]
    exact Desk.offset_of_stamp hstamp

theorem records_table_of_made (hmade : ∀ r ∈ records, r.Made) :
    (Store.table (records.map Row.ofRecord)).records = records := by
  have hsame : ∀ r ∈ records, (Row.record ∘ Row.ofRecord) r = r := fun r hr =>
    Row.record_ofRecord (hmade r hr).offset (hmade r hr).textual
  rw [Store.records, List.map_map, List.map_congr_left hsame, List.map_id']

/-- Records that were made and differ in their ids are kept by both stores. Both give back the records
of a conversation as they were, the table in the order of time, and report the same on what is between
two bounds: what there is to be counted. -/
theorem stores_agree (hmade : ∀ r ∈ records, r.Made) (hids : (records.map fun r => r.id).Nodup) :
    ∃ memory table : Store,
      (Store.memory []).appendAll records = .ok memory ∧
      (Store.table []).appendAll records = .ok table ∧
      (∀ id, memory.ofConversation id = records.filter (fun r => r.conversation = id) ∧
        (table.ofConversation id).Perm (memory.ofConversation id) ∧
        (table.ofConversation id).Pairwise fun a b => a.time.instant ≤ b.time.instant) ∧
      (∀ fallback start stop, start.InCalendar → stop.InCalendar →
        ∃ report other, Report.make memory fallback start stop = .ok report ∧
          Report.make table fallback start stop = .ok other ∧ report.Same other ∧
          report.start = ⟨start.instant, some 0⟩ ∧ report.stop = ⟨stop.instant, some 0⟩ ∧
          report.Counts fallback (records.filter fun r => r.Within start stop)) ∧
      ∀ fallback start stop, ¬ (start.InCalendar ∧ stop.InCalendar) →
        Report.make memory fallback start stop = .error .outOfRange ∧
        Report.make table fallback start stop = .error .outOfRange := by
  let memory : Store := .memory records
  let table : Store := .table (records.map Row.ofRecord)
  have hrecords : table.records = records := records_table_of_made hmade
  have hfit : ∀ r ∈ records, r.refusal? = none := fun r hr =>
    Record.refusal?_eq_none_iff.mpr ⟨(hmade r hr).complete, (hmade r hr).textual⟩
  refine ⟨memory, table, Store.appendAll_memory [] records, Store.appendAll_table hfit hids,
    fun id => ⟨rfl, ?_, Store.pairwise_ofConversation_table _ id⟩,
    fun fallback start stop hstart hstop => ?_, fun fallback start stop hbeyond => ?_⟩
  · have hperm := table.ofConversation_perm id
    rwa [hrecords] at hperm
  · obtain ⟨report, hreport, hfirst, hlast, hcounts⟩ :=
      Report.exists_make hstart hstop memory fallback
    obtain ⟨other, hother, hfirst', hlast', hcounts'⟩ :=
      Report.exists_make hstart hstop table fallback
    rw [hrecords] at hcounts'
    exact ⟨report, other, hreport, hother,
      hcounts.same hcounts' (hfirst.trans hfirst'.symm) (hlast.trans hlast'.symm), hfirst, hlast,
      hcounts⟩
  · exact ⟨Report.make_of_not_inCalendar hbeyond memory fallback,
      Report.make_of_not_inCalendar hbeyond table fallback⟩

/-- Two records of one conversation, of which the one that was made last is from a clock ahead of
universal time and comes first in time. -/
theorem stores_agree_clocks :
    let noon : Timestamp := ⟨738000 * Timestamp.day + 43200 * Timestamp.second, some 0⟩
    let ahead : Timestamp := ⟨738000 * Timestamp.day + 46800 * Timestamp.second, some 7200⟩
    let entry : Entry :=
      { conversation := some "chat", message := some "Bonjour", state := some "Discovery"
        action := some "RespondText", before := {}, after := {} }
    let first : Record := { toEntry := entry, id := "audit-1", time := noon }
    let second : Record :=
      { toEntry := entry, id := "audit-2", time := ⟨ahead.instant, some 0⟩ }
    first.Made ∧ second.Made ∧ second.time.instant < first.time.instant ∧
    ∃ memory table : Store, (Store.memory []).appendAll [first, second] = .ok memory ∧
      (Store.table []).appendAll [first, second] = .ok table ∧
      ∃ report other, Report.make memory "" ahead noon = .ok report ∧
        Report.make table "" ahead noon = .ok other ∧ report.Same other ∧ report.total = 2 := by
  intro noon ahead entry first second
  let d : Desk := .new {} none { audit := .memory [] } noon
  have hcomplete : entry.Complete := ⟨rfl, rfl, rfl, rfl⟩
  have htextual : entry.Textual := ⟨nofun, nofun, nofun⟩
  have hfirst : first.Made := ⟨hcomplete, htextual, d, none, rfl⟩
  have hsecond : second.Made := ⟨hcomplete, htextual, d.numbered, some ahead, rfl⟩
  have hmade : ∀ r ∈ [first, second], r.Made := by
    simp [hfirst, hsecond]
  have hids : ([first, second].map fun r => r.id).Nodup := by decide
  obtain ⟨memory, table, hmemory, htable, -, hreports, -⟩ := stores_agree hmade hids
  obtain ⟨report, other, hreport, hother, hsame, -, -, hcounts⟩ :=
    hreports "" ahead noon (by decide) (by decide)
  refine ⟨hfirst, hsecond, by decide, memory, table, hmemory, htable, report, other, hreport, hother,
    hsame, hcounts.total.trans ?_⟩
  decide

/-- A record by which the empty text was sent is not counted where the fallback is empty, and there is
no report from a bound that comes before the first instant of universal time. -/
theorem fallbackSent_of_empty_fallback :
    let noon : Timestamp := ⟨738000 * Timestamp.day + 43200 * Timestamp.second, some 0⟩
    let early : Timestamp := ⟨0, some 3600⟩
    let r : Record :=
      { conversation := some "chat", message := some "Bonjour", state := some "Discovery"
        action := some "RespondText", before := {}, after := {}, sent := some (.text "")
        id := "audit-1"
        time := noon }
    r.Made ∧ ∃ memory table : Store, (Store.memory []).appendAll [r] = .ok memory ∧
      (Store.table []).appendAll [r] = .ok table ∧
      ∀ s ∈ [memory, table],
        (∃ report, Report.make s "" noon noon = .ok report ∧ report.fallbackSent = 0 ∧
          [r].countP (fun r => r.sent = some (.text "")) = 1) ∧
        Report.make s "" early noon = .error .outOfRange := by
  intro noon early r
  have hmade : r.Made :=
    ⟨⟨rfl, rfl, rfl, rfl⟩, ⟨nofun, nofun, by rintro _ ⟨⟩; rfl⟩,
      .new {} none { audit := .memory [] } noon, none, rfl⟩
  refine ⟨hmade, .memory [r], .table [Row.ofRecord r], rfl, rfl, fun s hs => ⟨?_, ?_⟩⟩
  · have hnoon : noon.InCalendar := by decide
    obtain ⟨report, hreport, -, -, hcounts⟩ := Report.exists_make hnoon hnoon s ""
    exact ⟨report, hreport, hcounts.fallbackSent, rfl⟩
  · exact Report.make_of_not_inCalendar (by decide) s ""

end SalesDesk.Audit
