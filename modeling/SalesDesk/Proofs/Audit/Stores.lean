import SalesDesk.Audit.Store
import Mathlib.Data.List.Perm.Subperm

/-!
# Stores of audit records

A store in memory and one in a table take the same records, as long as none misses a main part, all
their words are texts and no two have one id. A row gives back its record, so both are asked for the
same records: the memory answers in the order in which they came, and the table in the order of time.
-/

namespace SalesDesk.Audit

variable {r : Record} {rows : List Row} {added : List Record}

/-- An entry has all its main parts. -/
def Entry.Complete (e : Entry) : Prop :=
  e.conversation.isSome = true ∧ e.message.isSome = true ∧ e.state.isSome = true ∧
    e.action.isSome = true

/-- The words of an entry are texts. -/
structure Entry.Textual (e : Entry) : Prop where
  details : ∀ words ∈ e.details, words.text?.isSome = true
  response : ∀ words ∈ e.response, words.text?.isSome = true
  sent : ∀ words ∈ e.sent, words.text?.isSome = true

theorem Record.missing?_eq_none_iff : r.missing? = none ↔ r.toEntry.Complete := by
  simp [missing?, firstMissing?, Entry.Complete]

@[simp] theorem foreign_ne_text {kind shown : String} {text : Option String} :
    Cell.foreign kind shown ≠ .ofOption .text text := by
  cases text <;> exact nofun

theorem foreign_ne_words_iff {words : Option Words} :
    (∀ kind shown, Cell.foreign kind shown ≠ .ofOption wordsCell words) ↔
      ∀ w ∈ words, w.text?.isSome = true := by
  cases words with
  | none => simp [Cell.ofOption]
  | some w => cases w <;> simp [Cell.ofOption, wordsCell, Words.text?]

/-- Every value of the statement of a record can be held by a row if the words are texts. -/
theorem Record.firstForeign?_eq_none_iff :
    Cell.firstForeign? 1 r.statement.cells = none ↔ r.toEntry.Textual := by
  rw [Cell.firstForeign?_eq_none_iff]
  simp only [statement, Statement.insert, List.map_cons, List.map_nil]
  simp only [List.mem_cons, not_or, List.not_mem_nil, not_false_eq_true, and_true, ← ne_eq]
  simp only [forall_and, foreign_ne_words_iff]
  -- What is left are the other columns, which hold texts or nothing.
  simp only [foreign_ne_text, Cell.time, ne_eq, reduceCtorEq, not_false_eq_true, implies_true,
    true_and, and_true]
  exact ⟨fun h => ⟨h.1, h.2.1, h.2.2⟩, fun h => ⟨h.details, h.response, h.sent⟩⟩

theorem Record.refusal?_eq_none_iff :
    r.refusal? = none ↔ r.toEntry.Complete ∧ r.toEntry.Textual := by
  rw [← Record.missing?_eq_none_iff, ← Record.firstForeign?_eq_none_iff]
  unfold refusal?
  cases Cell.firstForeign? 1 r.statement.cells <;> simp

/-- A row gives back the entry that it was made of, if its words are texts. -/
theorem Row.toEntry_ofRecord (h : r.toEntry.Textual) :
    (Row.ofRecord r).record.toEntry = r.toEntry := by
  simp only [Row.ofRecord, Row.record, Words.map_text_bind_text? h.details,
    Words.map_text_bind_text? h.response, Words.map_text_bind_text? h.sent,
    Counters.snapshot_ofSnapshot]

theorem Row.record_ofRecord (hoffset : r.time.offset = some 0) (htexts : r.toEntry.Textual) :
    (Row.ofRecord r).record = r := by
  have hentry := Row.toEntry_ofRecord htexts
  obtain ⟨e, id, ⟨wall, offset⟩⟩ := r
  cases hoffset
  exact congrArg (fun e => Record.mk e id ⟨wall, some 0⟩) hentry

/-- The words of the record of a row are texts. -/
theorem Row.textual_record (row : Row) : row.record.toEntry.Textual := by
  have htext (text : Option String) : ∀ words ∈ text.map Words.text, words.text?.isSome = true := by
    cases text <;> simp [Words.text?]
  exact ⟨htext row.details, htext row.response, htext row.sent⟩

/-- A row gives back a record that a table takes again. -/
theorem Row.refusal?_record (h : r.refusal? = none) :
    (Row.ofRecord r).record.refusal? = none := by
  have hfit := Record.refusal?_eq_none_iff.mp h
  rw [Record.refusal?_eq_none_iff, Row.toEntry_ofRecord hfit.2]
  exact hfit

namespace Store

variable {s kept : Store}

/-- The records of a store, in the order in which they came. -/
def records : Store → List Record
  | memory records => records
  | table rows => rows.map Row.record

/-! ## Appending -/

/-- A record is entered below the others, and has all its main parts and texts for words. -/
theorem append_table_ok (h : (Store.table rows).append r = .ok kept) :
    r.refusal? = none ∧ kept = .table (rows ++ [Row.ofRecord r]) := by
  unfold append at h
  cases hrefusal : r.refusal? with
  | some e =>
    simp only [hrefusal] at h
    cases h
  | none =>
    simp only [hrefusal] at h
    split at h
    · cases h
    · cases h
      exact ⟨rfl, rfl⟩

theorem append_table (hfit : r.refusal? = none) (hid : r.id ∉ rows.map fun row => row.id) :
    (table rows).append r = .ok (table (rows ++ [Row.ofRecord r])) := by
  have hfree : (rows.any fun row => row.id == r.id) = false := by
    simpa [List.any_eq_false] using hid
  simp only [append, hfit, hfree]
  rfl

/-- A record that is taken stands below the others, and is given back as it is. -/
theorem records_of_append (h : s.append r = .ok kept) : ∃ new, kept.records = s.records ++ [new] ∧
    new.toEntry = r.toEntry ∧ (r.time.offset = some 0 → new = r) := by
  cases s with
  | memory records =>
    cases h
    exact ⟨r, rfl, rfl, fun _ => rfl⟩
  | table rows =>
    obtain ⟨hfit, rfl⟩ := append_table_ok h
    have htexts := (Record.refusal?_eq_none_iff.mp hfit).2
    exact ⟨(Row.ofRecord r).record, List.map_append, Row.toEntry_ofRecord htexts,
      fun hoffset => Row.record_ofRecord hoffset htexts⟩

/-- Appends records one after the other; the first that is refused ends it. -/
def appendAll (s : Store) (added : List Record) : Except WriteError Store :=
  added.foldlM append s

theorem appendAll_cons {next : Store} (h : s.append r = .ok next) (rest : List Record) :
    s.appendAll (r :: rest) = next.appendAll rest := by
  simp only [appendAll, List.foldlM_cons, h]
  rfl

theorem appendAll_cons_ok (h : s.appendAll (r :: added) = .ok kept) :
    ∃ next, s.append r = .ok next ∧ next.appendAll added = .ok kept := by
  cases happend : s.append r with
  | error e =>
    simp only [appendAll, List.foldlM_cons, happend] at h
    cases h
  | ok next => exact ⟨next, rfl, (appendAll_cons happend added).symm.trans h⟩

theorem appendAll_append {first : List Record} (h : s.appendAll first = .ok kept)
    (second : List Record) : s.appendAll (first ++ second) = kept.appendAll second := by
  unfold appendAll at h ⊢
  rw [List.foldlM_append, h]
  rfl

theorem appendAll_singleton (h : s.append r = .ok kept) : s.appendAll [r] = .ok kept :=
  appendAll_cons h []

theorem appendAll_memory (kept added : List Record) :
    (memory kept).appendAll added = .ok (memory (kept ++ added)) := by
  induction added generalizing kept with
  | nil => rw [List.append_nil]; rfl
  | cons r rest ih =>
    have happend : (memory kept).append r = .ok (memory (kept ++ [r])) := rfl
    rw [appendAll_cons happend, ih, List.append_assoc]
    rfl

theorem appendAll_table (hfit : ∀ r ∈ added, r.refusal? = none)
    (hids : ((rows.map fun row => row.id) ++ added.map fun r => r.id).Nodup) :
    (table rows).appendAll added = .ok (table (rows ++ added.map Row.ofRecord)) := by
  induction added generalizing rows with
  | nil => rw [List.map_nil, List.append_nil]; rfl
  | cons r rest ih =>
    have hrow : (Row.ofRecord r).id = r.id := rfl
    have hfree : r.id ∉ rows.map fun row => row.id := fun hmem =>
      (List.nodup_append.mp hids).2.2 _ hmem _ (List.mem_cons_self ..) rfl
    have hrest : (((rows ++ [Row.ofRecord r]).map fun row => row.id) ++
        rest.map fun r => r.id).Nodup := by
      simpa [hrow] using hids
    rw [appendAll_cons (append_table (hfit r (List.mem_cons_self ..)) hfree),
      ih (fun r hr => hfit r (List.mem_cons_of_mem _ hr)) hrest, List.append_assoc]
    rfl

/-! ## Reading -/

theorem filter_records_table (p : Record → Bool) :
    (table rows).records.filter p = (rows.filter fun row => p row.record).map Row.record :=
  List.filter_map

/-- The records of a conversation are read in another order, but all of them. -/
theorem ofConversation_perm (s : Store) (id : Option String) :
    (s.ofConversation id).Perm (s.records.filter fun r => r.conversation = id) := by
  cases s with
  | memory records => exact .refl _
  | table rows =>
    rw [filter_records_table]
    exact (List.mergeSort_perm _ _).map Row.record

/-- Between two times of universal time are the records of the instants from one to the other. -/
theorem between_perm {first last : Timestamp} (s : Store) (hfirst : first.offset = some 0)
    (hlast : last.offset = some 0) : (s.between first last).Perm
      (s.records.filter fun r =>
        first.instant ≤ r.time.instant ∧ r.time.instant ≤ last.instant) := by
  cases s with
  | memory records => exact .refl _
  | table rows =>
    have hwall (row : Row) : row.record.time.instant = row.time.wall := by
      simp [Row.record, Timestamp.instant]
    have hbound {t : Timestamp} (h : t.offset = some 0) : t.instant = t.wall := by
      simp [Timestamp.instant, h]
    rw [filter_records_table]
    simp only [hwall, hbound hfirst, hbound hlast]
    exact (List.mergeSort_perm _ _).map Row.record

theorem pairwise_ordered (rows : List Row) :
    (Row.ordered rows).Pairwise fun a b => a.time.wall ≤ b.time.wall := by
  have hsorted : (Row.ordered rows).Pairwise fun a b =>
      decide (a.time.wall ≤ b.time.wall) = true := by
    apply List.pairwise_mergeSort
    · intro a b c hab hbc
      exact decide_eq_true (Int.le_trans (of_decide_eq_true hab) (of_decide_eq_true hbc))
    · intro a b
      simpa using Int.le_total a.time.wall b.time.wall
  exact hsorted.imp fun h => of_decide_eq_true h

/-- A table is read in the order of time. -/
theorem pairwise_ofConversation_table (rows : List Row) (id : Option String) :
    ((table rows).ofConversation id).Pairwise fun a b => a.time.instant ≤ b.time.instant := by
  refine (pairwise_ordered _).map Row.record fun a b hab => ?_
  simpa [Row.record, Timestamp.instant] using hab

end Store

end SalesDesk.Audit
