import SalesDesk.Proofs.Desk.View

/-!
# Keeping rows and records

A row is saved under its name, a record is kept at the end of its store, or the archive is left as
it is: while it is out of order, and where it refuses what is written. Either way the log tells which
of the two it was.
-/

namespace SalesDesk

namespace Archive

variable {a kept : Archive} {now : Timestamp}

theorem write_of_whenInOrder {α : Type} {broken : Option String} {write : Except WriteError α}
    {x : α} (h : whenInOrder broken write = .ok x) : write = .ok x := by
  cases broken with
  | some message => cases h
  | none => exact h

/-- Saving a usage writes the row of its tenant. -/
theorem saveUsage_eq_ok {tenant : String} {e : UsageEntry}
    (h : a.saveUsage tenant e now = .ok kept) :
    ∃ row, kept = { a with usages := a.usages.put tenant row } := by
  have hwrite := write_of_whenInOrder h
  dsimp only at hwrite
  split at hwrite
  · cases hwrite
  · split at hwrite
    · cases hwrite
    · cases hwrite
      exact ⟨_, rfl⟩

/-- Saving a status writes the row of its conversation. -/
theorem saveStatus_eq_ok {id : String} {e : StatusEntry}
    (h : a.saveStatus id e now = .ok kept) :
    ∃ row, kept = { a with conversations := a.conversations.put id row } := by
  have hput {row : Except WriteError ConversationRow}
      (h : (do
        let r ← row
        return { a with conversations := a.conversations.put id r } : Except WriteError Archive) =
          .ok kept) : ∃ row, kept = { a with conversations := a.conversations.put id row } := by
    cases row with
    | error e => cases h
    | ok r =>
      cases h
      exact ⟨_, rfl⟩
  have hwrite := write_of_whenInOrder h
  split at hwrite
  · exact hput hwrite
  · exact hput hwrite

theorem audit_of_saveUsage {tenant : String} {e : UsageEntry}
    (h : a.saveUsage tenant e now = .ok kept) : kept.audit = a.audit := by
  obtain ⟨row, rfl⟩ := saveUsage_eq_ok h
  rfl

theorem audit_of_saveStatus {id : String} {e : StatusEntry}
    (h : a.saveStatus id e now = .ok kept) : kept.audit = a.audit := by
  obtain ⟨row, rfl⟩ := saveStatus_eq_ok h
  rfl

/-- What every write to the store of audit records says while it is out of order. -/
def auditBroken (a : Archive) : Option String :=
  match a.audit with
  | .memory _ => a.brokenMemory
  | .table _ => a.brokenTables

theorem append_eq (a : Archive) (r : Audit.Record) : a.append r =
    whenInOrder a.auditBroken ((a.audit.append r).map fun audit => { a with audit }) := by
  unfold append
  cases a.audit.append r <;> rfl

theorem append_eq_ok {r : Audit.Record} (h : a.append r = .ok kept) :
    ∃ audit, a.audit.append r = .ok audit ∧ kept = { a with audit } := by
  rw [append_eq] at h
  have hwrite := write_of_whenInOrder h
  cases happend : a.audit.append r with
  | error e =>
    rw [happend] at hwrite
    cases hwrite
  | ok audit =>
    rw [happend] at hwrite
    cases hwrite
    exact ⟨audit, rfl, rfl⟩

end Archive

namespace Desk

variable {d : Desk} {t : Timestamp} {r : Audit.Record}

/-! ## Rows -/

/-- One write to the tables, with what is logged where it is lost. -/
def save (write : Archive → Timestamp → Except WriteError Archive)
    (lost : WriteError → Log.Notice) : Act (Result Bool) := do
  let time ← now
  match ← Act.look fun d => write d.archive time with
  | .ok archive =>
    Act.change fun d => { d with archive }
    return .success true
  | .error e =>
    notify [lost e]
    return .failure e.message Archive.saveErrorCode

theorem saveUsage_eq (tenant : String) (e : Archive.UsageEntry) : saveUsage tenant e =
    save (fun archive => archive.saveUsage tenant e) (Archive.usageNotSaved tenant) :=
  rfl

theorem saveStatus_eq (id : String) (e : Archive.StatusEntry) : saveStatus id e =
    save (fun archive => archive.saveStatus id e) (Archive.statusNotSaved id) :=
  rfl

theorem run_save (hclock : d.clock.toUtc = .ok t)
    (write : Archive → Timestamp → Except WriteError Archive) (lost : WriteError → Log.Notice) :
    (∃ archive, write d.archive t = .ok archive ∧
      (save write lost).run d = (.ok (.success true), { d with archive })) ∨
    (∃ e, (save write lost).run d =
      (.ok (.failure e.message Archive.saveErrorCode), d.logged t [lost e])) := by
  have hlook := Act.run_look (fun d : Desk => write d.archive t) d
  unfold save
  rw [Act.run_bind_ok (run_now hclock), Act.run_bind_ok hlook]
  cases write d.archive t with
  | ok archive => exact Or.inl ⟨archive, rfl, rfl⟩
  | error e => exact Or.inr ⟨e, Act.run_bind_ok (run_notify hclock _)⟩

/-! ## Audit records -/

/-- The time that a record gets. -/
def stamp (d : Desk) : Option Timestamp → Except TimeError Timestamp
  | some t => t.asUtc
  | none => d.clock.toUtc

theorem offset_of_stamp {time : Option Timestamp} {u : Timestamp} (h : d.stamp time = .ok u) :
    u.offset = some 0 := by
  have hutc {s : Timestamp} (hs : s.toUtc = .ok u) : u.offset = some 0 := by
    obtain ⟨rfl, -⟩ := Timestamp.toUtc_eq_ok hs
    rfl
  cases time with
  | none => exact hutc h
  | some s =>
    simp only [stamp, Timestamp.asUtc] at h
    split at h
    · cases h
      rfl
    · exact hutc h

/-- The desk with the next number for a record. -/
def numbered (d : Desk) : Desk := { d with lastId := d.lastId + 1 }

theorem run_makeRecord (e : Audit.Entry) (time : Option Timestamp) : (makeRecord e time).run d =
    ((d.stamp time).mapError Fault.time |>.map fun u =>
      { toEntry := e, id := Audit.idText d.numbered.lastId, time := u }, d.numbered) := by
  have hnumber : (Act.change fun d : Desk => { d with lastId := d.lastId + 1 }).run d =
      (.ok (), d.numbered) := rfl
  have hid := Act.run_look (fun d : Desk => Audit.idText d.lastId) d.numbered
  unfold makeRecord
  rw [Act.run_bind_ok hnumber, Act.run_bind_ok hid]
  cases time with
  | some t =>
    cases hstamp : t.asUtc with
    | ok u =>
      simp only [stamp, hstamp]
      rfl
    | error e =>
      simp only [stamp, hstamp]
      rfl
  | none =>
    have hclock : d.numbered.clock.toUtc = d.clock.toUtc := rfl
    cases hstamp : d.clock.toUtc with
    | ok u =>
      rw [hstamp] at hclock
      rw [Act.run_bind_ok (run_now hclock)]
      simp only [stamp, hstamp]
      rfl
    | error e =>
      rw [hstamp] at hclock
      rw [Act.run_bind_error (run_now_error hclock)]
      simp only [stamp, hstamp]
      rfl

theorem run_keepRecord_ok {archive : Archive} (hclock : d.clock.toUtc = .ok t)
    (h : d.archive.append r = .ok archive) : (keepRecord r).run d =
      (.ok (.success r), ({ d with archive } : Desk).logged t [r.writtenNotice]) := by
  have hlook := Act.run_look (fun d : Desk => d.archive.append r) d
  rw [h] at hlook
  have hput : (Act.change fun d : Desk => { d with archive }).run d =
      (.ok (), { d with archive }) := rfl
  have hnotify := run_notify (d := { d with archive }) hclock [r.writtenNotice]
  exact (Act.run_bind_ok hlook).trans ((Act.run_bind_ok hput).trans (Act.run_bind_ok hnotify))

theorem run_keepRecord_error {e : WriteError} (hclock : d.clock.toUtc = .ok t)
    (h : d.archive.append r = .error e) : (keepRecord r).run d =
      (.ok (.failure e.message Audit.writeErrorCode), d.logged t [r.failedNotice e.message]) := by
  have hlook := Act.run_look (fun d : Desk => d.archive.append r) d
  rw [h] at hlook
  have hnotify := run_notify hclock [r.failedNotice e.message]
  exact (Act.run_bind_ok hlook).trans (Act.run_bind_ok hnotify)

/-- Without a reading of the clock there is no result, as it cannot be logged. -/
theorem run_keepRecord_unread {e : TimeError} (hclock : d.clock.toUtc = .error e)
    (r : Audit.Record) : ∃ after, (keepRecord r).run d = (.error (.time e), after) := by
  have hlook := Act.run_look (fun d : Desk => d.archive.append r) d
  unfold keepRecord
  rw [Act.run_bind_ok hlook]
  cases d.archive.append r with
  | ok archive =>
    have hput : (Act.change fun d : Desk => { d with archive }).run d =
        (.ok (), { d with archive }) := rfl
    have hnotify := run_notify_error (d := { d with archive }) hclock r.writtenNotice []
    exact ⟨_, (Act.run_bind_ok hput).trans (Act.run_bind_error hnotify)⟩
  | error fault => exact ⟨_, Act.run_bind_error (run_notify_error hclock _ [])⟩

end Desk

end SalesDesk
