import SalesDesk.Audit.Record
import SalesDesk.Text.Integer
import SalesDesk.WriteError

/-!
# Stores of audit records

Records are kept in memory, in the order in which they came, or in a table. The table holds texts,
counters in JSON, and times of universal time without their offset. It refuses records with words that
are no text, records without their main parts and a second record of one id, and it is read in the
order of time; records of one time keep the order in which they came.
-/

namespace SalesDesk

/-- The integer that is made of a value, if one can be made of it. Fractions are cut off. -/
def Json.integer? : Json → Option Int
  | int n => some n
  | bool b => some (if b then 1 else 0)
  | float (.finite negative x) =>
    let (num, den) := Binary64.toQuotient negative x
    some (num.tdiv den)
  | str s => (Text.readInteger s).toOption
  | _ => none

namespace Quota.Snapshot

/-- A counter among the members of an object; one that is missing is zero. -/
def counter? (members : Table Json) (name : String) : Option Int :=
  match members.find? name with
  | none => some 0
  | some v => v.integer?

/-- The counters in a value; a value that counts as empty stands for zeros. -/
def ofJson? : Json → Option Snapshot
  | .obj members => do
    return { messagesToday := ← counter? members "messages_today"
             messagesThisWeek := ← counter? members "messages_this_week"
             imagesToday := ← counter? members "images_today"
             videosThisWeek := ← counter? members "videos_this_week" }
  | v => if v.truthy then none else some {}

theorem ofJson?_toJson (s : Snapshot) : ofJson? s.toJson = some s := rfl

end Quota.Snapshot

namespace Audit

/-- Counters as they stand in a row: a value from which they can be read. -/
structure Counters where
  json : Json
  readable : (Quota.Snapshot.ofJson? json).isSome = true
  deriving DecidableEq, Repr

namespace Counters

def ofSnapshot (s : Quota.Snapshot) : Counters where
  json := s.toJson
  readable := by rw [Quota.Snapshot.ofJson?_toJson]; rfl

def snapshot (c : Counters) : Quota.Snapshot := (Quota.Snapshot.ofJson? c.json).get c.readable

theorem snapshot_ofSnapshot (s : Quota.Snapshot) : (ofSnapshot s).snapshot = s := rfl

end Counters

/-- A record as a row of the table; its time has lost its offset. -/
structure Row where
  id : String
  time : Timestamp
  conversation : Option String
  message : Option String
  state : Option String
  action : Option String
  details : Option String
  prompt : Option String
  response : Option String
  sent : Option String
  before : Counters
  after : Counters
  deriving DecidableEq, Repr

namespace Row

/-- The row of a record whose words are texts. -/
def ofRecord (r : Record) : Row :=
  { id := r.id, time := r.time.naive, conversation := r.conversation, message := r.message
    state := r.state, action := r.action, details := r.details.bind Words.text?, prompt := r.prompt
    response := r.response.bind Words.text?, sent := r.sent.bind Words.text?
    before := .ofSnapshot r.before, after := .ofSnapshot r.after }

/-- The record of a row, whose time is universal time. -/
def record (r : Row) : Record :=
  { id := r.id, time := { r.time with offset := some 0 }, conversation := r.conversation
    message := r.message, state := r.state, action := r.action, details := r.details.map .text
    prompt := r.prompt, response := r.response.map .text, sent := r.sent.map .text
    before := r.before.snapshot, after := r.after.snapshot }

def ordered (rows : List Row) : List Row := rows.mergeSort fun a b => a.time.wall ≤ b.time.wall

end Row

/-- The column of the table that a record leaves without a value. -/
def Record.missing? (r : Record) : Option String :=
  firstMissing? [("audit_logs.conversation_id", r.conversation.isSome),
    ("audit_logs.incoming_message", r.message.isSome), ("audit_logs.state", r.state.isSome),
    ("audit_logs.chosen_action", r.action.isSome)]

/-- Words as a value for a row, which can only hold a text. -/
def wordsCell : Words → Cell
  | .text s => .text s
  | words => .foreign words.toJson.kindName (Detail.ofJson words.toJson).inner

/-- The statement that enters a record in the table. -/
def Record.statement (r : Record) : Statement :=
  let text : Option String → Cell := .ofOption .text
  let words : Option Words → Cell := .ofOption wordsCell
  .insert "audit_logs"
    [("id", .text r.id), ("timestamp", .time r.time), ("conversation_id", text r.conversation),
      ("incoming_message", text r.message), ("state", text r.state),
      ("chosen_action", text r.action), ("action_details", words r.details),
      ("ai_prompt", text r.prompt), ("ai_response", words r.response),
      ("sent_message", words r.sent), ("quotas_before", .text r.before.toJson.line),
      ("quotas_after", .text r.after.toJson.line)]

/-- Why no table takes a record, whatever there is in it: the values of its statement are looked at
before the columns that they are for. -/
def Record.refusal? (r : Record) : Option WriteError :=
  match Cell.firstForeign? 1 r.statement.cells with
  | some (place, kind) => some (.unbound place kind r.statement)
  | none => r.missing?.map fun column => .missing column r.statement

inductive Store where
  | memory (records : List Record)
  | table (rows : List Row)
  deriving Repr

instance : Inhabited Store := ⟨.memory []⟩

namespace Store

def append (s : Store) (r : Record) : Except WriteError Store :=
  match s with
  | memory records => .ok (memory (records ++ [r]))
  | table rows =>
    match r.refusal? with
    | some e => .error e
    | none =>
      if rows.any fun row => row.id == r.id then .error (.taken "audit_logs.id" r.statement)
      else .ok (table (rows ++ [Row.ofRecord r]))

def ofConversation (s : Store) (id : Option String) : List Record :=
  match s with
  | memory records => records.filter fun r => r.conversation = id
  | table rows => (Row.ordered (rows.filter fun r => r.conversation = id)).map Row.record

/-- The records from one time of universal time to another, both included. -/
def between (s : Store) (start stop : Timestamp) : List Record :=
  match s with
  | memory records =>
    records.filter fun r => start.instant ≤ r.time.instant ∧ r.time.instant ≤ stop.instant
  | table rows =>
    (Row.ordered (rows.filter fun r =>
      start.wall ≤ r.time.wall ∧ r.time.wall ≤ stop.wall)).map Row.record

end Store

end Audit

end SalesDesk
