import SalesDesk.Audit.Store
import SalesDesk.Conversation.Registry
import SalesDesk.Number.Word
import SalesDesk.Quota.Ledger

/-!
# Archive

What outlives the process: the last usage of each tenant, the last status of each conversation, and
the audit records. History is never replayed; a new process resumes from the last rows. Times are
written as they read, without their offset, and are read back as universal time.
-/

namespace SalesDesk

namespace Archive

structure UsageRow extends Quota.Snapshot where
  lastReset : Timestamp
  updatedAt : Timestamp
  deriving DecidableEq, Repr

/-- The row of a conversation. The tenant is the one for which it was first saved. -/
structure ConversationRow where
  tenant : String
  state : String
  stopped : Bool
  updatedAt : Timestamp
  deriving DecidableEq, Repr

/-- A usage that is to be saved, of which parts may be missing. -/
structure UsageEntry where
  messagesToday : Option Int
  messagesThisWeek : Option Int
  imagesToday : Option Int
  videosThisWeek : Option Int
  lastReset : Option Timestamp
  deriving DecidableEq, Repr

def UsageEntry.ofUsage (u : Quota.Usage) : UsageEntry :=
  { messagesToday := some u.messagesToday
    messagesThisWeek := some u.messagesThisWeek
    imagesToday := some u.imagesToday
    videosThisWeek := some u.videosThisWeek
    lastReset := some u.lastReset }

namespace UsageEntry

/-- The counters under the names of their columns. -/
def counters (e : UsageEntry) : List (String × Option Int) :=
  [("messages_today", e.messagesToday), ("messages_this_week", e.messagesThisWeek),
    ("images_today", e.imagesToday), ("videos_this_week", e.videosThisWeek)]

/-- Does an integer have more than 64 bits? -/
def isTooLarge (n : Int) : Bool := !Word.fits 64 n

/-- The first column without a value. -/
def missing? (e : UsageEntry) : Option String :=
  firstMissing? ((e.counters.map fun c => ("quota_usage." ++ c.1, c.2.isSome)) ++
    [("quota_usage.last_reset", e.lastReset.isSome)])

/-- The entry with zero for the counters that are missing. -/
def withDefaults (e : UsageEntry) : UsageEntry :=
  { e with
    messagesToday := some (e.messagesToday.getD 0)
    messagesThisWeek := some (e.messagesThisWeek.getD 0)
    imagesToday := some (e.imagesToday.getD 0)
    videosThisWeek := some (e.videosThisWeek.getD 0) }

def row? (e : UsageEntry) (now : Timestamp) : Option UsageRow :=
  match e.messagesToday, e.messagesThisWeek, e.imagesToday, e.videosThisWeek, e.lastReset with
  | some messagesToday, some messagesThisWeek, some imagesToday, some videosThisWeek,
      some lastReset =>
    some { messagesToday, messagesThisWeek, imagesToday, videosThisWeek
           lastReset := lastReset.naive, updatedAt := now.naive }
  | _, _, _, _, _ => none

/-- The statement that enters the row of a tenant. -/
def insertion (e : UsageEntry) (tenant : String) (now : Timestamp) : Statement :=
  .insert "quota_usage" (("tenant_id", .text tenant) ::
    (e.counters.map fun c => (c.1, .ofOption .int c.2)) ++
    [("last_reset", .ofOption .time e.lastReset), ("updated_at", .time now)])

/-- The statement that changes the row of a tenant. Columns that stay as they are do not occur in
it; a time with an offset is never the same as one in a row, which has none. -/
def change (e : UsageEntry) (tenant : String) (old : UsageRow) (now : Timestamp) : Statement :=
  let counters := (e.counters.zip old.fields).filter fun p => p.1.2 ≠ some p.2.2
  .update "quota_usage" "tenant_id" tenant
    ((counters.map fun p => (p.1.1, .ofOption .int p.1.2)) ++
      (if e.lastReset = some old.lastReset then []
        else [("last_reset", .ofOption .time e.lastReset)]) ++
      [("updated_at", .time now)])

/-- The usage that an entry stands for: a missing counter is zero, a missing time is now, and a time
without offset is universal time. -/
def usage (e : UsageEntry) (now : Except TimeError Timestamp) : Except TimeError Quota.Usage := do
  let lastReset ← match e.lastReset with
    | none => now
    | some t => .ok { t with offset := some (t.offset.getD 0) }
  return { messagesToday := e.messagesToday.getD 0
           messagesThisWeek := e.messagesThisWeek.getD 0
           imagesToday := e.imagesToday.getD 0
           videosThisWeek := e.videosThisWeek.getD 0
           lastReset }

end UsageEntry

def UsageRow.usage (r : UsageRow) : Quota.Usage :=
  { toSnapshot := r.toSnapshot, lastReset := { r.lastReset with offset := some 0 } }

/-- A status that is to be saved, of which parts may be missing. -/
structure StatusEntry where
  tenant : Option String
  state : Option String
  stopped : Option Bool
  deriving DecidableEq, Repr

def StatusEntry.ofStatus (tenant : String) (s : Conversation.Status) : StatusEntry :=
  { tenant := some tenant, state := some s.state.name, stopped := some s.stopped }

namespace StatusEntry

/-- The entry with the state of a new conversation where parts of it are missing. -/
def withDefaults (e : StatusEntry) : StatusEntry :=
  { e with
    state := some (e.state.getD Conversation.State.initial.name)
    stopped := some (e.stopped.getD false) }

/-- The statement that enters the row of a conversation. -/
def insertion (e : StatusEntry) (conversation : String) (now : Timestamp) : Statement :=
  .insert "conversation_states"
    [("conversation_id", .text conversation), ("tenant_id", .ofOption .text e.tenant),
      ("state", .ofOption .text e.state), ("automation_stopped", .ofOption .flag e.stopped),
      ("updated_at", .time now)]

/-- The statement that changes the row of a conversation; columns that stay as they are do not occur
in it. -/
def change (e : StatusEntry) (conversation : String) (old : ConversationRow) (now : Timestamp) :
    Statement :=
  .update "conversation_states" "conversation_id" conversation
    ((if e.state = some old.state then [] else [("state", .ofOption .text e.state)]) ++
      (if e.stopped = some old.stopped then []
        else [("automation_stopped", .ofOption .flag e.stopped)]) ++
      [("updated_at", .time now)])

/-- The row of a conversation that has none yet. -/
def newRow (e : StatusEntry) (conversation : String) (now : Timestamp) :
    Except WriteError ConversationRow :=
  match e.tenant with
  | none =>
    .error (.missing "conversation_states.tenant_id" (e.withDefaults.insertion conversation now))
  | some tenant =>
    .ok { tenant, state := e.state.getD Conversation.State.initial.name
          stopped := e.stopped.getD false, updatedAt := now.naive }

def changedRow (e : StatusEntry) (conversation : String) (old : ConversationRow)
    (now : Timestamp) : Except WriteError ConversationRow :=
  match e.state, e.stopped with
  | some state, some stopped => .ok { tenant := old.tenant, state, stopped, updatedAt := now.naive }
  | none, _ => .error (.missing "conversation_states.state" (e.change conversation old now))
  | _, none =>
    .error (.missing "conversation_states.automation_stopped" (e.change conversation old now))

end StatusEntry

end Archive

/-- The rows of all tenants and conversations, in the order in which they were first saved, and the
audit records. -/
structure Archive where
  usages : Table Archive.UsageRow := []
  conversations : Table Archive.ConversationRow := []
  audit : Audit.Store
  /-- What every write to the tables says while they are out of order. -/
  brokenTables : Option String := none
  /-- What every write to the memory of audit records says while it is out of order. -/
  brokenMemory : Option String := none
  deriving Repr, Inhabited

namespace Archive

/-- Tables that are out of order refuse every write, whatever it holds. -/
def whenInOrder {α : Type} (broken : Option String) (write : Except WriteError α) :
    Except WriteError α :=
  match broken with
  | some message => .error (.refused message)
  | none => write

/-- Saves the usage of a tenant. A new row takes defaults for missing counters; a row that is there
does not. -/
def saveUsage (a : Archive) (tenant : String) (e : UsageEntry) (now : Timestamp) :
    Except WriteError Archive :=
  whenInOrder a.brokenTables do
    if e.counters.any fun c => c.2.any UsageEntry.isTooLarge then throw .tooLarge
    let (e, statement) := match a.usages.find? tenant with
      | none => (e.withDefaults, e.withDefaults.insertion tenant now)
      | some old => (e, e.change tenant old now)
    match e.row? now with
    | none => throw (.missing (e.missing?.getD "") statement)
    | some row => return { a with usages := a.usages.put tenant row }

def saveStatus (a : Archive) (conversation : String) (e : StatusEntry) (now : Timestamp) :
    Except WriteError Archive :=
  whenInOrder a.brokenTables do
    let row ← match a.conversations.find? conversation with
      | none => e.newRow conversation now
      | some old => e.changedRow conversation old now
    return { a with conversations := a.conversations.put conversation row }

def append (a : Archive) (r : Audit.Record) : Except WriteError Archive :=
  let broken := match a.audit with
    | .memory _ => a.brokenMemory
    | .table _ => a.brokenTables
  whenInOrder broken do
    return { a with audit := ← a.audit.append r }

/-- The usage that was last saved for a tenant. -/
def usage? (a : Archive) (tenant : String) : Option Quota.Usage :=
  (a.usages.find? tenant).map UsageRow.usage

def saveErrorCode : String := "db_error"

def usageNotSaved (tenant : String) (e : WriteError) : Log.Notice :=
  { level := .error, part := "storage_service",
    message := "Failed to save quota usage for tenant " ++ tenant ++ ": " ++ e.message }

def statusNotSaved (conversation : String) (e : WriteError) : Log.Notice :=
  { level := .error, part := "storage_service",
    message := "Failed to save conversation " ++ conversation ++ ": " ++ e.message }

def skippedNotice (conversation state : String) : Log.Notice :=
  { level := .warning, part := "storage_service",
    message := "Skipping conversation " ++ conversation ++ " with unknown state " ++ state }

/-- How many tenants and conversations were resumed. -/
structure Resumed where
  tenants : Nat
  conversations : Nat
  deriving DecidableEq, Repr

def resumedNotice (r : Resumed) : Log.Notice :=
  { level := .info, part := "storage_service", message := "Snapshots restored",
    context := [("tenants", .int r.tenants), ("conversations", .int r.conversations)] }

/-- The saved status of a row, if its state is known. -/
def ConversationRow.status? (r : ConversationRow) : Option Conversation.Status :=
  (Conversation.State.named? r.state).map fun state => { state, stopped := r.stopped }

end Archive

end SalesDesk
