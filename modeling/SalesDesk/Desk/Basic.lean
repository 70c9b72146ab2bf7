import SalesDesk.Archive
import SalesDesk.Audit.Report
import SalesDesk.Quota.Schedule
import SalesDesk.Result
import SalesDesk.Settings

/-!
# The desk

A desk answers the messages of clients for many tenants. A process holds the catalogue, the accounts
of the tenants and the status of the conversations in memory; settings and archive outlive it. What
the desk gets from outside is part of it as well: the clock, the numbers that are drawn at random,
and the answers of other services. What it sends out is collected in an outbox.

A desk is always at one process, the newest one. What began in a process that has been replaced in
the meantime ends there, by `Desk.onProcess`.

An act is something that the desk does. It changes the desk and has a result or ends in a fault; an
act that ends in a fault keeps the changes that were made before.
-/

namespace SalesDesk

/-- Numbers drawn at random: a list that is gone through again and again. -/
structure Draws where
  numbers : List Int := [0]
  taken : Nat := 0
  deriving DecidableEq, Repr, Inhabited

namespace Draws

/-- The next number from `low` to `high`. -/
def next (d : Draws) (low high : Int) : Int :=
  low + (d.numbers.getD (d.taken % d.numbers.length) 0) % (high - low + 1)

def advance (d : Draws) : Draws := { d with taken := d.taken + 1 }

end Draws

/-- What the desk has sent out: log records, and requests to other services. -/
structure Outbox where
  records : List Log.Record := []
  posts : List Post := []
  deriving Repr, Inhabited

structure Process where
  generator : Option Generation.Generator
  catalogue : Catalogue := []
  ledger : Quota.Ledger
  registry : Conversation.Registry := []
  schedule : Quota.Schedule := {}
  deriving Repr, Inhabited

/-- A process that begins, with the generator given to it or else the one of its settings. -/
def Process.new (settings : Settings) (given : Option Generation.Generator) : Process :=
  { generator := given.or settings.service?, ledger := { defaults := settings.limits } }

/-- A desk: the process that it is at, and what outlives this process. -/
structure Desk extends Process where
  settings : Settings
  /-- The generator that a new process is given. -/
  given : Option Generation.Generator := none
  /-- The processes that were replaced, the oldest first. -/
  earlier : List Process := []
  archive : Archive
  /-- The clock as it is set, whatever its offset. -/
  clock : Timestamp
  draws : Draws := {}
  /-- The number in the id of the last audit record. -/
  lastId : Int := 0
  network : Network := {}
  outbox : Outbox := {}
  deriving Repr, Inhabited

inductive Fault where
  | quota (e : Quota.Error)
  | hours (e : HoursError)
  | time (e : TimeError)
  /-- A generator gave a completion that is no text. -/
  | notText (content : Json)
  /-- Data of the desk does not have the form in which it has to be answered. -/
  | unfit (issues : List Validation.Issue)
  /-- A number that has no form in an answer. -/
  | noNumber
  /-- Half of a character is escaped in a request, which no text here can hold. -/
  | halfCharacter
  deriving Repr

namespace Fault

/-- What is said of a fault where it stops an errand. -/
def message : Fault → String
  | quota e => e.message
  | hours e => e.message
  | time e => e.message
  | notText content => Generation.notTextMessage content
  | unfit issues => toString issues.length ++ " validation errors"
  | noNumber => "Out of range float values are not JSON compliant"
  | halfCharacter => "half of a character in a request"

end Fault

/-- What a desk does: a result or a fault, and the desk afterwards. -/
def Act (α : Type) := Desk → Except Fault α × Desk

namespace Act

variable {α β : Type}

def run (act : Act α) (d : Desk) : Except Fault α × Desk := act d

instance : Monad Act where
  pure a := fun d => (.ok a, d)
  bind act next := fun d =>
    match act d with
    | (.ok a, d) => next a d
    | (.error e, d) => (.error e, d)

theorem run_pure (a : α) (d : Desk) : (pure a : Act α).run d = (.ok a, d) := rfl

theorem run_bind_ok {act : Act α} {next : α → Act β} {d later : Desk} {a : α}
    (h : act.run d = (.ok a, later)) : (act >>= next).run d = (next a).run later := by
  show (match act d with
    | (.ok a, d) => next a d
    | (.error e, d) => (.error e, d)) = _
  have : act d = (.ok a, later) := h
  rw [this]
  rfl

theorem run_bind_error {act : Act α} {next : α → Act β} {d later : Desk} {e : Fault}
    (h : act.run d = (.error e, later)) : (act >>= next).run d = (.error e, later) := by
  show (match act d with
    | (.ok a, d) => next a d
    | (.error e, d) => (.error e, d)) = _
  have : act d = (.error e, later) := h
  rw [this]

def fail (e : Fault) : Act α := fun d => (.error e, d)

def look (f : Desk → α) : Act α := fun d => (.ok (f d), d)

def change (f : Desk → Desk) : Act Unit := fun d => (.ok (), f d)

/-- Takes a result, or ends in the fault that stands for its error. -/
def ofExcept {ε : Type} (fault : ε → Fault) : Except ε α → Act α
  | .ok a => pure a
  | .error e => fail (fault e)

end Act

namespace Desk

def new (settings : Settings) (given : Option Generation.Generator) (archive : Archive)
    (clock : Timestamp) : Desk :=
  { toProcess := .new settings given, settings, given, archive, clock }

/-- The desk at a new process, which finds the archive and nothing else. -/
def restarted (d : Desk) : Desk :=
  { d with toProcess := .new d.settings d.given, earlier := d.earlier ++ [d.toProcess] }

/-- The desk with an empty outbox. -/
def withEmptyOutbox (d : Desk) : Desk := { d with outbox := {} }

/-- The number of the newest process. -/
def number (d : Desk) : Nat := d.earlier.length

/-- Runs an act on the process with a number, which may have been replaced; the desk stays at the
newest one. -/
def onProcess {α : Type} (number : Nat) (act : Act α) : Act α := fun d =>
  match d.earlier[number]? with
  | none => act d
  | some process =>
    let (r, after) := act { d with toProcess := process }
    (r, { after with
          toProcess := d.toProcess, earlier := after.earlier.set number after.toProcess })

/-- The time in universal time, where the clock can be converted. -/
def now : Act Timestamp := fun d =>
  match d.clock.toUtc with
  | .ok t => (.ok t, d)
  | .error e => (.error (.time e), d)

/-- Writes notices to the log, each with the time at which it is written. -/
def notify : List Log.Notice → Act Unit
  | [] => return ()
  | n :: rest => do
    let time ← now
    Act.change fun d =>
      { d with outbox := { d.outbox with records := d.outbox.records ++ [n.record time] } }
    notify rest

def send (posts : List Post) : Act Unit :=
  Act.change fun d => { d with outbox := { d.outbox with posts := d.outbox.posts ++ posts } }

/-- The base of a pause, drawn at random. -/
def drawBase : Act Int := fun d =>
  (.ok (d.draws.next Quota.baseDelayMin Quota.baseDelayMax), { d with draws := d.draws.advance })

theorem run_onProcess_newest {α : Type} (act : Act α) (d : Desk) :
    (onProcess d.number act).run d = act.run d := by
  simp [onProcess, Act.run, number]

end Desk

end SalesDesk
