import SalesDesk.Detail

/-!
# Log

A log record has a level, the name of its logger, a message and a context. It is written as one
JSON line, in which the tenant and the conversation stand beside the message so that one
conversation can be followed through all loggers, or as one readable line. No line is made of a record
with a detail of which nothing can be written.
-/

namespace SalesDesk.Log

inductive Level where
  | notset
  | debug
  | info
  | warning
  | error
  | critical
  deriving DecidableEq, Repr

namespace Level

def name : Level → String
  | notset => "NOTSET"
  | debug => "DEBUG"
  | info => "INFO"
  | warning => "WARNING"
  | error => "ERROR"
  | critical => "CRITICAL"

def number : Level → Nat
  | notset => 0
  | debug => 10
  | info => 20
  | warning => 30
  | error => 40
  | critical => 50

/-- The level with a name; two levels have a second, shorter one. -/
def named? (s : String) : Option Level :=
  if s = "WARN" then some warning
  else if s = "FATAL" then some critical
  else [notset, debug, info, warning, error, critical].find? fun l => l.name = s

end Level

structure Record where
  time : Timestamp
  level : Level
  logger : String
  message : String
  context : Context := []
  /-- The text of the exception reported with the record. -/
  exception : Option String := none
  deriving Repr

def serviceName : String := "sellify-core"

def loggerName (part : String) : String := "sellify." ++ part

/-- The names that are lifted out of the context. -/
def correlationKeys : List String := ["tenant_id", "conversation_id"]

/-- The details that are lifted out of a context, in the order of the correlation keys. -/
def lifted (context : Context) : Context :=
  correlationKeys.filterMap fun key => (context.find? key).map fun d => (key, d)

def kept (context : Context) : Context := context.filter fun d => !correlationKeys.contains d.1

namespace Record

/-- The fields that every record has. -/
def head (r : Record) : Context :=
  [("timestamp", .str r.time.iso), ("service", .str serviceName), ("level", .str r.level.name),
    ("logger", .str r.logger), ("message", .str r.message)]

/-- All that is written of a record, as one detail. -/
def detail (r : Record) : Detail :=
  let rest := kept r.context
  .map (r.head ++ lifted r.context ++ (if rest.isEmpty then [] else [("context", .map rest)]) ++
    (r.exception.toList.map fun e => ("exception", .str e)))

/-- The record as one line of JSON, where lists and maps may be nested `room` deep. -/
def jsonLine (room : Nat) (r : Record) : Except Detail.WriteFault String :=
  match r.detail.fault? room with
  | some fault => .error fault
  | none => .ok r.detail.toJson.line

/-- A text with blanks after it, at least as long as `width`. -/
def padRight (width : Nat) (s : String) : String :=
  s ++ String.ofList (List.replicate (width - s.length) ' ')

/-- The record as a readable line, with the exception on a line of its own. -/
def consoleLine (room : Nat) (r : Record) : Except Detail.WriteFault String :=
  match Detail.faultOfMembers? room r.context with
  | some fault => .error fault
  | none => .ok (padRight 7 r.level.name ++ " " ++ r.logger ++ ": " ++ r.message ++
      (if r.context.isEmpty then ""
        else " " ++ " ".intercalate (r.context.map fun d => d.1 ++ "=" ++ d.2.text)) ++
      (r.exception.elim "" fun e => "\n" ++ e))

end Record

/-- A record before it is stamped with the time, by the part of the service that reports it. -/
structure Notice where
  level : Level
  part : String
  message : String
  context : Context := []
  deriving Repr

def Notice.record (n : Notice) (time : Timestamp) : Record :=
  { time, level := n.level, logger := loggerName n.part, message := n.message, context := n.context }

/-- The arguments of a log call that goes through a logger with details of its own. The details of
the call go on top of them, and both travel under one name; where there are none the other arguments
stay as they are. A logger that has no place for details cannot take those of a call. -/
def carried (own : Option (Table Json)) (arguments : Table Json) : Option (Table Json) :=
  let context := (arguments.find? "context").getD .null
  let others := arguments.filter fun a => a.1 ≠ "context"
  if !context.truthy && (own.getD []).isEmpty then some others
  else match own, if context.truthy then context else .obj [] with
    | some own, .obj details =>
      some (Table.put others "extra" (.obj [("context", .obj (Table.merge own details))]))
    | _, _ => none

/-- Milliseconds between two readings of a clock in seconds, with two decimal places. -/
def elapsedMs (started now : Binary64) : Binary64 :=
  ((now.sub started).mul (.ofInt 1000)).roundPlaces 2

/-- The notice of the time that a stage took; the context given goes on top. -/
def timing (part stage : String) (elapsed : Binary64) (context : Context := []) : Notice :=
  { level := .info, part, message := "Timing",
    context := Table.merge [("stage", .str stage), ("elapsed_ms", .float elapsed)] context }

inductive Format where
  | json
  | console
  deriving DecidableEq, Repr

/-- The set-up of the log: the least level that is written, and how. -/
structure Setup where
  level : Level
  format : Format
  deriving DecidableEq, Repr

/-- The set-up for the name of a level in any case; an unknown name means `INFO`. -/
def Setup.make (level : String) (json : Bool) : Setup :=
  { level := (Level.named? (Text.capitals level)).getD .info
    format := if json then .json else .console }

/-- The loggers of libraries, which are kept quiet, and the level from which they are heard. -/
def noisyLoggers : List String := ["httpx", "httpcore", "uvicorn.access"]

def noisyLevel : Level := .warning

end SalesDesk.Log
