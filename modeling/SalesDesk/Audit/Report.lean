import SalesDesk.Audit.Store

/-!
# Audit reports

A report counts the records of a stretch of time by action and by state, the conversations among
them, and how often the fallback text was sent.
-/

namespace SalesDesk.Audit

/-- How often each name occurs, in the order of first appearance. -/
abbrev Tally := List (Option String × Nat)

namespace Tally

def count (t : Tally) (name : Option String) : Tally :=
  match t with
  | [] => [(name, 1)]
  | (n, k) :: rest => if n = name then (n, k + 1) :: rest else (n, k) :: count rest name

def ofNames (names : List (Option String)) : Tally := names.foldl count []

/-- The tally as a JSON object; a missing name is written `null`. -/
def toJson (t : Tally) : Json := .obj (t.map fun e => (e.1.getD "null", .int e.2))

end Tally

/-- A report on a stretch of universal time. -/
structure Report where
  start : Timestamp
  stop : Timestamp
  total : Nat
  byAction : Tally
  byState : Tally
  fallbackSent : Nat
  conversations : Nat
  deriving DecidableEq, Repr

namespace Report

/-- The report on some records; an empty fallback is not counted. -/
def ofRecords (start stop : Timestamp) (fallback : String) (records : List Record) : Report :=
  { start, stop
    total := records.length
    byAction := Tally.ofNames (records.map fun r => r.action)
    byState := Tally.ofNames (records.map fun r => r.state)
    fallbackSent :=
      if fallback = "" then 0 else (records.filter fun r => r.sent = some (.text fallback)).length
    conversations := (Tally.ofNames (records.map fun r => r.conversation)).length }

/-- The report on the records of a store. Bounds without offset are universal time. -/
def make (s : Store) (fallback : String) (start stop : Timestamp) : Except TimeError Report := do
  let start ← start.asUtc
  let stop ← stop.asUtc
  return ofRecords start stop fallback (s.between start stop)

/-- The report as a JSON object, with its bounds written as asked. -/
def toJson (stamp : Timestamp → String) (r : Report) : Json :=
  .obj [("start", .str (stamp r.start)), ("end", .str (stamp r.stop)), ("total", .int r.total),
    ("by_action", r.byAction.toJson), ("by_state", r.byState.toJson),
    ("fallback_sent", .int r.fallbackSent), ("conversations", .int r.conversations)]

end Report

end SalesDesk.Audit
