import SalesDesk.Log
import SalesDesk.Words

/-!
# Audit records

For every message that was handled one record is kept: what came in, in which state, what was done
about it and why, what the generator was asked and said, what was sent, and the counters before and
after. Records are only ever added.
-/

namespace SalesDesk.Audit

structure Entry where
  conversation : Option String
  message : Option String
  state : Option String
  action : Option String
  before : Quota.Snapshot
  after : Quota.Snapshot
  details : Option Words := none
  prompt : Option String := none
  response : Option Words := none
  sent : Option Words := none
  deriving DecidableEq, Repr

/-- An entry with its id, at a time that is given in universal time. -/
structure Record extends Entry where
  id : String
  time : Timestamp
  deriving DecidableEq, Repr

def idText (n : Int) : String := "audit-" ++ toString n

namespace Record

/-- The record as a JSON object, with its time written as asked. -/
def toJson (stamp : Timestamp → String) (r : Record) : Json :=
  .obj [("id", .str r.id), ("timestamp", .str (stamp r.time)),
    ("conversation_id", .ofOption .str r.conversation),
    ("incoming_message", .ofOption .str r.message), ("state", .ofOption .str r.state),
    ("chosen_action", .ofOption .str r.action), ("action_details", .ofOption Words.toJson r.details),
    ("ai_prompt", .ofOption .str r.prompt), ("ai_response", .ofOption Words.toJson r.response),
    ("sent_message", .ofOption Words.toJson r.sent), ("quotas_before", r.before.toJson),
    ("quotas_after", r.after.toJson)]

def writtenNotice (r : Record) : Log.Notice :=
  { level := .info, part := "audit_service", message := "Audit record written",
    context := [("audit_id", .str r.id), ("conversation_id", .text? r.conversation),
      ("action", .text? r.action), ("state", .text? r.state)] }

def failedNotice (r : Record) (error : String) : Log.Notice :=
  { level := .error, part := "audit_service", message := "Audit write failed",
    context := [("audit_id", .str r.id), ("conversation_id", .text? r.conversation),
      ("error", .str error)] }

end Record

def writeErrorCode : String := "audit_write_error"

end SalesDesk.Audit
