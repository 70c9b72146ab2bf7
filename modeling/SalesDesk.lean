import SalesDesk.Action
import SalesDesk.Alert
import SalesDesk.Archive
import SalesDesk.Audit.Report
import SalesDesk.Conversation.Registry
import SalesDesk.Generation.Reply
import SalesDesk.Http.Answer
import SalesDesk.Http.Client
import SalesDesk.Json.Reader
import SalesDesk.Proofs.Alert.Keywords
import SalesDesk.Proofs.Audit.Reports
import SalesDesk.Proofs.Conversation.Runs
import SalesDesk.Proofs.Desk.Accounting
import SalesDesk.Proofs.Desk.Alarm
import SalesDesk.Proofs.Desk.Ceiling
import SalesDesk.Proofs.Desk.DoubleLock
import SalesDesk.Proofs.Desk.Durability
import SalesDesk.Proofs.Desk.Firing
import SalesDesk.Proofs.Desk.Foretelling
import SalesDesk.Proofs.Desk.Guarded
import SalesDesk.Proofs.Desk.Halting
import SalesDesk.Proofs.Desk.Hostility
import SalesDesk.Proofs.Desk.Isolation
import SalesDesk.Proofs.Desk.LostRecord
import SalesDesk.Proofs.Desk.Pacing
import SalesDesk.Proofs.Desk.Reading
import SalesDesk.Proofs.Desk.Speaking
import SalesDesk.Proofs.Desk.StaleWindow
import SalesDesk.Proofs.Desk.Trace
import SalesDesk.Proofs.Desk.Trail
import SalesDesk.Proofs.Desk.Unanswered
import SalesDesk.Proofs.Desk.Wording
import SalesDesk.Proofs.Generation.Forbidden
import SalesDesk.Proofs.Hours
import SalesDesk.Proofs.Http.Products
import SalesDesk.Proofs.Log
import SalesDesk.Quota.Schedule
import SalesDesk.Result
import SalesDesk.Settings
import SalesDesk.Time.Duration
