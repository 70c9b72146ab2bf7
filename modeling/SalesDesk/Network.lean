import SalesDesk.Json.Value
import SalesDesk.Table

/-!
# Requests to other services

The desk talks to two services: one delivers alerts, one generates texts. What it sends is a list
of posts, and what comes back is given to it as data.
-/

namespace SalesDesk

structure Post where
  url : String
  json : Json
  headers : Option (Table String) := none
  timeout : Json
  deriving Repr

inductive Answer where
  | status (code : Int) (body : Json)
  | timeout
  | failed (message : String)
  deriving Repr, Inhabited

namespace Answer

/-- The text of the failure of a request that took too long. -/
def timeoutMessage : String := "slow"

end Answer

/-- The answers of the two services, for as long as they stay the same. -/
structure Network where
  alerts : Answer := .status 200 (.obj [])
  completions : Answer := .status 200 (.obj [])
  deriving Repr, Inhabited

end SalesDesk
