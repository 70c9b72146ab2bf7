/-!
# Results

The outcome of an operation whose failure is expected and handled where it happens: rejected texts,
lost audit records and failed snapshots travel as failures with a text and a code.
-/

namespace SalesDesk

/-- A success with a value, or a failure with a text and a code. -/
inductive Result (α : Type) where
  | success (value : α)
  | failure (error code : String)
  deriving DecidableEq, Repr

namespace Result

variable {α : Type}

/-- The code of a failure that has none of its own. -/
def unknownCode : String := "unknown"

def isOk : Result α → Bool
  | success _ => true
  | failure _ _ => false

/-- The value of a success, and a default for a failure. -/
def unwrapOr (default : α) : Result α → α
  | success value => value
  | failure _ _ => default

end Result

end SalesDesk
