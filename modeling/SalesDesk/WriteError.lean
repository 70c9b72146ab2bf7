import SalesDesk.Statement

/-!
# Failed writes

What a table refuses, and what becomes of a write to a store that is out of order. A write that
fails leaves nothing behind.
-/

namespace SalesDesk

/-- Why a write had no effect. Columns are given with their table. -/
inductive WriteError where
  /-- The store is out of order. -/
  | refused (message : String)
  /-- A value at a place of a statement is of a kind that no column holds. -/
  | unbound (place : Nat) (kind : String) (statement : Statement)
  /-- A column that needs a value got none. -/
  | missing (column : String) (statement : Statement)
  /-- A key is there already. -/
  | taken (column : String) (statement : Statement)
  /-- An integer has more than 64 bits. -/
  | tooLarge
  deriving DecidableEq, Repr

namespace WriteError

/-- What is said of a statement that failed, with the code under which this is explained. -/
def failed (reason code : String) (statement : Statement) : String :=
  reason ++ "\n" ++ statement.report ++ "\n(Background on this error at: https:" ++
    "//sqlalche.me/e/21/" ++ code ++ ")"

/-- A broken constraint, with the statement that broke it. -/
def broken (constraint column : String) (statement : Statement) : String :=
  failed ("(sqlite3.IntegrityError) " ++ constraint ++ " constraint failed: " ++ column) "gkpj"
    statement

def message : WriteError → String
  | refused message => message
  | unbound place kind statement =>
    failed ("(sqlite3.ProgrammingError) Error binding parameter " ++ toString place ++ ": type '" ++
      kind ++ "' is not supported") "f405" statement
  | missing column statement => broken "NOT NULL" column statement
  | taken column statement => broken "UNIQUE" column statement
  | tooLarge => "Python int too large to convert to SQLite INTEGER"

end WriteError

/-- The first column without a value, of columns in their order in the table. -/
def firstMissing? (columns : List (String × Bool)) : Option String :=
  (columns.find? fun c => !c.2).map (·.1)

end SalesDesk
