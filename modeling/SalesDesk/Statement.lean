import SalesDesk.Text.Quoted
import SalesDesk.Time.Timestamp

/-!
# Statements

What a table is told: to take a new row, or to change the row of a key. A statement names its columns
and leaves a place for each value; the values stand beside it. Both are reported where a table
refuses a statement.
-/

namespace SalesDesk

/-- A value for a row of a table. Times are kept as text and flags as numbers; a foreign value is one
that no row can hold, given by its kind and as it is shown. -/
inductive Cell where
  | null
  | int (n : Int)
  | text (s : String)
  | foreign (kind shown : String)
  deriving DecidableEq, Repr

namespace Cell

def ofOption {α : Type} (f : α → Cell) : Option α → Cell
  | none => null
  | some a => f a

def flag (b : Bool) : Cell := int (if b then 1 else 0)

def time (t : Timestamp) : Cell := text t.columnText

/-- The most characters of a value that are reported. -/
def maxShown : Nat := 300

/-- A text whose middle is left out if it is too long to be reported. -/
def shortened (cs : List Char) : String :=
  if cs.length ≤ maxShown then String.ofList cs
  else
    let half := maxShown / 2
    String.ofList (cs.take half) ++ " ... (" ++ toString (cs.length - maxShown) ++
      " characters truncated) ... " ++ String.ofList (cs.drop (cs.length - half))

def shown : Cell → String
  | null => "None"
  | int n => shortened (toString n).toList
  | text s => shortened (Text.quotedChars s.toList)
  | foreign _ shown => shortened shown.toList

/-- The kind of the first foreign value of some cells, with its place, where the first cell has the
given one. -/
def firstForeign? (place : Nat) : List Cell → Option (Nat × String)
  | [] => none
  | foreign kind _ :: _ => some (place, kind)
  | _ :: rest => firstForeign? (place + 1) rest

theorem firstForeign?_eq_none_iff {cells : List Cell} (place : Nat) :
    firstForeign? place cells = none ↔ ∀ kind shown, foreign kind shown ∉ cells := by
  induction cells generalizing place with
  | nil => simp [firstForeign?]
  | cons c rest ih =>
    cases c with
    | foreign kind shown => exact ⟨nofun, fun h => absurd (List.mem_cons_self ..) (h kind shown)⟩
    | _ => simp [firstForeign?, ih]

end Cell

structure Statement where
  text : String
  cells : List Cell
  deriving DecidableEq, Repr

namespace Statement

/-- Values under the names of their columns, in the order of the columns. -/
abbrev Columns := List (String × Cell)

def insert (table : String) (columns : Columns) : Statement :=
  { text := "INSERT INTO " ++ table ++ " (" ++ ", ".intercalate (columns.map (·.1)) ++
      ") VALUES (" ++ ", ".intercalate (columns.map fun _ => "?") ++ ")"
    cells := columns.map (·.2) }

def update (table key id : String) (changes : Columns) : Statement :=
  { text := "UPDATE " ++ table ++ " SET " ++ ", ".intercalate (changes.map fun c => c.1 ++ "=?") ++
      " WHERE " ++ table ++ "." ++ key ++ " = ?"
    cells := changes.map (·.2) ++ [.text id] }

/-- The statement as it is reported: its text and its values, a line each. -/
def report (s : Statement) : String :=
  "[SQL: " ++ s.text ++ "]\n[parameters: (" ++ ", ".intercalate (s.cells.map Cell.shown) ++ ")]"

end Statement

end SalesDesk
