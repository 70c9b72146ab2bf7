import SalesDesk.Json.Value
import SalesDesk.Text.Real
import SalesDesk.Text.WholeNumber
import SalesDesk.Time.Received

/-!
# Validation of data

Data from outside is read against the type that is expected of it. Reading is forgiving: a number
may come as a text, a flag as a word. All that is wrong is reported at once, each issue with its
place, its kind and the data it was found in, in the order of the fields.
-/

namespace SalesDesk.Validation

inductive Step where
  | field (name : String)
  | index (n : Nat)
  deriving DecidableEq, Repr

inductive Kind where
  | missing
  | string
  | integer
  | integerText
  | integerSize
  | integerFraction
  | notFinite
  | number
  | numberText
  | flag
  | flagText
  | list
  | object
  | belowMinimum
  | time
  | timeText
  | timeDate
  | json
  deriving DecidableEq, Repr

def Kind.name : Kind → String
  | missing => "missing"
  | string => "string_type"
  | integer => "int_type"
  | integerText => "int_parsing"
  | integerSize => "int_parsing_size"
  | integerFraction => "int_from_float"
  | notFinite => "finite_number"
  | number => "float_type"
  | numberText => "float_parsing"
  | flag => "bool_type"
  | flagText => "bool_parsing"
  | list => "list_type"
  | object => "model_attributes_type"
  | belowMinimum => "greater_than_equal"
  | time => "datetime_type"
  | timeText => "datetime_parsing"
  | timeDate => "datetime_from_date_parsing"
  | json => "json_invalid"

/-- Something wrong at a place, with the data that is there; data that is missing is missing from
the object given. -/
structure Issue where
  place : List Step
  kind : Kind
  input : Json
  deriving Repr

/-- Data that was read, or all that is wrong with it. -/
inductive Checked (α : Type) where
  | valid (value : α)
  | invalid (issues : List Issue)
  deriving Repr

namespace Checked

variable {α β : Type}

def map (f : α → β) : Checked α → Checked β
  | valid a => valid (f a)
  | invalid issues => invalid issues

/-- Both parts have to be valid; the issues of both are reported. -/
def apply (f : Checked (α → β)) (x : Checked α) : Checked β :=
  match f, x with
  | valid f, valid a => valid (f a)
  | valid _, invalid issues => invalid issues
  | invalid issues, valid _ => invalid issues
  | invalid issues, invalid more => invalid (issues ++ more)

instance : Applicative Checked where
  pure := valid
  map := map
  seq f x := apply f (x ())

def under (step : Step) : Checked α → Checked α
  | valid a => valid a
  | invalid issues => invalid (issues.map fun i => { i with place := step :: i.place })

def wrong (kind : Kind) (input : Json) : Checked α := invalid [⟨[], kind, input⟩]

end Checked

abbrev Rule (α : Type) := Json → Checked α

namespace Rule

def text : Rule String
  | .str s => .valid s
  | v => .wrong .string v

def optional {α : Type} (rule : Rule α) : Rule (Option α)
  | .null => .valid none
  | v => (rule v).map some

def integerOfText (s : String) : Checked Int :=
  match Text.readWholeNumber s with
  | .ok n => .valid n
  | .error .tooLong => .wrong .integerSize (.str s)
  | .error .malformed => .wrong .integerText (.str s)

/-- The integer that a number is equal to; a fraction has none, and a number of more than 63 bits is
not taken for one. -/
def integerOfNumber (x : Binary64) : Checked Int :=
  match x with
  | .finite _ _ =>
    match x.toInt? with
    | none => .wrong .integerFraction (.float x)
    | some n =>
      if -Word.bound 64 < n ∧ n < Word.bound 64 then .valid n else .wrong .integerSize (.float x)
  | _ => .wrong .notFinite (.float x)

def integer : Rule Int
  | .int n => .valid n
  | .bool b => .valid (if b then 1 else 0)
  | .float x => integerOfNumber x
  | .str s => integerOfText s
  | v => .wrong .integer v

/-- An integer that is at least zero. -/
def natural : Rule Int := fun v =>
  match integer v with
  | .valid n => if n < 0 then .wrong .belowMinimum v else .valid n
  | .invalid issues => .invalid issues

def number : Rule Binary64
  | .float x => .valid x
  | .int n =>
    match Binary64.ofInt n with
    | .infinite _ => .wrong .number (.int n)
    | x => .valid x
  | .bool b => .valid (.ofInt (if b then 1 else 0))
  | .str s =>
    match Text.readReal s with
    | some x => .valid x
    | none => .wrong .numberText (.str s)
  | v => .wrong .number v

def yesWords : List String := ["1", "true", "t", "yes", "y", "on"]

def noWords : List String := ["0", "false", "f", "no", "n", "off"]

/-- The flag for an integer, which has to be 1 or 0. -/
def flagOfInteger (n : Int) (input : Json) : Checked Bool :=
  if n = 1 then .valid true
  else if n = 0 then .valid false
  else if Word.fits 64 n then .wrong .flagText input
  else .wrong .flag input

def flag : Rule Bool
  | .bool b => .valid b
  | .int n => flagOfInteger n (.int n)
  | .float x =>
    match integerOfNumber x with
    | .valid n => flagOfInteger n (.float x)
    | .invalid _ => .wrong .flag (.float x)
  | .str s =>
    let word := String.ofList (s.toList.map Char.toLower)
    if yesWords.contains word then .valid true
    else if noWords.contains word then .valid false
    else .wrong .flagText (.str s)
  | v => .wrong .flag v

/-- A time that was read, or the issue with the data it was read from. -/
def timeOf (input : Json) : Except Timestamp.Misreading Timestamp → Checked Timestamp
  | .ok t => .valid t
  | .error .notTime => .wrong .timeDate input
  | .error .outOfCalendar => .wrong .timeText input

def time : Rule Timestamp
  | .str s => timeOf (.str s) (Timestamp.ofText s)
  | .int n =>
    match Binary64.ofInt n with
    | .infinite _ => .wrong .time (.int n)
    | _ => timeOf (.int n) (Timestamp.ofInteger n)
  | .float x => timeOf (.float x) (Timestamp.ofNumber x)
  | v => .wrong .time v

/-- Reads the items of a list; `index` is the place of the first one. -/
def items {α : Type} (rule : Rule α) (index : Nat) : List Json → Checked (List α)
  | [] => .valid []
  | v :: rest => (((rule v).under (.index index)).map List.cons).apply (items rule (index + 1) rest)

def list {α : Type} (rule : Rule α) : Rule (List α)
  | .arr vs => items rule 0 vs
  | v => .wrong .list v

def object {α : Type} (read : Table Json → Checked α) : Rule α
  | .obj members => read members
  | v => .wrong .object v

end Rule

def field {α : Type} (members : Table Json) (name : String) (rule : Rule α) : Checked α :=
  match members.find? name with
  | some v => (rule v).under (.field name)
  | none => (Checked.wrong .missing (.obj members)).under (.field name)

/-- Reads a member that may be left out. -/
def fieldOr {α : Type} (members : Table Json) (name : String) (rule : Rule α) (default : α) :
    Checked α :=
  match members.find? name with
  | some v => (rule v).under (.field name)
  | none => .valid default

/-- Reads a text or null under a name; without a member it is null. -/
def optionalText (members : Table Json) (name : String) : Checked (Option String) :=
  fieldOr members name (Rule.optional Rule.text) none

end SalesDesk.Validation
