import SalesDesk.Json.Printer
import SalesDesk.Json.Reader
import SalesDesk.Quota.Usage
import SalesDesk.Text.Quoted

/-!
# Details

A detail is a value that is reported beside a message, in a log line or in an alert: plain data, a
time, or the counters of a tenant. A context is an ordered list of named details. Details have a
text of their own for people to read and a form in JSON. Neither is made of an integer with too many
digits, nor of lists and maps that are nested more deeply than there is room for.
-/

namespace SalesDesk

inductive Detail where
  | null
  | bool (b : Bool)
  | int (n : Int)
  | float (x : Binary64)
  | str (s : String)
  | list (items : List Detail)
  | map (members : List (String × Detail))
  | time (t : Timestamp)
  | counters (s : Quota.Snapshot)
  deriving Repr, Inhabited

abbrev Context := Table Detail

namespace Detail

/-- An offset from universal time, spelled out. -/
def offsetText (offset : Int) : String :=
  if offset = 0 then "datetime.timezone.utc"
  else if offset < 0 then
    "datetime.timezone(datetime.timedelta(days=-1, seconds=" ++ toString (offset + 86400) ++ "))"
  else "datetime.timezone(datetime.timedelta(seconds=" ++ toString offset ++ "))"

/-- A time, spelled out part by part; seconds and microseconds only where they are not zero. -/
def timeText (t : Timestamp) : String :=
  let d := Calendar.dateOf t.dayNumber
  let s := t.timeOfDay / 1000000
  let us := t.timeOfDay % 1000000
  let parts := [d.year, d.month, d.day, s / 3600, s / 60 % 60] ++
    (if us ≠ 0 then [s % 60, us] else if s % 60 ≠ 0 then [s % 60] else [])
  "datetime.datetime(" ++ ", ".intercalate (parts.map toString) ++
    (t.offset.elim "" fun o => ", tzinfo=" ++ offsetText o) ++ ")"

mutual

/-- The text of a detail inside another one, where texts are quoted. -/
def inner : Detail → String
  | null => "None"
  | bool true => "True"
  | bool false => "False"
  | int n => toString n
  | float x => String.ofList (Decimal.text x)
  | str s => Text.quoted s
  | list items => "[" ++ innerItems items ++ "]"
  | map members => "\x7b" ++ innerMembers members ++ "\x7d"
  | time t => timeText t
  | counters s => s.text

def innerItems : List Detail → String
  | [] => ""
  | [d] => inner d
  | d :: rest => inner d ++ ", " ++ innerItems rest

def innerMembers : List (String × Detail) → String
  | [] => ""
  | [(name, d)] => Text.quoted name ++ ": " ++ inner d
  | (name, d) :: rest => Text.quoted name ++ ": " ++ inner d ++ ", " ++ innerMembers rest

end

def text : Detail → String
  | str s => s
  | time t => t.text
  | d => d.inner

mutual

/-- A detail in JSON; times and counters become their texts. -/
def toJson : Detail → Json
  | null => .null
  | bool b => .bool b
  | int n => .int n
  | float x => .float x
  | str s => .str s
  | list items => .arr (itemsToJson items)
  | map members => .obj (membersToJson members)
  | time t => .str t.text
  | counters s => .str s.text

def itemsToJson : List Detail → List Json
  | [] => []
  | d :: rest => toJson d :: itemsToJson rest

def membersToJson : List (String × Detail) → List (String × Json)
  | [] => []
  | (name, d) :: rest => (name, toJson d) :: membersToJson rest

end

mutual

def ofJson : Json → Detail
  | .null => null
  | .bool b => bool b
  | .int n => int n
  | .float x => float x
  | .str s => str s
  | .arr items => list (itemsOfJson items)
  | .obj members => map (membersOfJson members)

def itemsOfJson : List Json → List Detail
  | [] => []
  | v :: rest => ofJson v :: itemsOfJson rest

def membersOfJson : List (String × Json) → List (String × Detail)
  | [] => []
  | (name, v) :: rest => (name, ofJson v) :: membersOfJson rest

end

/-- Why nothing can be written of a detail. -/
inductive WriteFault where
  | tooManyDigits
  | tooDeep
  deriving DecidableEq, Repr

def WriteFault.message : WriteFault → String
  | tooManyDigits =>
    "Exceeds the limit (4300 digits) for integer string conversion; " ++
      "use sys.set_int_max_str_digits() to increase the limit"
  | tooDeep => "maximum recursion depth exceeded"

/-- Has an integer more digits than are written? -/
def isTooLong (n : Int) : Bool := Json.maxDigits < (Decimal.digits n.natAbs).length

mutual

/-- What keeps a detail from being written where lists and maps may be nested `room` deep: the first
obstacle from the front. -/
def fault? (room : Nat) : Detail → Option WriteFault
  | int n => if isTooLong n then some .tooManyDigits else none
  | counters s => if s.fields.any fun f => isTooLong f.2 then some .tooManyDigits else none
  | list items => if room = 0 then some .tooDeep else faultOfItems? (room - 1) items
  | map members => if room = 0 then some .tooDeep else faultOfMembers? (room - 1) members
  | _ => none

def faultOfItems? (room : Nat) : List Detail → Option WriteFault
  | [] => none
  | d :: rest => (fault? room d).or (faultOfItems? room rest)

def faultOfMembers? (room : Nat) : List (String × Detail) → Option WriteFault
  | [] => none
  | (_, d) :: rest => (fault? room d).or (faultOfMembers? room rest)

end

def ofOption {α : Type} (f : α → Detail) : Option α → Detail
  | none => null
  | some a => f a

def text? : Option String → Detail := ofOption str

def ofSnapshot (s : Quota.Snapshot) : Detail := map (s.fields.map fun f => (f.1, int f.2))

end Detail

end SalesDesk
