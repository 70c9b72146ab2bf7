import SalesDesk.Number.Word
import SalesDesk.Text.Integer
import SalesDesk.Time.Zone

/-!
# Opening hours

Automation is active from a start to an end, given as clock times of a zone. Hours whose start is
later than their end run past midnight, and equal ones never close.
-/

namespace SalesDesk

inductive HoursError where
  | unknownZone (name : String)
  | time (e : TimeError)
  /-- A clock time without a colon. -/
  | noColon
  | integer (e : Text.IntegerError)
  /-- An hour or a minute that no machine integer holds. -/
  | beyondLong
  | beyondMaximum
  | beyondMinimum
  | hour
  | minute
  deriving DecidableEq, Repr

namespace HoursError

def message : HoursError → String
  | unknownZone name => "No time zone found with key " ++ name
  | time e => e.message
  | noColon => "not enough values to unpack (expected 2, got 1)"
  | integer e => e.message
  | beyondLong => "Python int too large to convert to C long"
  | beyondMaximum => "signed integer is greater than maximum"
  | beyondMinimum => "signed integer is less than minimum"
  | hour => "hour must be in 0..23"
  | minute => "minute must be in 0..59"

end HoursError

structure Hours where
  start : String := "09:00"
  stop : String := "18:00"
  zone : String := "UTC"
  deriving DecidableEq, Repr, Inhabited

namespace Hours

/-- The parts of a text before and after its first colon. -/
def splitColon : List Char → Option (List Char × List Char)
  | [] => none
  | c :: rest =>
    if c = ':' then some ([], rest) else (splitColon rest).map fun p => (c :: p.1, p.2)

/-- Integers have to fit into a word of 32 bits before they are taken for hours and minutes. -/
def checkWord (n : Int) : Except HoursError Unit :=
  if !Word.fits 64 n then .error .beyondLong
  else if n < -Word.bound 32 then .error .beyondMinimum
  else if Word.bound 32 ≤ n then .error .beyondMaximum
  else .ok ()

def readPart (cs : List Char) : Except HoursError Int :=
  match Text.readInteger (String.ofList cs) with
  | .ok n => .ok n
  | .error e => .error (.integer e)

/-- Reads a clock time, as minutes from midnight. -/
def clock (s : String) : Except HoursError Nat := do
  match splitColon (Text.trim Text.isBlank s.toList) with
  | none => .error .noColon
  | some (before, after) =>
    let hours ← readPart before
    let minutes ← readPart after
    checkWord hours
    checkWord minutes
    if hours < 0 ∨ 24 ≤ hours then .error .hour
    else if minutes < 0 ∨ 60 ≤ minutes then .error .minute
    else return (hours * 60 + minutes).toNat

/-- Is a time of day within the hours from start to stop? All are counted in the same unit from
midnight. -/
def within (start stop timeOfDay : Nat) : Bool :=
  if start = stop then true
  else if start < stop then start ≤ timeOfDay && timeOfDay < stop
  else start ≤ timeOfDay || timeOfDay < stop

/-- Minutes as microseconds. -/
def minute : Nat := 60000000

/-- Is a time within the hours on clocks with an offset for each instant? -/
def isOpenOn (h : Hours) (offsetAt : Int → Int) (t : Timestamp) : Except HoursError Bool := do
  match t.onClock offsetAt with
  | .error e => .error (.time e)
  | .ok there =>
    let start ← clock h.start
    let stop ← clock h.stop
    return within (start * minute) (stop * minute) there.timeOfDay

/-- Is a time within the hours, in the zone that a database has under the name of theirs? -/
def isOpen (h : Hours) (zones : Zone.Database) (t : Timestamp) : Except HoursError Bool :=
  match zones.offsets? h.zone with
  | none => .error (.unknownZone h.zone)
  | some offsetAt => h.isOpenOn offsetAt t

end Hours

end SalesDesk
