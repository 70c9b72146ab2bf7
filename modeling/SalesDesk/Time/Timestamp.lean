import SalesDesk.Number.Decimal
import SalesDesk.Time.Calendar

/-!
# Timestamps

A timestamp is the reading of a clock, to the microsecond, together with the distance of that clock
from universal time where it is known. A timestamp without it is taken for universal time. Clocks
read from the first instant of year 1 to the last one of year 9999.
-/

namespace SalesDesk

structure Timestamp where
  /-- Microseconds from the start of year 1 to the reading. -/
  wall : Int
  /-- Seconds by which the clock is ahead of universal time, where known. -/
  offset : Option Int
  deriving DecidableEq, Repr, Inhabited

inductive TimeError where
  /-- The result lies outside the years 1 to 9999. -/
  | outOfRange
  /-- A clock of unknown offset reads a time on the first day of year 1, where a clock set back
  cannot be excluded. -/
  | yearZero
  deriving DecidableEq, Repr

namespace TimeError

def message : TimeError → String
  | outOfRange => "date value out of range"
  | yearZero => "year 0 is out of range"

end TimeError

namespace Timestamp

def second : Int := 1000000

def day : Int := 86400 * second

/-- The end of the last year. -/
def wallEnd : Int := Calendar.dayCount * day

/-- A reading of a clock, where it is within the calendar. -/
def mk? (wall : Int) (offset : Option Int) : Except TimeError Timestamp :=
  if 0 ≤ wall ∧ wall < wallEnd then .ok ⟨wall, offset⟩ else .error .outOfRange

/-- Microseconds of universal time from the start of year 1. -/
def instant (t : Timestamp) : Int := t.wall - t.offset.getD 0 * second

/-- The same instant on a clock of universal time. -/
def toUtc (t : Timestamp) : Except TimeError Timestamp :=
  if t.offset = none ∧ t.wall < day then .error .yearZero else mk? t.instant (some 0)

/-- The same instant on a clock that is ahead of universal time by so many seconds at each
instant. -/
def onClock (offsetAt : Int → Int) (t : Timestamp) : Except TimeError Timestamp := do
  let u ← t.toUtc
  mk? (u.wall + offsetAt u.wall * second) (some (offsetAt u.wall))

/-- The reading taken for universal time where its offset is unknown, and else the same instant on
a clock of universal time. -/
def asUtc (t : Timestamp) : Except TimeError Timestamp :=
  match t.offset with
  | none => .ok { t with offset := some 0 }
  | some _ => t.toUtc

/-- The reading without its offset. -/
def naive (t : Timestamp) : Timestamp := { t with offset := none }

def dayNumber (t : Timestamp) : Nat := (t.wall / day).toNat

/-- The time of day of a reading on its own clock, in microseconds. -/
def timeOfDay (t : Timestamp) : Nat := (t.wall % day).toNat

/-- The reading some microseconds later. -/
def add (t : Timestamp) (microseconds : Int) : Except TimeError Timestamp :=
  mk? (t.wall + microseconds) t.offset

def twoDigits (n : Nat) : List Char := Decimal.padded 2 n

/-- An offset as hours and minutes, with its seconds if it has any. -/
def offsetText (offset : Int) : List Char :=
  let n := offset.natAbs
  (if offset < 0 then '-' else '+') :: twoDigits (n / 3600) ++ ':' :: twoDigits (n / 60 % 60) ++
    (if n % 60 = 0 then [] else ':' :: twoDigits (n % 60))

/-- The fraction of a second, with six digits, if there is one. -/
def fractionText (microseconds : Nat) : List Char :=
  if microseconds = 0 then [] else '.' :: Decimal.padded 6 microseconds

def dateText (t : Timestamp) : List Char :=
  let d := Calendar.dateOf t.dayNumber
  Decimal.padded 4 d.year ++ '-' :: twoDigits d.month ++ '-' :: twoDigits d.day

def timeText (t : Timestamp) : List Char :=
  let s := t.timeOfDay / 1000000
  twoDigits (s / 3600) ++ ':' :: twoDigits (s / 60 % 60) ++ ':' :: twoDigits (s % 60) ++
    fractionText (t.timeOfDay % 1000000)

/-- Date, separator, time of day and offset. -/
def textWith (separator : Char) (t : Timestamp) : String :=
  String.ofList (t.dateText ++ separator :: t.timeText ++ (t.offset.elim [] offsetText))

/-- The text of a reading as it is kept in a column: six decimal places and no offset. -/
def columnText (t : Timestamp) : String :=
  let s := t.timeOfDay / 1000000
  String.ofList (t.dateText ++ ' ' :: twoDigits (s / 3600) ++ ':' :: twoDigits (s / 60 % 60) ++
    ':' :: twoDigits (s % 60) ++ '.' :: Decimal.padded 6 (t.timeOfDay % 1000000))

/-- The text with a `T` between date and time. -/
def iso (t : Timestamp) : String := t.textWith 'T'

def text (t : Timestamp) : String := t.textWith ' '

/-- The text with a `T`, and with a `Z` for universal time. -/
def isoZulu (t : Timestamp) : String :=
  if t.offset = some 0 then String.ofList (t.dateText ++ 'T' :: t.timeText ++ ['Z']) else t.iso

namespace Reader

/-- A number of exactly `width` digits at the front. -/
def fixed (width : Nat) (cs : List Char) : Option (Nat × List Char) :=
  let ds := cs.take width
  if ds.length = width ∧ ds.all Char.isDigit then some (Decimal.ofDigits ds, cs.drop width) else none

def mark (c : Char) : List Char → Option (List Char)
  | d :: rest => if d = c then some rest else none
  | [] => none

/-- A date at the front, that there is in its year. -/
def date (cs : List Char) : Option (Calendar.Date × List Char) := do
  let (year, cs) ← fixed 4 cs
  let (month, cs) ← fixed 2 (← mark '-' cs)
  let (day, cs) ← fixed 2 (← mark '-' cs)
  let date : Calendar.Date := ⟨year, month, day⟩
  if date.isDayOfYear then return (date, cs) else none

/-- Does a character separate a date from a time of day? -/
def isSeparator (c : Char) : Bool := c == 'T' || c == 't' || c == ' ' || c == '_'

/-- A fraction of a second at the front, after one of the given points, in microseconds; digits after
the sixth are dropped. -/
def fraction (points : List Char) (cs : List Char) : Option (Nat × List Char) :=
  match cs with
  | [] => some (0, [])
  | c :: rest =>
    if points.contains c then
      let ds := rest.takeWhile Char.isDigit
      if ds = [] then none
      else
        let six := (ds ++ List.replicate 6 '0').take 6
        some (Decimal.ofDigits six, rest.dropWhile Char.isDigit)
    else some (0, cs)

/-- Seconds and their fraction at the front, where they are written. -/
def seconds (points : List Char) (cs : List Char) : Option (Nat × List Char) :=
  match cs with
  | ':' :: rest => do
    let (s, rest) ← fixed 2 rest
    let (us, rest) ← fraction points rest
    if s < 60 then return (s * 1000000 + us, rest) else none
  | _ => some (0, cs)

/-- A time of day at the front, in microseconds. -/
def time (points : List Char) (cs : List Char) : Option (Nat × List Char) := do
  let (hours, cs) ← fixed 2 cs
  let (minutes, cs) ← fixed 2 (← mark ':' cs)
  let (us, cs) ← seconds points cs
  if hours < 24 ∧ minutes < 60 then return ((hours * 60 + minutes) * 60000000 + us, cs) else none

/-- An offset that ends the text. -/
def offset (cs : List Char) : Option (Option Int) :=
  match cs with
  | [] => some none
  | ['Z'] => some (some 0)
  | ['z'] => some (some 0)
  | sign :: rest => do
    let negative ← if sign = '-' then some true else if sign = '+' then some false else none
    let (hours, rest) ← fixed 2 rest
    let (minutes, rest) ← fixed 2 ((mark ':' rest).getD rest)
    let (secs, rest) ← match rest with
      | ':' :: rest => fixed 2 rest
      | rest => some (0, rest)
    if rest = [] ∧ hours < 24 ∧ minutes < 60 ∧ secs < 60 then
      let n : Int := (hours * 60 + minutes) * 60 + secs
      return some (if negative then -n else n)
    else none

end Reader

/-- Reads a date, a separator, a time of day and an offset. A date alone stands for its first
instant. -/
def read? (s : String) : Option Timestamp := do
  let (date, cs) ← Reader.date s.toList
  let day ← date.toDay?
  match cs with
  | [] => return ⟨day * Timestamp.day, none⟩
  | separator :: cs =>
    if Reader.isSeparator separator then
      let (us, cs) ← Reader.time ['.'] cs
      let offset ← Reader.offset cs
      return ⟨day * Timestamp.day + us, offset⟩
    else none

end Timestamp

end SalesDesk
