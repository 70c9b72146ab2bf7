import SalesDesk.Time.Timestamp

/-!
# Times in data

Where data asks for a time, a text will do that holds a date, or a date and a time of day with or
without an offset. The number of seconds since the start of 1970 will do as well, as a number or as a
text; a number too great for that counts milliseconds. Such a time is universal time.
-/

namespace SalesDesk.Timestamp

inductive Misreading where
  | notTime
  /-- It is one, but of no year of the calendar. -/
  | outOfCalendar
  deriving DecidableEq, Repr

namespace Received

def isMinus (c : Char) : Bool := c == '-' || c == '−'

/-- An offset that ends the text, in hours and minutes. -/
def offset (cs : List Char) : Option (Option Int) :=
  match cs with
  | [] => some none
  | ['Z'] => some (some 0)
  | ['z'] => some (some 0)
  | sign :: rest => do
    let negative ← if isMinus sign then some true else if sign = '+' then some false else none
    let (hours, rest) ← Reader.fixed 2 rest
    let (minutes, rest) ← Reader.fixed 2 ((Reader.mark ':' rest).getD rest)
    if rest = [] ∧ hours < 24 ∧ minutes < 60 then
      let n : Int := (hours * 60 + minutes) * 60
      return some (if negative then -n else n)
    else none

/-- A date with a time of day in microseconds and an offset; the year may be the year 0. -/
def moment (cs : List Char) : Option (Calendar.Date × Nat × Option Int) := do
  let (date, cs) ← Reader.date cs
  match cs with
  | [] => return (date, 0, none)
  | separator :: cs =>
    if Reader.isSeparator separator then
      let (us, cs) ← Reader.time ['.', ','] cs
      return (date, us, ← offset cs)
    else none

/-- The start of 1970, in seconds from the start of year 1. -/
def epoch : Int := Calendar.daysBeforeYear 1970 * 86400

/-- The greatest number that counts seconds. -/
def maxSeconds : Int := 20000000000

/-- Microseconds from the start of year 1, for a number of seconds or milliseconds since 1970 and
further microseconds. -/
def wallOf (n microseconds : Int) : Int :=
  let (seconds, more) := if n.natAbs ≤ maxSeconds then (n, 0) else (n / 1000, n % 1000 * 1000)
  (seconds + epoch) * second + more + microseconds

/-- A reading of universal time that has to lie in the calendar. -/
def within (wall : Int) : Except Misreading Timestamp :=
  match mk? wall (some 0) with
  | .ok t => .ok t
  | .error _ => .error .outOfCalendar

def millionths (num den : Nat) : Nat := (2000000 * num + den) / (2 * den)

/-- A number written with digits, and perhaps a sign, a point and more digits: its sign, the digits,
and how many of them follow the point if there is one. -/
def decimal? (cs : List Char) : Option (Bool × List Char × Option Nat) :=
  let (negative, body) := match cs with
    | '-' :: body => (true, body)
    | '+' :: body => (false, body)
    | body => (false, body)
  let whole := body.takeWhile Char.isDigit
  if whole = [] then none
  else match body.dropWhile Char.isDigit with
    | [] => some (negative, whole, none)
    | '.' :: places =>
      if places.all Char.isDigit then some (negative, whole ++ places, some places.length) else none
    | _ => none

/-- Microseconds from the start of year 1, for a number that is written as text. With a point it is
taken for the nearest binary number first. -/
def textWall? (cs : List Char) : Option Int :=
  match decimal? cs with
  | none => none
  | some (negative, ds, none) =>
    let n : Int := Decimal.ofDigits ds
    some (wallOf (if negative then -n else n) 0)
  | some (negative, ds, some places) =>
    match Binary64.ofDecimal negative (Decimal.ofDigits ds) (-places) with
    | .finite negative x =>
      let (n, d) := Binary64.toQuotient negative x
      let d := if n.natAbs ≤ maxSeconds * d then d else 1000 * d
      some (wallOf (n / d) (millionths (n % d).toNat d))
    | _ => none

/-- The first instant of the year 0. -/
def yearZero : Int := -(366 * day)

end Received

def ofText (s : String) : Except Misreading Timestamp :=
  match Received.moment s.toList with
  | some (date, us, offset) =>
    match date.toDay? with
    | some day => .ok ⟨day * Timestamp.day + us, offset⟩
    | none => .error .outOfCalendar
  | none =>
    match Received.textWall? s.toList with
    | none => .error .notTime
    | some wall =>
      if wall < Received.yearZero ∨ wallEnd ≤ wall then .error .notTime else Received.within wall

def ofInteger (n : Int) : Except Misreading Timestamp := Received.within (Received.wallOf n 0)

/-- The time for a number: its whole part, rounded down, and the size of its fraction. -/
def ofNumber : Binary64 → Except Misreading Timestamp
  | .finite negative x =>
    let (n, d) := Binary64.toQuotient negative x
    Received.within (Received.wallOf (n / d) (Received.millionths (n.natAbs % d) d))
  | _ => .error .outOfCalendar

end SalesDesk.Timestamp
