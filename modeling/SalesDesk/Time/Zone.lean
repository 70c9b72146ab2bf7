import SalesDesk.Time.Timestamp
import SalesDesk.Time.ZoneHistory

/-!
# Time zones

Opening hours are given in the time of a zone. Which zones there are, and how far their clocks are
ahead of universal time at an instant, is said by a database that is given from outside. The one that
is built in has five zones. Two of them move their clocks in spring and in autumn, at an instant of
universal time fixed by the Sundays of a month. Before the rule of a zone came into force its history
counts.
-/

namespace SalesDesk

inductive Zone where
  | utc
  | paris
  | newYork
  | kolkata
  | tokyo
  deriving DecidableEq, Repr

namespace Zone

def all : List Zone := [utc, paris, newYork, kolkata, tokyo]

def name : Zone → String
  | utc => "UTC"
  | paris => "Europe/Paris"
  | newYork => "America/New_York"
  | kolkata => "Asia/Kolkata"
  | tokyo => "Asia/Tokyo"

def named? (s : String) : Option Zone := all.find? fun z => z.name = s

/-- The first Sunday on or after a day. -/
def sundayFrom (day : Nat) : Nat := day + (6 - Calendar.weekday day)

/-- The first day of a month. -/
def monthStart (year month : Nat) : Nat :=
  Calendar.daysBeforeYear year + Calendar.daysBeforeMonth year month

/-- The last Sunday of a month. -/
def lastSunday (year month : Nat) : Nat := sundayFrom (monthStart year (month + 1) - 7)

/-- Is summer time in force in a zone at an instant of universal time? -/
def isSummer (z : Zone) (instant : Int) : Bool :=
  let year := Calendar.yearOf (instant / Timestamp.day).toNat
  let hourOf (day hour : Nat) : Int := day * Timestamp.day + hour * 3600 * Timestamp.second
  match z with
  | paris => hourOf (lastSunday year 3) 1 ≤ instant && instant < hourOf (lastSunday year 10) 1
  | newYork =>
    hourOf (sundayFrom (monthStart year 3) + 7) 7 ≤ instant &&
      instant < hourOf (sundayFrom (monthStart year 11)) 6
  | _ => false

/-- The year from which the clocks of a zone follow the rule of today, and the history before it. -/
def history? : Zone → Option (Nat × History)
  | utc => none
  | paris => some (1996, parisHistory)
  | newYork => some (2007, newYorkHistory)
  | kolkata => some (1970, kolkataHistory)
  | tokyo => some (1970, tokyoHistory)

/-- The offset of a zone under the rule of today. -/
def offsetToday (z : Zone) (instant : Int) : Int :=
  match z with
  | utc => 0
  | paris => if z.isSummer instant then 7200 else 3600
  | newYork => if z.isSummer instant then -14400 else -18000
  | kolkata => 19800
  | tokyo => 32400

/-- Seconds by which the clocks of a zone are ahead of universal time at an instant. -/
def offsetAt (z : Zone) (instant : Int) : Int :=
  match z.history? with
  | none => z.offsetToday instant
  | some (year, history) =>
    if instant < Calendar.daysBeforeYear year * Timestamp.day then
      history.offsetAt (instant / Timestamp.second).toNat
    else z.offsetToday instant

/-- The zones that are known by name, each with the seconds by which its clocks are ahead of universal
time at an instant. -/
structure Database where
  offsets? : String → Option (Int → Int)

/-- The database of the five zones. -/
def database : Database := ⟨fun name => (named? name).map offsetAt⟩

instance : Inhabited Database := ⟨database⟩

/-- A database is not spelled out. -/
instance : Repr Database := ⟨fun _ _ => "zones"⟩

end Zone

end SalesDesk
