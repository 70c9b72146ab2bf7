import SalesDesk.Quota.Ledger

/-!
# Schedule of the resets

Two jobs wake the reset pass: every day and every Monday at midnight of universal time. They only
wake it; what is reset follows from the last reset of each tenant, so a job that fires late still
applies every reset that was missed.
-/

namespace SalesDesk.Quota

/-- A job that fires at midnights of universal time. -/
structure Job where
  id : String
  /-- The day of the week on which it fires; without one it fires every day. -/
  weekday : Option Nat
  /-- Seconds by which a firing may be late. -/
  grace : Nat := 6 * 3600
  /-- Are several missed firings made up for by one? -/
  coalesce : Bool := true
  deriving DecidableEq, Repr

def dailyJob : Job := { id := "quota_reset_daily", weekday := none }

def weeklyJob : Job := { id := "quota_reset_weekly", weekday := some 0 }

/-- The jobs of a running schedule, in the order of their ids. -/
def jobs : List Job := [dailyJob, weeklyJob]

inductive NoFiring where
  /-- The instant is no whole second, and the next one is not in the calendar. -/
  | time (e : TimeError)
  /-- The calendar ends before the next firing. -/
  | calendarEnds
  /-- The calendar ends with the second at which a firing is looked for. -/
  | lastSecond
  deriving DecidableEq, Repr

namespace Job

/-- The first whole second at or after an instant. -/
def wholeSecond (instant : Int) : Except TimeError Int :=
  let ceiled := (instant + Timestamp.second - 1) / Timestamp.second * Timestamp.second
  if ceiled < Timestamp.wallEnd then .ok ceiled else .error .outOfRange

/-- Firings are looked for from the start of 1970. -/
def firstDay : Nat := Calendar.daysBeforeYear 1970

/-- The first midnight at or after an instant, as a day. -/
def nextMidnight (instant : Int) : Nat :=
  max firstDay ((instant + Timestamp.day - 1) / Timestamp.day).toNat

/-- The day of the first firing at or after an instant. -/
def nextDay (j : Job) (instant : Int) : Nat :=
  let midnight := nextMidnight instant
  match j.weekday with
  | none => midnight
  | some w => midnight + (w + 7 - Calendar.weekday midnight) % 7

/-- The first firing at or after an instant. -/
def next (j : Job) (instant : Int) : Except NoFiring Timestamp :=
  match wholeSecond instant with
  | .error e => .error (.time e)
  | .ok second =>
    if j.nextDay second < Calendar.dayCount then
      .ok ⟨j.nextDay second * Timestamp.day, some 0⟩
    else .error (if second + Timestamp.second = Timestamp.wallEnd then .lastSecond else .calendarEnds)

/-- Successive firings: the first at or after an instant, each other at least a second later than
the one before. -/
def firings (j : Job) : Nat → Int → Except NoFiring (List Timestamp)
  | 0, _ => .ok []
  | n + 1, instant => do
    let t ← j.next instant
    return t :: (← j.firings n (t.wall + Timestamp.second))

end Job

def scheduleStarted : Log.Notice :=
  { level := .info, part := "reset_scheduler",
    message := "Quota reset scheduler started: daily 00:00 UTC, weekly Monday 00:00 UTC" }

def scheduleStopped : Log.Notice :=
  { level := .info, part := "reset_scheduler", message := "Quota reset scheduler stopped" }

/-- The tenants that a pass of the schedule has reset. -/
def passApplied (applied : Table (List Reset)) : Log.Notice :=
  { level := .info, part := "reset_scheduler", message := "Quota resets applied",
    context := [("tenants", .map (applied.map fun a => (a.1, resetsDetail a.2)))] }

/-- A schedule that is started and stopped; starting it twice is starting it once. -/
structure Schedule where
  running : Bool := false
  deriving DecidableEq, Repr, Inhabited

namespace Schedule

def start (s : Schedule) : Schedule × List Log.Notice :=
  if s.running then (s, []) else ({ running := true }, [scheduleStarted])

def stop (s : Schedule) : Schedule × List Log.Notice :=
  if s.running then ({ running := false }, [scheduleStopped]) else (s, [])

end Schedule

end SalesDesk.Quota
