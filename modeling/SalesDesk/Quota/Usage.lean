import SalesDesk.Json.Value
import SalesDesk.Time.Timestamp

/-!
# Usage and limits

The counters of one tenant: messages and images of a day, messages and videos of a week, and the
time of the last reset. A send is admitted while its counters are below their limits. The pause
before a send grows with the share of the day's messages that is used up.
-/

namespace SalesDesk.Quota

structure Limits where
  messagesPerDay : Int := 200
  messagesPerWeek : Int := 1000
  imagesPerDay : Int := 50
  videosPerWeek : Int := 20
  deriving DecidableEq, Repr, Inhabited

structure Snapshot where
  messagesToday : Int := 0
  messagesThisWeek : Int := 0
  imagesToday : Int := 0
  videosThisWeek : Int := 0
  deriving DecidableEq, Repr, Inhabited

/-- The counters with the time at which some of them were last set to zero. -/
structure Usage extends Snapshot where
  lastReset : Timestamp
  deriving DecidableEq, Repr, Inhabited

inductive Media where
  | image
  | video
  deriving DecidableEq, Repr

namespace Snapshot

def text (s : Snapshot) : String :=
  "QuotaSnapshot(messages_today=" ++ toString s.messagesToday ++
    ", messages_this_week=" ++ toString s.messagesThisWeek ++
    ", images_today=" ++ toString s.imagesToday ++
    ", videos_this_week=" ++ toString s.videosThisWeek ++ ")"

def fields (s : Snapshot) : List (String × Int) :=
  [("messages_today", s.messagesToday), ("messages_this_week", s.messagesThisWeek),
    ("images_today", s.imagesToday), ("videos_this_week", s.videosThisWeek)]

def toJson (s : Snapshot) : Json := .obj (s.fields.map fun f => (f.1, .int f.2))

def canSendMessage (s : Snapshot) (l : Limits) : Bool :=
  s.messagesToday < l.messagesPerDay && s.messagesThisWeek < l.messagesPerWeek

def canSendMedia (s : Snapshot) (l : Limits) : Media → Bool
  | .image => s.imagesToday < l.imagesPerDay
  | .video => s.videosThisWeek < l.videosPerWeek

def withMessage (s : Snapshot) : Snapshot :=
  { s with messagesToday := s.messagesToday + 1, messagesThisWeek := s.messagesThisWeek + 1 }

def withMedia (s : Snapshot) : Media → Snapshot
  | .image => { s with imagesToday := s.imagesToday + 1 }
  | .video => { s with videosThisWeek := s.videosThisWeek + 1 }

def newDay (s : Snapshot) : Snapshot := { s with messagesToday := 0, imagesToday := 0 }

def newWeek (s : Snapshot) : Snapshot := { s with messagesThisWeek := 0, videosThisWeek := 0 }

/-- The share of the day's messages that is used up, as a rounded quotient; all of it where no
message is allowed. A quotient beyond the range of the numbers has no value. -/
def ratio? (s : Snapshot) (l : Limits) : Option Binary64 :=
  if l.messagesPerDay ≤ 0 then some (.ofInt 1)
  else
    match Binary64.Magnitude.ofQuotient? s.messagesToday.natAbs l.messagesPerDay.natAbs with
    | some x => some (.finite (decide (s.messagesToday < 0)) x)
    | none => none

end Snapshot

/-- The factor of a pause for a share of the day's messages. -/
def delayFactor (ratio : Binary64) : Int :=
  if Binary64.lt (.ofDecimal false 8 (-1)) ratio then 3
  else if Binary64.lt (.ofDecimal false 5 (-1)) ratio then 2
  else 1

/-- The shortest and the longest pause before it is multiplied, in seconds. -/
def baseDelayMin : Int := 2

def baseDelayMax : Int := 8

namespace Snapshot

/-- The pause in seconds before a send, for a base drawn at random. -/
def delay? (s : Snapshot) (l : Limits) (base : Int) : Option Int :=
  (s.ratio? l).map fun ratio => base * delayFactor ratio

end Snapshot

namespace Usage

def fresh (now : Timestamp) : Usage := { lastReset := now }

def resetDaily (u : Usage) (now : Timestamp) : Usage :=
  { toSnapshot := u.toSnapshot.newDay, lastReset := now }

def resetWeekly (u : Usage) (now : Timestamp) : Usage :=
  { toSnapshot := u.toSnapshot.newWeek, lastReset := now }

/-- Has a day of universal time begun since the last reset? -/
def needsDaily (u : Usage) (now : Timestamp) : Except TimeError Bool := do
  let today ← now.toUtc
  let last ← u.lastReset.toUtc
  return last.dayNumber < today.dayNumber

/-- Has a week of universal time begun since the last reset? -/
def needsWeekly (u : Usage) (now : Timestamp) : Except TimeError Bool := do
  let today ← now.toUtc
  let last ← u.lastReset.toUtc
  return (Calendar.weekOf last.dayNumber).before (Calendar.weekOf today.dayNumber)

end Usage

inductive Reset where
  | daily
  | weekly
  deriving DecidableEq, Repr

def Reset.name : Reset → String
  | daily => "daily"
  | weekly => "weekly"

namespace Usage

/-- Runs every reset whose boundary has passed. Both questions are asked before either reset runs,
because each reset sets the time of the last one. -/
def applyDue (u : Usage) (now : Timestamp) : Except TimeError (Usage × List Reset) := do
  let daily ← u.needsDaily now
  let weekly ← u.needsWeekly now
  let u := if daily then u.resetDaily now else u
  let u := if weekly then u.resetWeekly now else u
  return (u, (if daily then [.daily] else []) ++ (if weekly then [.weekly] else []))

end Usage

end SalesDesk.Quota
