import SalesDesk.Number.Binary64
import SalesDesk.Number.Word
import SalesDesk.Time.Timestamp

/-!
# Durations

A duration is a whole number of microseconds and stays below a billion days either way. It is given in
seconds: the whole seconds are taken exactly, the rest of a second is rounded once as a number of
microseconds and then to the microsecond, a half to the even one.
-/

namespace SalesDesk

structure Duration where
  microseconds : Int
  deriving DecidableEq, Repr

/-- Why a number of seconds is no duration. -/
inductive DurationError where
  | notANumber
  | infinite
  /-- The days do not fit into a word. -/
  | beyondWord
  | tooLong (days : Int)
  deriving DecidableEq, Repr

namespace DurationError

def message : DurationError → String
  | notANumber => "cannot convert float NaN to integer"
  | infinite => "cannot convert float infinity to integer"
  | beyondWord => "Python int too large to convert to C int"
  | tooLong days => "days=" ++ toString days ++ "; must have magnitude <= 999999999"

end DurationError

namespace Duration

/-- The days below which a duration stays, either way. -/
def dayBound : Int := 1000000000

/-- A duration of some microseconds, if there is one. -/
def mk? (microseconds : Int) : Except DurationError Duration :=
  let days := microseconds.fdiv Timestamp.day
  if !Word.fits 32 days then .error .beyondWord
  else if -dayBound < days ∧ days < dayBound then .ok ⟨microseconds⟩
  else .error (.tooLong days)

/-- The microseconds of a finite number of seconds. -/
def microsecondsOf (negative : Bool) (x : Binary64.Magnitude) : Int :=
  let rest := match Binary64.ofQuotient false (x.num % x.den * 1000000) x.den with
    | .finite _ y => y
    | _ => .zero
  let n := Binary64.roundQuotient (x.num / x.den * 1000000 * rest.den + rest.num) rest.den
  if negative then -n else n

/-- A duration of some seconds. -/
def ofSeconds : Binary64 → Except DurationError Duration
  | .finite negative x => mk? (microsecondsOf negative x)
  | .infinite _ => .error .infinite
  | .nan => .error .notANumber

/-- A duration of some whole seconds. -/
def ofWholeSeconds (n : Int) : Except DurationError Duration := mk? (n * Timestamp.second)

end Duration

end SalesDesk
