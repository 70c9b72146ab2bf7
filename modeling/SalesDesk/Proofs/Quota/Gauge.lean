import SalesDesk.Proofs.Quota.Window
import SalesDesk.Quota.Ledger

/-!
# Gauges

The four counters of a tenant, one by one: what each one counts, what bounds it, and which reset
sets it to zero. What a send and a reset do to the counters is said once for all four, and messages,
images and videos are one family of sends.
-/

namespace SalesDesk.Quota

/-- What can be sent. -/
inductive Send where
  | message
  | media (m : Media)
  deriving DecidableEq, Repr

namespace Send

def can : Send → Account → Bool
  | message, a => a.canSendMessage
  | media m, a => a.canSendMedia m

def count : Send → Snapshot → Snapshot
  | message, s => s.withMessage
  | media m, s => s.withMedia m

end Send

/-- One of the four counters. -/
inductive Gauge where
  | messagesToday
  | messagesThisWeek
  | imagesToday
  | videosThisWeek
  deriving DecidableEq, Repr

namespace Gauge

def value : Gauge → Snapshot → Int
  | messagesToday, s => s.messagesToday
  | messagesThisWeek, s => s.messagesThisWeek
  | imagesToday, s => s.imagesToday
  | videosThisWeek, s => s.videosThisWeek

def limit : Gauge → Limits → Int
  | messagesToday, l => l.messagesPerDay
  | messagesThisWeek, l => l.messagesPerWeek
  | imagesToday, l => l.imagesPerDay
  | videosThisWeek, l => l.videosPerWeek

/-- The reset that sets the counter to zero. -/
def reset : Gauge → Reset
  | messagesToday => .daily
  | messagesThisWeek => .weekly
  | imagesToday => .daily
  | videosThisWeek => .weekly

def counts : Gauge → Send → Bool
  | messagesToday, s => s == .message
  | messagesThisWeek, s => s == .message
  | imagesToday, s => s == .media .image
  | videosThisWeek, s => s == .media .video

variable {g : Gauge}

@[simp] theorem value_zero (g : Gauge) : g.value {} = 0 := by
  cases g <;> rfl

/-- A send adds one to the counters that count it, and leaves the others. -/
@[simp] theorem value_count (g : Gauge) (x : Send) (s : Snapshot) :
    g.value (x.count s) = g.value s + if g.counts x then 1 else 0 := by
  rcases x with _ | _ | _ <;> cases g <;> simp [value, counts, Send.count, Snapshot.withMessage,
    Snapshot.withMedia]

/-- A reset sets its own counters to zero, and leaves the others. -/
@[simp] theorem value_renew (g : Gauge) (r : Reset) (s : Snapshot) :
    g.value (r.renew s) = if g.reset = r then 0 else g.value s := by
  cases r <;> cases g <;> simp [value, reset, Reset.renew, Snapshot.newDay, Snapshot.newWeek]

theorem value_renewed (g : Gauge) (s : Snapshot) (resets : List Reset) :
    g.value (Usage.renewed s resets) = if g.reset ∈ resets then 0 else g.value s := by
  induction resets generalizing s with
  | nil => simp [Usage.renewed]
  | cons r rest ih =>
    have hrest := ih (r.renew s)
    simp only [Usage.renewed, List.foldl_cons, value_renew, List.mem_cons] at hrest ⊢
    rw [hrest]
    by_cases hr : g.reset = r
    · simp [hr]
    · simp [hr]

/-- A send may go out just when every counter that counts it is below its limit. -/
theorem can_iff (x : Send) (a : Account) : x.can a = true ↔
    ∀ g : Gauge, g.counts x = true → g.value a.snapshot < g.limit a.limits := by
  constructor
  · intro h g hg
    rcases x with _ | _ | _ <;> cases g <;> simp_all [Send.can, counts, value, limit,
      Account.canSendMessage, Account.canSendMedia, Snapshot.canSendMessage, Snapshot.canSendMedia]
  · intro h
    have htoday := h messagesToday
    have hweek := h messagesThisWeek
    have himages := h imagesToday
    have hvideos := h videosThisWeek
    rcases x with _ | _ | _ <;> simp_all [Send.can, counts, value, limit,
      Account.canSendMessage, Account.canSendMedia, Snapshot.canSendMessage, Snapshot.canSendMedia]

end Gauge

end SalesDesk.Quota
