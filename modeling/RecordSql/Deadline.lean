import RecordSql.Clock
import RecordSql.Error

namespace RecordSql

-- The moment after which work is given up, and the timeout that it comes from.
structure Deadline where
  expiry : Moment
  timeout : Duration
  deriving DecidableEq

namespace Deadline

-- Thirty years. A timeout that is longer expires after this time.
def farFuture : Duration := Duration.ofSeconds (86400 * 365 * 30)

def expiryOf (now : Moment) (timeout : Duration) : Moment :=
  now.add ⟨min timeout.nanos farFuture.nanos⟩

def after (now : Moment) (timeout : Duration) : Deadline :=
  ⟨expiryOf now timeout, timeout⟩

-- The earlier of a deadline and a timeout from now. Of two that are equal the first stays.
def child (d : Deadline) (now : Moment) (timeout : Duration) : Deadline :=
  if (expiryOf now timeout).nanos < d.expiry.nanos then after now timeout else d

def earliest (d other : Deadline) : Deadline :=
  if other.expiry.nanos < d.expiry.nanos then other else d

def remaining (d : Deadline) (now : Moment) : Duration := now.durationTo d.expiry

def isExpired (d : Deadline) (now : Moment) : Bool := d.expiry.nanos ≤ now.nanos

-- Whether a timer set to the deadline has rung.
def hasRung (d : Deadline) (now : Moment) : Bool := d.expiry.nextTick ≤ now.lastTick

def error (d : Deadline) : Error := .timeout d.timeout

theorem isExpired_iff (d : Deadline) (now : Moment) :
    d.isExpired now = true ↔ d.remaining now = ⟨0⟩ := by
  simp only [isExpired, remaining, Moment.durationTo, decide_eq_true_eq, Duration.mk.injEq]
  omega

theorem le_expiryOf (now : Moment) (timeout : Duration) :
    now.nanos ≤ (expiryOf now timeout).nanos := by
  simp only [expiryOf, Moment.add]
  exact Nat.le_add_right _ _

-- A timer that is set just now has not rung, unless it is set to no time at all.
theorem hasRung_after (now : Moment) {timeout : Duration} (h : 0 < timeout.nanos) :
    (after now timeout).hasRung now = false := by
  have hfar : 0 < farFuture.nanos := by decide
  refine decide_eq_false ?_
  simp only [after, expiryOf, Moment.add, Moment.nextTick, Moment.lastTick, Duration.nanosPerMilli]
  omega

theorem expiryOf_mono {now other : Moment} (h : now.nanos ≤ other.nanos) (timeout : Duration) :
    (expiryOf now timeout).nanos ≤ (expiryOf other timeout).nanos := by
  simp only [expiryOf, Moment.add]
  exact Nat.add_le_add_right h _

theorem expiry_child (d : Deadline) (now : Moment) (timeout : Duration) :
    (d.child now timeout).expiry.nanos = min d.expiry.nanos (expiryOf now timeout).nanos := by
  unfold child
  split
  · simp only [after]; omega
  · omega

theorem expiry_earliest (d other : Deadline) :
    (d.earliest other).expiry.nanos = min d.expiry.nanos other.expiry.nanos := by
  unfold earliest
  split <;> omega

end Deadline

structure Work (α : Type) where
  duration : Duration
  outcome : Except Error α

namespace Deadline

variable {α : Type}

-- What becomes of work that is started now, and the moment when that is known. Work that
-- takes no time is looked at first, and of work and deadline at one tick the work counts.
def bound (d : Deadline) (now : Moment) (work : Work α) : Moment × Except Error α :=
  let finish := now.atTick (now.add work.duration).nextTick
  let limit := now.atTick d.expiry.nextTick
  if work.duration.nanos = 0 then (now, work.outcome)
  else if finish.nanos ≤ limit.nanos then (finish, work.outcome)
  else (limit, .error d.error)

-- The same for work on a connection, where the deadline counts when both come at one tick.
def run (d : Deadline) (now : Moment) (work : Work α) : Moment × Except Error α :=
  let finish := now.atTick (now.add work.duration).nextTick
  let limit := now.atTick d.expiry.nextTick
  if d.hasRung now then (now, .error d.error)
  else if work.duration.nanos = 0 then (now, work.outcome)
  else if finish.nanos < limit.nanos then (finish, work.outcome)
  else (limit, .error d.error)

end Deadline

end RecordSql
