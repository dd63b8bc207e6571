import RecordSql.Duration

namespace RecordSql

-- A moment, in nanoseconds since the start of the clock.
structure Moment where
  nanos : Nat
  deriving DecidableEq

namespace Moment

def start : Moment := ⟨0⟩

def add (t : Moment) (d : Duration) : Moment := ⟨t.nanos + d.nanos⟩

-- The time from one moment to a later one, and none when the other is not later.
def durationTo (t other : Moment) : Duration := ⟨other.nanos - t.nanos⟩

def lastTick (t : Moment) : Nat := t.nanos / Duration.nanosPerMilli

-- The first whole millisecond that is not before the moment. A timer set to the moment rings
-- then.
def nextTick (t : Moment) : Nat :=
  (t.nanos + (Duration.nanosPerMilli - 1)) / Duration.nanosPerMilli

-- The moment at which a timer for a tick rings. A clock that waits moves by whole
-- milliseconds, and a timer for a tick that has passed rings at once.
def atTick (t : Moment) (tick : Nat) : Moment :=
  ⟨t.nanos + (tick - t.lastTick) * Duration.nanosPerMilli⟩

theorem lastTick_atTick (t : Moment) (tick : Nat) :
    (t.atTick tick).lastTick = max t.lastTick tick := by
  simp only [atTick, lastTick]
  rw [Nat.add_mul_div_right _ _ (by decide)]
  omega

theorem atTick_atTick (t : Moment) (first second : Nat) :
    (t.atTick first).atTick second = t.atTick (max first second) := by
  have h := lastTick_atTick t first
  simp only [atTick, Moment.mk.injEq] at h ⊢
  rw [h, Nat.add_assoc, ← Nat.add_mul]
  congr 2
  omega

theorem lastTick_mono {t other : Moment} (h : t.nanos ≤ other.nanos) :
    t.lastTick ≤ other.lastTick :=
  Nat.div_le_div_right h

theorem nextTick_mono {t other : Moment} (h : t.nanos ≤ other.nanos) :
    t.nextTick ≤ other.nextTick :=
  Nat.div_le_div_right (Nat.add_le_add_right h _)

theorem lastTick_le_nextTick (t : Moment) : t.lastTick ≤ t.nextTick :=
  Nat.div_le_div_right (Nat.le_add_right _ _)

end Moment

-- What a clock that waits shows when a timer for a tick rings: the tick, or what it showed before
-- when that was later. Of two ticks that are waited for one after the other, the later one counts.
structure Timer where
  ring : Moment → Nat → Moment
  ring_of_passed : ∀ {t tick}, tick ≤ t.lastTick → ring t tick = t
  lastTick_ring : ∀ t tick, (ring t tick).lastTick = max t.lastTick tick
  ring_ring : ∀ t first second, ring (ring t first) second = ring t (max first second)

namespace Timer

-- A clock that moves by whole milliseconds keeps its part of one.
def steady : Timer where
  ring := Moment.atTick
  ring_of_passed h := by simp [Moment.atTick, Nat.sub_eq_zero_of_le h]
  lastTick_ring := Moment.lastTick_atTick
  ring_ring := Moment.atTick_atTick

-- A timer that rings when its tick begins.
def Punctual (timer : Timer) : Prop :=
  ∀ t tick, timer.ring t tick = ⟨max t.nanos (tick * Duration.nanosPerMilli)⟩

def prompt : Timer where
  ring t tick := ⟨max t.nanos (tick * Duration.nanosPerMilli)⟩
  ring_of_passed h := by
    have hle := (Nat.le_div_iff_mul_le (by decide)).mp h
    rw [Nat.max_eq_left hle]
  lastTick_ring t tick := by
    simp only [Moment.lastTick, Duration.nanosPerMilli]
    omega
  ring_ring t first second := by
    simp only [Duration.nanosPerMilli, Moment.mk.injEq]
    omega

theorem punctual_prompt : prompt.Punctual := fun _ _ => rfl

variable (timer : Timer) (t : Moment)

@[simp] theorem ring_zero : timer.ring t 0 = t :=
  timer.ring_of_passed (Nat.zero_le _)

theorem le_lastTick_ring (tick : Nat) : tick ≤ (timer.ring t tick).lastTick := by
  rw [timer.lastTick_ring]
  exact Nat.le_max_right _ _

theorem le_ring (tick : Nat) : t.nanos ≤ (timer.ring t tick).nanos := by
  rcases Nat.le_total tick t.lastTick with hpassed | hlater
  · exact Nat.le_of_eq (by rw [timer.ring_of_passed hpassed])
  · refine Nat.le_of_not_lt fun hlt => ?_
    have hle := Moment.lastTick_mono (Nat.le_of_lt hlt)
    rw [timer.lastTick_ring, Nat.max_eq_right hlater] at hle
    rw [timer.ring_of_passed hle] at hlt
    exact Nat.lt_irrefl _ hlt

theorem nanos_ring_mono {first second : Nat} (h : first ≤ second) :
    (timer.ring t first).nanos ≤ (timer.ring t second).nanos := by
  have hle := timer.le_ring (timer.ring t first) second
  rwa [timer.ring_ring, Nat.max_eq_right h] at hle

-- Whoever has waited until a tick or longer has waited for it alone.
theorem ring_eq_of_le {passed tick : Nat} (hle : passed ≤ tick)
    (h : tick ≤ (timer.ring t passed).lastTick) : timer.ring t passed = timer.ring t tick := by
  have hring := timer.ring_ring t passed tick
  rw [Nat.max_eq_right hle] at hring
  rw [← hring, timer.ring_of_passed h]

end Timer

end RecordSql
