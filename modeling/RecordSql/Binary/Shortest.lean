import RecordSql.Binary.Format

namespace RecordSql.Binary

-- A positive decimal number: its digits as one whole number, times ten to the exponent.
structure Decimal where
  coefficient : Nat
  exponent : Int
  deriving DecidableEq

-- A positive binary number with the bounds of what rounds to it, all three counted in the
-- same power of two. The bounds themselves round to it when the significand is even.
structure Interval where
  low : Nat
  value : Nat
  high : Nat
  unit : Int
  closed : Bool

-- Below a power of two the neighbours lie closer, so there the lower bound is nearer.
def Format.interval (f : Format) (significand : Nat) (unit : Int) : Interval :=
  let below := if significand = Nat.pow 2 f.fractionBits then 1 else 2
  { low := 4 * significand - below
    value := 4 * significand
    high := 4 * significand + 2
    unit := unit - 2
    closed := significand % 2 == 0 }

inductive TieRule
  | upper
  | even
  deriving DecidableEq

def TieRule.picksUpper (rule : TieRule) (lower : Nat) : Bool :=
  match rule with
  | .upper => true
  | .even => lower % 2 == 1

-- The neighbour of the value among the multiples of ten to the given exponent that lies
-- inside the interval. Of two such neighbours the nearer counts.
def Interval.gridPoint? (i : Interval) (tie : TieRule) (exponent : Int) : Option Decimal :=
  let binary := Nat.pow 2 i.unit.natAbs
  let decimal := Nat.pow 10 exponent.natAbs
  let scale := (if 0 ≤ i.unit then binary else 1) * (if 0 ≤ exponent then 1 else decimal)
  let step := (if 0 ≤ i.unit then 1 else binary) * (if 0 ≤ exponent then decimal else 1)
  let floor := i.value * scale / step
  let inside := fun small large : Nat => if i.closed then small ≤ large else small < large
  let down := inside (i.low * scale) (floor * step)
  let up := inside ((floor + 1) * step) (i.high * scale)
  let twice := 2 * (i.value * scale % step)
  let upperCounts := step < twice ∨ (step = twice ∧ tie.picksUpper floor)
  if up ∧ (¬ down ∨ upperCounts) then some ⟨floor + 1, exponent⟩
  else if down then some ⟨floor, exponent⟩
  else none

-- An exponent whose power of ten lies above the value: a third of the binary exponent,
-- taken slightly too large.
def Interval.topExponent (i : Interval) : Int :=
  ((i.value.log2 : Int) + 1 + i.unit) * 30103 / 100000 + 2

-- The decimal of fewest digits that rounds to the number, and the nearest of those. The
-- grid is refined one digit at a time; at 17 digits past the leading one it is finer than
-- the interval, so the search ends.
def Format.shortest? (f : Format) (tie : TieRule) (significand : Nat) (unit : Int) :
    Option Decimal :=
  let i := f.interval significand unit
  (List.range 24).findSome? fun (refinement : Nat) =>
    i.gridPoint? tie (i.topExponent - (refinement : Int))

end RecordSql.Binary
