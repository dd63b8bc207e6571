namespace RecordSql.Binary

-- A binary interchange format, by the widths of its stored significand and of its exponent.
structure Format where
  fractionBits : Nat
  exponentBits : Nat
  deriving DecidableEq

namespace Format

def double : Format := ⟨52, 11⟩

def single : Format := ⟨23, 8⟩

-- The exponent of the smallest positive number, which is two to this power.
def leastUnit (f : Format) : Int :=
  2 - Nat.pow 2 (f.exponentBits - 1) - f.fractionBits

-- The pattern of positive infinity. Finite magnitudes lie below it and NaNs above.
def infinity (f : Format) : Nat :=
  (Nat.pow 2 f.exponentBits - 1) * Nat.pow 2 f.fractionBits

def signBit (f : Format) : Nat :=
  Nat.pow 2 (f.fractionBits + f.exponentBits)

-- The NaN that a text spells: quiet and without payload.
def quietNaN (f : Format) : Nat :=
  f.infinity + Nat.pow 2 (f.fractionBits - 1)

end Format

-- What a bit pattern stands for. A finite number is its significand times two to its unit.
inductive Datum
  | nan
  | infinite (negative : Bool)
  | finite (negative : Bool) (significand : Nat) (unit : Int)
  deriving DecidableEq

def Format.decodeMagnitude (f : Format) (negative : Bool) (bits : Nat) : Datum :=
  if f.infinity < bits then .nan
  else if bits = f.infinity then .infinite negative
  else
    let fraction := bits % Nat.pow 2 f.fractionBits
    match bits / Nat.pow 2 f.fractionBits with
    | 0 => .finite negative fraction f.leastUnit
    | exponent + 1 => .finite negative (Nat.pow 2 f.fractionBits + fraction) (f.leastUnit + exponent)

def Format.decode (f : Format) (bits : Nat) : Datum :=
  if f.signBit ≤ bits then f.decodeMagnitude true (bits - f.signBit)
  else f.decodeMagnitude false bits

def Format.withSign (f : Format) (negative : Bool) (magnitude : Nat) : Nat :=
  if negative then f.signBit + magnitude else magnitude

def roundHalfEven (num den : Nat) : Nat :=
  let quotient := num / den
  let twice := 2 * (num % den)
  if den < twice then quotient + 1
  else if twice = den ∧ quotient % 2 = 1 then quotient + 1
  else quotient

def roundAtUnit (num den : Nat) (unit : Int) : Nat :=
  if 0 ≤ unit then roundHalfEven num (den * Nat.pow 2 unit.toNat)
  else roundHalfEven (num * Nat.pow 2 (-unit).toNat) den

def belowPower (num den : Nat) (power : Int) : Bool :=
  if 0 ≤ power then num < den * Nat.pow 2 power.toNat
  else num * Nat.pow 2 (-power).toNat < den

-- The unit at which a quotient has a full significand, or the least unit of the format.
-- The logarithms fix it up to one.
def Format.unitOf (f : Format) (num den : Nat) : Int :=
  let guess : Int := (num.log2 : Int) - den.log2 - f.fractionBits
  max f.leastUnit (if belowPower num den (guess + f.fractionBits) then guess - 1 else guess)

-- The magnitude pattern nearest to a quotient. A significand that rounds up to the next
-- power of two carries into the exponent, and what is too large becomes infinity.
def Format.nearest (f : Format) (num den : Nat) : Nat :=
  if num = 0 then 0
  else
    let unit := f.unitOf num den
    min f.infinity
      ((unit - f.leastUnit).toNat * Nat.pow 2 f.fractionBits + roundAtUnit num den unit)

end RecordSql.Binary
