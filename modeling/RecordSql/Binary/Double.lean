import RecordSql.Binary.Format

namespace RecordSql.Binary

-- A double-precision number is its 64 bits: two patterns that compare equal as numbers,
-- such as the zeros, stay apart, and a NaN keeps its payload.
structure Double where
  bits : UInt64
  deriving DecidableEq

namespace Double

def toDatum (x : Double) : Datum :=
  Format.double.decode x.bits.toNat

def ofBitsNat (bits : Nat) : Double :=
  ⟨UInt64.ofNat bits⟩

def isNaN (x : Double) : Bool :=
  x.toDatum == .nan

def isZero (x : Double) : Bool :=
  match x.toDatum with
  | .finite _ 0 _ => true
  | _ => false

def ofQuotient (negative : Bool) (num den : Nat) : Double :=
  ofBitsNat (Format.double.withSign negative (Format.double.nearest num den))

def ofNat (n : Nat) : Double :=
  ofQuotient false n 1

def neg (x : Double) : Double :=
  ⟨x.bits ^^^ 0x8000000000000000⟩

def quotientOf (significand : Nat) (unit : Int) : Nat × Nat :=
  if 0 ≤ unit then (significand * Nat.pow 2 unit.toNat, 1)
  else (significand, Nat.pow 2 (-unit).toNat)

-- The product of two finite positive numbers, rounded once. Anything else is returned as it is.
def mulFinite (x y : Double) : Double :=
  match x.toDatum, y.toDatum with
  | .finite _ a u, .finite _ b v =>
    let (num, den) := quotientOf (a * b) (u + v)
    ofQuotient false num den
  | _, _ => x

def divFinite (x y : Double) : Double :=
  match x.toDatum, y.toDatum with
  | .finite _ a u, .finite _ b v =>
    let (num, den) := quotientOf a (u - v)
    ofQuotient false num (den * b)
  | _, _ => x

-- Every single-precision number is a double-precision number; a NaN keeps its payload
-- in the upper bits and turns quiet.
def ofSingle (bits : UInt32) : Double :=
  match Format.single.decode bits.toNat with
  | .nan =>
    let payload := bits.toNat % Nat.pow 2 23 * Nat.pow 2 29
    let quiet := payload ||| Nat.pow 2 51
    ofBitsNat (Format.double.withSign (Format.single.signBit ≤ bits.toNat)
      (Format.double.infinity + quiet))
  | .infinite negative =>
    ofBitsNat (Format.double.withSign negative Format.double.infinity)
  | .finite negative significand unit =>
    let (num, den) := quotientOf significand unit
    ofQuotient negative num den

end Double

end RecordSql.Binary
