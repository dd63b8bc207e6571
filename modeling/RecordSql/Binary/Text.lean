import RecordSql.Binary.Double
import RecordSql.Binary.Shortest

namespace RecordSql.Binary

-- How a number is written in decimal. The leading digit's exponent decides between positional
-- and exponent notation: from `least` to `most` it is positional, and `none` sets no limit.
structure Layout where
  least : Option Int
  most : Option Int
  pointKept : Bool
  plusInExponent : Bool
  tie : TieRule

namespace Layout

def plain : Layout := ⟨none, none, false, false, .upper⟩

-- Positional from 1e-4 to below 1e16, always with a point there.
def inspected : Layout := ⟨some (-4), some 15, true, false, .upper⟩

-- Positional from 1e-5 to below 1e16, always with a point there; exponents carry a sign.
def json : Layout := ⟨some (-5), some 15, true, true, .even⟩

end Layout

def decimalDigits (n : Nat) : List Char :=
  Nat.toDigits 10 n

def positional (digits : List Char) (place : Int) (pointKept : Bool) : List Char :=
  if place ≤ 0 then
    ['0', '.'] ++ List.replicate (-place).toNat '0' ++ digits
  else
    let whole := digits.take place.toNat ++ List.replicate (place.toNat - digits.length) '0'
    let fraction := digits.drop place.toNat
    if fraction.isEmpty then whole ++ (if pointKept then ['.', '0'] else [])
    else whole ++ ['.'] ++ fraction

def scientific (digits : List Char) (exponent : Int) (plus : Bool) : List Char :=
  let fraction := digits.drop 1
  let sign := if exponent < 0 then ['-'] else if plus then ['+'] else []
  digits.take 1 ++ (if fraction.isEmpty then [] else ['.'] ++ fraction) ++ ['e'] ++ sign ++
    decimalDigits exponent.natAbs

def Layout.render (layout : Layout) (decimal : Decimal) : List Char :=
  let digits := decimalDigits decimal.coefficient
  let leading := decimal.exponent + digits.length - 1
  if layout.least.all (· ≤ leading) && layout.most.all (leading ≤ ·) then
    positional digits (leading + 1) layout.pointKept
  else scientific digits leading layout.plusInExponent

-- The zero is laid out like any number whose leading digit is in the units place.
def magnitudeText (layout : Layout) (significand : Nat) (unit : Int) : List Char :=
  match significand with
  | 0 => layout.render ⟨0, 0⟩
  | m =>
    match Format.double.shortest? layout.tie m unit with
    | some decimal => layout.render decimal
    | none => []

-- The shortest text that reads back as the same number.
def Double.render (layout : Layout) (x : Double) : String :=
  match x.toDatum with
  | .nan => "NaN"
  | .infinite negative => if negative then "-inf" else "inf"
  | .finite negative significand unit =>
    String.ofList ((if negative then ['-'] else []) ++ magnitudeText layout significand unit)

end RecordSql.Binary
