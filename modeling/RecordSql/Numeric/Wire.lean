import RecordSql.Numeric.Basic
import RecordSql.Wire.Bytes

namespace RecordSql.Numeric

-- A number in groups of four decimal digits. The weight is the power of ten thousand that
-- the first group counts.
structure Groups where
  negative : Bool
  weight : Int
  scale : Nat
  digits : List Nat
  deriving DecidableEq

def groupsOf : Nat → Nat → List Nat
  | 0, _ => []
  | fuel + 1, n => if n = 0 then [] else groupsOf fuel (n / 10000) ++ [n % 10000]

def dropLastZeros (groups : List Nat) : List Nat :=
  (groups.reverse.dropWhile (· == 0)).reverse

-- The fraction is filled up to whole groups. Zero groups at its end are left out when the
-- number has a whole part; the groups of the whole part all stay.
def toGroups (n : Numeric) : Groups :=
  if n.mantissa = 0 then ⟨false, 0, 0, []⟩
  else
    let fractionGroups := (n.scale + 3) / 4
    let groups := groupsOf 10 (n.mantissa * Nat.pow 10 (4 * fractionGroups - n.scale))
    let weight : Int := (groups.length : Int) - fractionGroups - 1
    let kept :=
      if 0 ≤ weight then
        let whole := groups.take (weight + 1).toNat
        whole ++ dropLastZeros (groups.drop whole.length)
      else groups
    ⟨n.negative, weight, n.scale, kept⟩

def wire (n : Numeric) : List UInt8 :=
  let groups := n.toGroups
  Wire.signed 2 groups.digits.length ++ Wire.signed 2 groups.weight ++
    Wire.bigEndian 2 (if groups.negative then 0x4000 else 0) ++ Wire.bigEndian 2 groups.scale ++
    groups.digits.flatMap (Wire.bigEndian 2)

end RecordSql.Numeric
