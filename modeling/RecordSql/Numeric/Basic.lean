import RecordSql.Binary.Format

namespace RecordSql

-- A decimal number: a mantissa of at most 96 bits, divided by ten to the scale.
structure Numeric where
  negative : Bool
  mantissa : Nat
  scale : Nat
  deriving DecidableEq

inductive NumericError
  | empty
  | noDigits
  | twoPoints
  | leadingSeparator
  | unknownCharacter
  | tooManyDigits
  | roundsTooHigh
  | malformedExponent
  | scaleTooLarge (scale : Nat)
  | tooLarge
  deriving DecidableEq

namespace Numeric

def greatestScale : Nat := 28

def mantissaLimit : Nat := Nat.pow 2 96

end Numeric

def NumericError.message : NumericError → String
  | .empty => "Invalid decimal: empty"
  | .noDigits => "Invalid decimal: no digits found"
  | .twoPoints => "Invalid decimal: two decimal points"
  | .leadingSeparator => "Invalid decimal: must start lead with a number"
  | .unknownCharacter => "Invalid decimal: unknown character"
  | .tooManyDigits => "Invalid decimal: overflow from too many digits"
  | .roundsTooHigh => "Invalid decimal: overflow from mantissa after rounding"
  | .malformedExponent => "Failed to parse"
  | .scaleTooLarge scale =>
    "Scale exceeds the maximum precision allowed: " ++ toString scale ++ " > " ++
      toString Numeric.greatestScale
  | .tooLarge => "Number exceeds maximum value that can be represented."

namespace Numeric

def dropZeros : Nat → Numeric → Numeric
  | 0, n => n
  | fuel + 1, n =>
    if 0 < n.scale ∧ n.mantissa % 10 = 0 then
      dropZeros fuel { n with mantissa := n.mantissa / 10, scale := n.scale - 1 }
    else n

def normalized (n : Numeric) : Numeric :=
  dropZeros n.scale n

-- The number times a power of ten. A mantissa that grows too large gives up digits of its
-- fraction, rounded to the nearest and a half to the even neighbour.
def shifted? (n : Numeric) (exponent : Nat) : Option Numeric :=
  let product := n.mantissa * Nat.pow 10 exponent
  (List.range (n.scale + 1)).findSome? fun given =>
    let mantissa := Binary.roundHalfEven product (Nat.pow 10 given)
    if mantissa < mantissaLimit then some { n with mantissa, scale := n.scale - given } else none

end Numeric

end RecordSql
