import RecordSql.Integer
import RecordSql.Numeric.Basic

namespace RecordSql.Numeric

-- What has been read of a number: whether a point and a digit were seen, and the digits so
-- far. Once the digits fill a machine word the number counts as long.
structure Reading where
  negative : Bool
  point : Bool
  digits : Bool
  long : Bool
  mantissa : Nat
  scale : Nat

-- From this mantissa on one more digit might not fit into a machine word.
def wordLimit : Nat := (Nat.pow 2 64 - 1) / 10 - 255

def refuse (c : Char) : NumericError :=
  if c = '.' then .twoPoints
  else if c = '_' then .leadingSeparator
  else .unknownCharacter

def Reading.finish (r : Reading) : Except NumericError Numeric :=
  if r.digits then .ok ⟨r.negative, r.mantissa, r.scale % (greatestScale + 1)⟩
  else .error .noDigits

-- Rounds at the next character, after which nothing is looked at any more. A mantissa that
-- rounds up out of its range gives up its last digit.
def Reading.round (r : Reading) (next : Char) : Except NumericError Numeric :=
  let up : Except NumericError Bool :=
    if next.isDigit then .ok ('5' ≤ next)
    else if next = '_' ∨ (next = '.' ∧ r.point) then .ok false
    else .error (refuse next)
  match up with
  | .error e => .error e
  | .ok false => r.finish
  | .ok true =>
    let mantissa := r.mantissa + 1
    if mantissa < mantissaLimit then { r with mantissa }.finish
    else if r.scale = 0 then .error .roundsTooHigh
    else { r with mantissa := (mantissa + 4) / 10, scale := r.scale - 1 }.finish

def Reading.append (r : Reading) (digit : Char) : Reading :=
  { r with
    digits := true
    mantissa := 10 * r.mantissa + (digit.toNat - '0'.toNat)
    scale := if r.point then r.scale + 1 else 0 }

-- Reads digits, a point and separators. A fraction longer than the greatest scale, or than
-- the mantissa can hold, is rounded; a whole part that long is refused. At the greatest
-- scale a long number looks past one separator for the digit to round at.
def readDigits (r : Reading) : List Char → Except NumericError Numeric
  | [] => r.finish
  | c :: rest =>
    if c.isDigit then
      let next := r.append c
      if r.long && mantissaLimit ≤ next.mantissa then
        if r.point then r.round c else .error .tooManyDigits
      else
        match rest with
        | [] => next.finish
        | following :: after =>
          if next.point && greatestScale ≤ next.scale then
            if next.long && following == '_' then readDigits next after
            else next.round following
          else if wordLimit ≤ next.mantissa then
            readDigits { next with long := true } (following :: after)
          else readDigits next (following :: after)
    else if c = '.' ∧ ¬ r.point then readDigits { r with point := true } rest
    else if c = '_' ∧ r.digits then readDigits r rest
    else .error (refuse c)

def readPlain : List Char → Except NumericError Numeric
  | [] => .error .empty
  | '-' :: rest => readDigits ⟨true, false, false, false, 0, 0⟩ rest
  | '+' :: rest => readDigits ⟨false, false, false, false, 0, 0⟩ rest
  | text => readDigits ⟨false, false, false, false, 0, 0⟩ text

def readExponent (text : List Char) : Except NumericError Nat :=
  match (IntegerRange.unsigned 32).read? text with
  | some n => .ok n.toNat
  | none => .error .malformedExponent

def withScale (n : Numeric) (scale : Nat) : Except NumericError Numeric :=
  if greatestScale < scale then .error (.scaleTooLarge scale) else .ok { n with scale }

def shift (n : Numeric) (exponent : Nat) : Except NumericError Numeric :=
  if greatestScale < exponent then .error (.scaleTooLarge exponent)
  else
    match n.shifted? exponent with
    | some shifted => .ok shifted.normalized
    | none => .error .tooLarge

def isExponentMark (c : Char) : Bool :=
  c == 'e' || c == 'E'

-- Reads a number, with an exponent after the first `e` when there is one.
def read (text : List Char) : Except NumericError Numeric :=
  match text.dropWhile (!isExponentMark ·) with
  | [] => readPlain text
  | _ :: exponent => do
    let n ← readPlain (text.takeWhile (!isExponentMark ·))
    match exponent with
    | '-' :: digits =>
      let below ← readExponent digits
      withScale n (n.scale + below)
    | digits =>
      let above ← readExponent digits
      if above ≤ n.scale then withScale n (n.scale - above) else shift n above

end RecordSql.Numeric
