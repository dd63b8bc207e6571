import RecordSql.Binary.Format

namespace RecordSql.Binary

inductive ReadError
  | empty
  | invalid
  deriving DecidableEq

def ReadError.message : ReadError → String
  | .empty => "cannot parse float from empty string"
  | .invalid => "invalid float literal"

-- A decimal literal without its sign: the digits on both sides of the point as one number,
-- how many of them follow the point, and the written exponent.
structure Literal where
  coefficient : Nat
  fractionDigits : Nat
  exponent : Int

def digitsValue (digits : List Char) : Nat :=
  digits.foldl (fun n c => 10 * n + (c.toNat - '0'.toNat)) 0

def isDigit (c : Char) : Bool :=
  '0' ≤ c && c ≤ '9'

-- Reads `e` or `E`, an optional sign and at least one digit, up to the end.
def exponent? : List Char → Option Int
  | [] => some 0
  | e :: rest =>
    if e != 'e' && e != 'E' then none
    else
      let (negative, digits) := match rest with
        | '-' :: digits => (true, digits)
        | '+' :: digits => (false, digits)
        | digits => (false, digits)
      if digits.isEmpty || !digits.all isDigit then none
      else some (if negative then -(digitsValue digits : Int) else digitsValue digits)

-- Digits with an optional point among, before or after them, then an optional exponent.
def literal? (text : List Char) : Option Literal := do
  let whole := text.takeWhile isDigit
  let afterWhole := text.dropWhile isDigit
  let (fraction, rest) := match afterWhole with
    | '.' :: tail => (tail.takeWhile isDigit, tail.dropWhile isDigit)
    | tail => ([], tail)
  if whole.isEmpty && fraction.isEmpty then none
  else
    let exponent ← exponent? rest
    some ⟨digitsValue (whole ++ fraction), fraction.length, exponent⟩

-- Outside this range of leading places every number of the format is infinite or zero.
def placeLimit : Int := 400

-- The pattern nearest to a literal. The leading place is checked first, so that a huge
-- exponent costs nothing.
def Literal.nearest (l : Literal) (f : Format) : Nat :=
  let scale := l.exponent - l.fractionDigits
  let leading := (Nat.toDigits 10 l.coefficient).length + scale
  if l.coefficient = 0 ∨ leading < -placeLimit then 0
  else if placeLimit < leading then f.infinity
  else if 0 ≤ scale then f.nearest (l.coefficient * Nat.pow 10 scale.toNat) 1
  else f.nearest l.coefficient (Nat.pow 10 (-scale).toNat)

def asciiLower (text : List Char) : List Char :=
  text.map fun c => if 'A' ≤ c ∧ c ≤ 'Z' then Char.ofNat (c.toNat + 32) else c

def magnitude? (f : Format) (text : List Char) : Option Nat :=
  match literal? text with
  | some l => some (l.nearest f)
  | none =>
    match String.ofList (asciiLower text) with
    | "nan" => some f.quietNaN
    | "inf" | "infinity" => some f.infinity
    | _ => none

def Format.read (f : Format) (text : List Char) : Except ReadError Nat :=
  if text.isEmpty then .error .empty
  else
    let (negative, magnitude) := match text with
      | '-' :: rest => (true, rest)
      | '+' :: rest => (false, rest)
      | rest => (false, rest)
    match magnitude? f magnitude with
    | some bits => .ok (f.withSign negative bits)
    | none => .error .invalid

end RecordSql.Binary
