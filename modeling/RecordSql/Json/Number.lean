import RecordSql.Binary.Double
import RecordSql.Json.Basic

namespace RecordSql

inductive NumberValue
  | integer (n : Int)
  | real (x : Binary.Double)
  deriving DecidableEq

namespace JsonNumber

-- Reads a whole text as a number: no sign but the minus, no leading zeros, and digits on
-- both sides of a point.
def read? (text : List Char) : Option JsonNumber := do
  let (negative, text) := match text with
    | '-' :: rest => (true, rest)
    | rest => (false, rest)
  let whole := text.takeWhile Char.isDigit
  let rest := text.dropWhile Char.isDigit
  if whole.isEmpty || (whole.head? == some '0' && whole.length != 1) then none
  let (fraction, rest) ← match rest with
    | '.' :: tail =>
      let digits := tail.takeWhile Char.isDigit
      if digits.isEmpty then none else some (some digits, tail.dropWhile Char.isDigit)
    | tail => some (none, tail)
  let exponent ← match rest with
    | [] => some none
    | e :: tail =>
      let (below, digits) := match tail with
        | '-' :: digits => (true, digits)
        | '+' :: digits => (false, digits)
        | digits => (false, digits)
      if (e == 'e' || e == 'E') && !digits.isEmpty && digits.all Char.isDigit then
        some (some (below, digits))
      else none
  some ⟨negative, whole, fraction, exponent⟩

def greatest : Nat := Nat.pow 2 64 - 1

-- Collects digits while they fit and returns those that do not.
def collect : Nat → List Char → Nat × List Char
  | n, [] => (n, [])
  | n, c :: rest =>
    let next := 10 * n + (c.toNat - '0'.toNat)
    if next ≤ greatest then collect next rest else (n, c :: rest)

def power (exponent : Nat) : Binary.Double :=
  Binary.Double.ofNat (Nat.pow 10 exponent)

def isFinite (x : Binary.Double) : Bool :=
  match x.toDatum with
  | .finite .. => true
  | _ => false

-- Divides by powers of ten, at most 1e308 at a time. Three divisions leave nothing of any
-- collected significand.
def scaleDown : Nat → Binary.Double → Nat → Binary.Double
  | 0, x, _ => x
  | steps + 1, x, exponent =>
    if x.isZero then x
    else if exponent ≤ 308 then x.divFinite (power exponent)
    else scaleDown steps (x.divFinite (power 308)) (exponent - 308)

-- A significand scaled by a power of ten, rounded after each step. A result too large to be
-- finite is refused.
def scaled? (significand : Nat) (exponent : Int) : Option Binary.Double :=
  let x := Binary.Double.ofNat significand
  if exponent < 0 then some (scaleDown 4 x exponent.natAbs)
  else if 308 < exponent then (if significand = 0 then some x else none)
  else
    let product := x.mulFinite (power exponent.toNat)
    if isFinite product then some product else none

def signed (negative : Bool) (x : Binary.Double) : Binary.Double :=
  if negative then x.neg else x

-- The written exponent, and `none` when it leaves 32 bits.
def writtenExponent? : Option (Bool × List Char) → Option Int
  | none => some 0
  | some (below, digits) =>
    let n := Nat.ofDigitChars 10 digits 0
    if Nat.pow 2 31 ≤ n then none else some (if below then -(n : Int) else n)

-- The value as a double. Digits beyond the collected ones only count as places.
def real? (n : JsonNumber) : Option Binary.Double :=
  let (whole, dropped) := collect 0 n.whole
  let fraction := n.fraction.getD []
  let (significand, unread) := collect whole fraction
  let place : Int := (dropped.length : Int) - (fraction.length - unread.length : Nat)
  match writtenExponent? n.exponent with
  | some exponent => (scaled? significand (place + exponent)).map (signed n.negative)
  | none =>
    match n.exponent with
    | some (false, _) =>
      if significand = 0 then some (signed n.negative (Binary.Double.ofNat 0)) else none
    | _ => some (signed n.negative (Binary.Double.ofNat 0))

-- The value as an integer, when the number is written as one and fits. The negative zero
-- does not count as an integer.
def integer? (n : JsonNumber) : Option Int :=
  let magnitude := Nat.ofDigitChars 10 n.whole 0
  if n.fraction.isSome || n.exponent.isSome then none
  else if n.negative then
    (if 1 ≤ magnitude ∧ magnitude ≤ Nat.pow 2 63 then some (-(magnitude : Int)) else none)
  else if magnitude ≤ greatest then some magnitude
  else none

def value? (n : JsonNumber) : Option NumberValue :=
  match n.integer? with
  | some i => some (.integer i)
  | none => n.real?.map .real

end JsonNumber

end RecordSql
