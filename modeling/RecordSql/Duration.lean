namespace RecordSql

structure Duration where
  nanos : Nat
  deriving DecidableEq

namespace Duration

def nanosPerSecond : Nat := 1000000000

def nanosPerMilli : Nat := 1000000

def ofSeconds (seconds : Nat) : Duration := ⟨seconds * nanosPerSecond⟩

def ofMillis (millis : Nat) : Duration := ⟨millis * nanosPerMilli⟩

def seconds (d : Duration) : Nat := d.nanos / nanosPerSecond

def subsecondNanos (d : Duration) : Nat := d.nanos % nanosPerSecond

def dropLastZeros (digits : List Char) : List Char :=
  (digits.reverse.dropWhile (· == '0')).reverse

-- A number of units with as much of the fraction as is not zero, of the given length.
def inUnits (nanos unit places : Nat) : List Char :=
  let digits := Nat.toDigits 10 (nanos % unit)
  let fraction := dropLastZeros (List.replicate (places - digits.length) '0' ++ digits)
  Nat.toDigits 10 (nanos / unit) ++ (if fraction.isEmpty then [] else '.' :: fraction)

-- The span in the largest unit that it fills at least once.
def inspect (d : Duration) : String :=
  if nanosPerSecond ≤ d.nanos then String.ofList (inUnits d.nanos nanosPerSecond 9) ++ "s"
  else if nanosPerMilli ≤ d.nanos then String.ofList (inUnits d.nanos nanosPerMilli 6) ++ "ms"
  else if 1000 ≤ d.nanos then String.ofList (inUnits d.nanos 1000 3) ++ "µs"
  else String.ofList (inUnits d.nanos 1 0) ++ "ns"

end Duration

end RecordSql
