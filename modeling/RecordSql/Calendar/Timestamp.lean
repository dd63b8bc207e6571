import RecordSql.Calendar.Date

namespace RecordSql.Calendar

-- A point of UTC: whole seconds since 1970 and the nanoseconds after them. During a leap
-- second the seconds stand still and the nanoseconds run on past one billion.
structure Timestamp where
  seconds : Int
  nanos : Nat
  deriving DecidableEq

namespace Timestamp

def nanosPerSecond : Nat := 1000000000

def secondsPerDay : Int := 86400

-- 2000-01-01, from which stored times count.
def storedEpochDays : Int := 10957

def date (t : Timestamp) : Date :=
  Date.ofDays (t.seconds / secondsPerDay)

def secondOfDay (t : Timestamp) : Int :=
  t.seconds % secondsPerDay

def ofDate (d : Date) : Timestamp :=
  ⟨d.toDays * secondsPerDay, 0⟩

def isInRange (t : Timestamp) : Bool :=
  t.date.hasYearInRange

-- Microseconds since 2000-01-01, where a part of a microsecond is dropped toward zero. A
-- leap second counts like the second after it.
def toStoredMicros (t : Timestamp) : Int :=
  ((t.seconds - storedEpochDays * secondsPerDay) * nanosPerSecond + t.nanos).tdiv 1000

def ofStoredMicros (micros : Int) : Timestamp :=
  ⟨storedEpochDays * secondsPerDay + micros / 1000000, ((micros % 1000000) * 1000).toNat⟩

-- The same moment without the part of a second, leap seconds included.
def truncated (t : Timestamp) : Timestamp :=
  ⟨t.seconds, 0⟩

-- Hours, minutes and seconds; the sixtieth second is the leap second.
def clockText (t : Timestamp) : List Char :=
  let second := t.secondOfDay
  padded 2 (second / 3600).toNat ++ [':'] ++ padded 2 (second / 60 % 60).toNat ++ [':'] ++
    padded 2 ((second % 60).toNat + t.nanos / nanosPerSecond)

def text (t : Timestamp) : List Char :=
  t.date.text ++ ['T'] ++ t.clockText ++ ['Z']

-- The part of a second in the fewest groups of three digits.
def fractionText (nanos : Nat) : List Char :=
  if nanos = 0 then []
  else if nanos % 1000000 = 0 then '.' :: padded 3 (nanos / 1000000)
  else if nanos % 1000 = 0 then '.' :: padded 6 (nanos / 1000)
  else '.' :: padded 9 nanos

def inspected (t : Timestamp) : List Char :=
  t.date.text ++ ['T'] ++ t.clockText ++ fractionText (t.nanos % nanosPerSecond) ++ ['Z']

end Timestamp

end RecordSql.Calendar
