import RecordSql.Calendar.Timestamp
import RecordSql.Unicode.Blank

namespace RecordSql.Calendar

inductive DateError
  | outOfRange
  | invalid
  | tooShort
  | tooLong
  deriving DecidableEq

def DateError.message : DateError → String
  | .outOfRange => "input is out of range"
  | .invalid => "input contains invalid characters"
  | .tooShort => "premature end of input"
  | .tooLong => "trailing input"

-- Reads a number of at least one digit, at most the given count of them when there is one.
def scanNumber (most : Option Nat) (text : List Char) : Except DateError (Nat × List Char) :=
  let window := match most with
    | some count => text.take count
    | none => text
  let digits := window.takeWhile Char.isDigit
  if text.isEmpty then .error .tooShort
  else if digits.isEmpty then .error .invalid
  else .ok (Nat.ofDigitChars 10 digits 0, text.drop digits.length)

def scanExactly (count : Nat) (text : List Char) : Option (Nat × List Char) :=
  let digits := text.take count
  if digits.length = count ∧ digits.all Char.isDigit then
    some (Nat.ofDigitChars 10 digits 0, text.drop count)
  else none

def scanChar (expected : Char) : List Char → Except DateError (List Char)
  | [] => .error .tooShort
  | c :: rest => if c = expected then .ok rest else .error .invalid

def inBounds (least greatest n : Nat) : Except DateError Unit :=
  if least ≤ n ∧ n ≤ greatest then .ok () else .error .outOfRange

-- A year of at most four digits, or of any count of them after a sign.
def scanYear (text : List Char) : Except DateError (Int × List Char) := do
  let (year, rest) ← match text with
    | '-' :: digits => (scanNumber none digits).map fun (n, rest) => (-(n : Int), rest)
    | '+' :: digits => (scanNumber none digits).map fun (n, rest) => ((n : Int), rest)
    | digits => (scanNumber (some 4) digits).map fun (n, rest) => ((n : Int), rest)
  if -2147483648 ≤ year ∧ year ≤ 2147483647 then .ok (year, rest) else .error .outOfRange

-- A number of one or two digits within bounds, blanks before it skipped.
def scanField (least greatest : Nat) (text : List Char) :
    Except DateError (Nat × List Char) := do
  let (n, rest) ← scanNumber (some 2) (Unicode.trimStart text)
  inBounds least greatest n
  .ok (n, rest)

def checkedDate (d : Date) : Except DateError Date :=
  if d.isValid && d.hasYearInRange then .ok d else .error .outOfRange

-- Reads a year, a month and a day between hyphens, up to the end of the text. Blanks may
-- stand before each of the numbers. That the day exists is checked last.
def readDate (text : List Char) : Except DateError Date := do
  let (year, rest) ← scanYear (Unicode.trimStart text)
  let rest ← scanChar '-' rest
  let (month, rest) ← scanField 1 12 rest
  let rest ← scanChar '-' rest
  let (day, rest) ← scanField 1 31 rest
  if rest.isEmpty then checkedDate ⟨year, month, day⟩ else .error .tooLong

-- A time of day as written. The second may be the sixtieth, a leap second.
structure Clock where
  hour : Nat
  minute : Nat
  second : Nat
  nanos : Nat

def Clock.isValid (c : Clock) : Bool :=
  c.hour ≤ 23 && c.minute ≤ 59 && c.second ≤ 60

def moment? (d : Date) (c : Clock) (offset : Int) : Option Timestamp :=
  let leap := c.second = 60
  let secondOfDay : Int := 3600 * c.hour + 60 * c.minute + (if leap then 59 else c.second)
  let t : Timestamp :=
    ⟨d.toDays * Timestamp.secondsPerDay + secondOfDay - offset,
      c.nanos + (if leap then Timestamp.nanosPerSecond else 0)⟩
  if d.isValid && d.hasYearInRange && c.isValid && t.isInRange then some t else none

-- Reads an optional point and the digits after it. Digits past the ninth are dropped.
def scanFraction (text : List Char) : Option (Nat × List Char) :=
  match text with
  | '.' :: rest =>
    let digits := rest.takeWhile Char.isDigit
    let kept := digits.take 9
    if digits.isEmpty then none
    else some (Nat.ofDigitChars 10 kept 0 * Nat.pow 10 (9 - kept.length), rest.drop digits.length)
  | rest => some (0, rest)

def isMinus (c : Char) : Bool :=
  c == '-' || c == '\u2212'

-- Reads `Z`, or a sign with two digits of hours, a separator and two digits of minutes.
-- The result is in seconds east of UTC.
def scanOffset (separator : List Char → Option (List Char)) (text : List Char) :
    Option (Int × List Char) :=
  match text with
  | [] => none
  | c :: rest =>
    if c = 'Z' ∨ c = 'z' then some (0, rest)
    else if c = '+' ∨ isMinus c then do
      let (hours, rest) ← scanExactly 2 rest
      let rest ← separator rest
      let (minutes, rest) ← scanExactly 2 rest
      if minutes ≤ 59 then
        let seconds : Int := 3600 * hours + 60 * minutes
        some (if c = '+' then seconds else -seconds, rest)
      else none
    else none

def colon (text : List Char) : Option (List Char) :=
  (scanChar ':' text).toOption

def isBefore24Hours (offset : Int) : Bool :=
  offset.natAbs < 86400

-- Reads a date and a time with its offset from UTC in the strict form: each number has its
-- full width, and one separator stands between date and time.
def readTimestamp? (text : List Char) : Option Timestamp := do
  let (year, rest) ← scanExactly 4 text
  let rest ← (scanChar '-' rest).toOption
  let (month, rest) ← scanExactly 2 rest
  let rest ← (scanChar '-' rest).toOption
  let (day, rest) ← scanExactly 2 rest
  let rest ← match rest with
    | c :: rest => if c = 'T' ∨ c = 't' ∨ c = ' ' then some rest else none
    | [] => none
  let (hour, rest) ← scanExactly 2 rest
  let rest ← colon rest
  let (minute, rest) ← scanExactly 2 rest
  let rest ← colon rest
  let (second, rest) ← scanExactly 2 rest
  let (nanos, rest) ← scanFraction rest
  let (offset, rest) ← scanOffset colon rest
  if rest.isEmpty && isBefore24Hours offset then
    moment? ⟨year, month, day⟩ ⟨hour, minute, second, nanos⟩ offset
  else none

def looseChar (c : Char) (text : List Char) : Option (List Char) :=
  (scanChar c (Unicode.trimStart text)).toOption

def looseField (greatest : Nat) (text : List Char) : Option (Nat × List Char) :=
  (scanField 0 greatest text).toOption

def looseSeparator (text : List Char) : Option (List Char) :=
  some (text.dropWhile fun c => c == ':' || Unicode.isBlank c)

def isUtc (text : List Char) : Bool :=
  match text with
  | [a, b, c] => (a == 'U' || a == 'u') && (b == 'T' || b == 't') && (c == 'C' || c == 'c')
  | _ => false

-- Reads a date and a time in the tolerant form: numbers may be short, blanks may surround
-- them, the year may have a sign, and the offset may be spelled `UTC`.
def readLooseTimestamp? (text : List Char) : Option Timestamp := do
  let (year, rest) ← (scanYear (Unicode.trimStart text)).toOption
  let rest ← looseChar '-' rest
  let (month, rest) ← (scanField 1 12 rest).toOption
  let rest ← looseChar '-' rest
  let (day, rest) ← (scanField 1 31 rest).toOption
  let rest ← match rest with
    | c :: rest => if c = 'T' ∨ c = 't' ∨ c = ' ' then some rest else none
    | [] => none
  let (hour, rest) ← looseField 23 rest
  let rest ← looseChar ':' rest
  let (minute, rest) ← looseField 59 rest
  let rest ← looseChar ':' rest
  let (second, rest) ← looseField 60 rest
  let (nanos, rest) ← scanFraction rest
  let rest := Unicode.trimStart rest
  let (offset, rest) ←
    if isUtc (rest.take 3) then some (0, rest.drop 3) else scanOffset looseSeparator rest
  if (Unicode.trimStart rest).isEmpty && isBefore24Hours offset then
    moment? ⟨year, month, day⟩ ⟨hour, minute, second, nanos⟩ offset
  else none

end RecordSql.Calendar
