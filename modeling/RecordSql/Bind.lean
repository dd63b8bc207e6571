import RecordSql.Binary.Reader
import RecordSql.Calendar.Reader
import RecordSql.ColumnType
import RecordSql.Json.Reader
import RecordSql.Json.Writer
import RecordSql.Numeric.Reader
import RecordSql.Numeric.Wire
import RecordSql.Value
import RecordSql.Wire.Bytes

namespace RecordSql

inductive BindError
  | wrongType
  | utf8
  | uuid
  | json
  | integer (cause : IntegerError)
  | narrowing (cause : IntegerError)
  | bool
  | float (cause : Binary.ReadError)
  | date (cause : Calendar.DateError)
  | numeric (cause : NumericError)
  | unparsable (value : String) (type : ColumnType)
  | arrayForScalar (type : ColumnType)
  | tooLargeToSend
  | tooLargeToRead
  | tooFewBytes
  | tooManyBytes
  | tooManyTimeBytes
  | unknownVersion (type : String)
  deriving DecidableEq

def BindError.message : BindError → String
  | .wrongType => ""
  | .utf8 => ""
  | .uuid => ""
  | .json => ""
  | .integer cause => cause.message
  | .narrowing cause => cause.message
  | .bool => "provided string was not `true` or `false`"
  | .float cause => cause.message
  | .date cause => cause.message
  | .numeric cause => cause.message
  | .unparsable value type => "cannot bind " ++ Text.quoted value ++ " to " ++ type.display
  | .arrayForScalar type => "cannot bind a text array to " ++ type.display
  | .tooLargeToSend => "value too large to transmit"
  | .tooLargeToRead => "value too large to decode"
  | .tooFewBytes => "failed to fill whole buffer"
  | .tooManyBytes => "invalid buffer size"
  | .tooManyTimeBytes => "invalid message length: timestamp not drained"
  | .unknownVersion type => type ++ " version 1 only supported"

-- What is sent for an argument: bytes, or nothing for SQL NULL.
abbrev Payload := Option (List UInt8)

namespace Bind

def withError {ε α : Type} (wrap : ε → BindError) : Except ε α → Except BindError α
  | .ok a => .ok a
  | .error e => .error (wrap e)

def integer (bytes : Nat) (n : Int) : List UInt8 :=
  Wire.signed bytes n

def boolean (b : Bool) : List UInt8 :=
  [if b then 1 else 0]

-- A moment is stored in microseconds.
def moment (t : Calendar.Timestamp) : Except BindError (List UInt8) :=
  let micros := t.toStoredMicros
  if (IntegerRange.signed 64).contains micros then .ok (integer 8 micros)
  else .error .tooLargeToSend

def day (d : Calendar.Date) : Except BindError (List UInt8) :=
  let days := d.toDays - Calendar.Timestamp.storedEpochDays
  if (IntegerRange.signed 32).contains days then .ok (integer 4 days)
  else .error .tooLargeToSend

-- A text for a character type: its UTF-8, after the version byte where the type has one.
def characters (versioned : Bool) (text : String) : List UInt8 :=
  if versioned then 1 :: Wire.utf8 text else Wire.utf8 text

def readBoolean (text : String) : Except BindError Bool :=
  if text = "true" then .ok true
  else if text = "false" then .ok false
  else .error .bool

def readInteger (width : Nat) (text : String) : Except BindError Int :=
  withError .integer ((IntegerRange.signed width).read text.toList)

def readDay (text : String) : Except BindError Calendar.Date :=
  withError .date (Calendar.readDate text.toList)

-- A moment with its offset from UTC, or a bare date that stands for its midnight.
def readMoment (text : String) : Except BindError Calendar.Timestamp :=
  match Calendar.readTimestamp? text.toList with
  | some t => .ok t
  | none => (readDay text).map Calendar.Timestamp.ofDate

def readJson (text : String) : Except BindError (List UInt8) :=
  match (Json.read? Json.usualDepth text).bind Json.write? with
  | some written => .ok (Wire.utf8 (String.ofList written))
  | none => .error .json

def parsed (type : ParsedType) (text : String) : Except BindError (List UInt8) :=
  match type with
  | .bool => (readBoolean text).map boolean
  | .int2 => (readInteger 16 text).map (integer 2)
  | .int4 => (readInteger 32 text).map (integer 4)
  | .int8 => (readInteger 64 text).map (integer 8)
  | .float4 =>
    withError .float ((Binary.Format.single.read text.toList).map (Wire.bigEndian 4))
  | .float8 =>
    withError .float ((Binary.Format.double.read text.toList).map (Wire.bigEndian 8))
  | .numeric => withError .numeric ((Numeric.read text.toList).map Numeric.wire)
  | .uuid =>
    match Uuid.read? text.toList with
    | some uuid => .ok uuid.bytes
    | none => .error .uuid
  | .json => readJson text
  | .jsonb => (readJson text).map (1 :: ·)
  | .timestamptz => (readMoment text).bind moment
  | .timestamp => (readMoment text).bind moment
  | .date => (readDay text).bind day

-- Binds a text. Only a character type takes it as it is; any other type it cannot be parsed
-- into refuses it.
def text (text : String) (type : ColumnType) : Except BindError (List UInt8) :=
  match type with
  | .parsed type => parsed type text
  | .character type => .ok (characters type.versioned text)
  | .array .. => .error (.unparsable text type)
  | .other _ => .error (.unparsable text type)

def isVersioned (element : ElementType) : Bool :=
  CharacterType.all.any fun type => type.name == element.name && type.versioned

def lengthOf (n : Nat) : Except BindError (List UInt8) :=
  if (IntegerRange.signed 32).contains n then .ok (integer 4 n) else .error .tooLargeToSend

-- One item of an array: its length in bytes, then the text.
def arrayItem (element : ElementType) (item : String) : Except BindError (List UInt8) :=
  let bytes := characters (isVersioned element) item
  (lengthOf bytes.length).map (· ++ bytes)

def arrayItems (element : ElementType) : List String → Except BindError (List UInt8)
  | [] => .ok []
  | item :: rest => do
    let first ← arrayItem element item
    let others ← arrayItems element rest
    return first ++ others

-- An array of one dimension: the count of dimensions, the flag for nulls, the item type, the
-- length and the lower bound, then the items. The items are written as texts whatever the
-- item type is.
def textArray (element : ElementType) (lowerBound : Nat) (items : List String) :
    Except BindError (List UInt8) := do
  let length ← lengthOf items.length
  let written ← arrayItems element items
  return integer 4 1 ++ integer 4 0 ++ Wire.bigEndian 4 element.oid ++ length ++
    integer 4 lowerBound ++ written

def narrowed (bytes : Nat) (n : Int) : Except BindError (List UInt8) :=
  (withError .narrowing ((IntegerRange.signed (8 * bytes)).narrow n)).map (integer bytes)

end Bind

namespace Value

-- The binary form of a value that is not null. Where the kind of the value is that of the
-- type it is written directly, otherwise its text is bound.
def bindPresent (value : Value) (type : ColumnType) : Except BindError (List UInt8) :=
  match value, type with
  | .bool b, .parsed .bool => .ok (Bind.boolean b)
  | .int n, .parsed .int8 => .ok (Bind.integer 8 n.toInt)
  | .int n, .parsed .int4 => Bind.narrowed 4 n.toInt
  | .int n, .parsed .int2 => Bind.narrowed 2 n.toInt
  | .uint n, .parsed .int8 => Bind.narrowed 8 n.toNat
  | .float x, .parsed .float8 => .ok (Wire.bigEndian 8 x.bits.toNat)
  | .timestamp t, .parsed .timestamptz => Bind.moment t
  | .timestamp t, .parsed .timestamp => Bind.moment t
  | .timestamp t, .parsed .date => Bind.day t.date
  | .uuid u, .parsed .uuid => .ok u.bytes
  | .textArray items, .array _ element lowerBound => Bind.textArray element lowerBound items
  | .textArray _, type => .error (.arrayForScalar type)
  | .text s, type => Bind.text s type
  | other, type => Bind.text other.encode type

-- Null binds to every type.
def bind (value : Value) (type : ColumnType) : Except BindError Payload :=
  match value with
  | .null => .ok none
  | value => (value.bindPresent type).map some

theorem bind_eq {value : Value} {type : ColumnType} (h : value ≠ .null) :
    value.bind type = (value.bindPresent type).map some := by
  cases value with
  | null => exact absurd rfl h
  | _ => rfl

theorem bind_text (s : String) (type : ColumnType) :
    (Value.text s).bind type = (Bind.text s type).map some := by
  cases type <;> rfl

end Value

end RecordSql
