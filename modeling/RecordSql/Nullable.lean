import RecordSql.Bind

namespace RecordSql

inductive ScalarKind
  | text
  | int
  | bool
  | float
  | time
  deriving DecidableEq

namespace ScalarKind

abbrev Carrier : ScalarKind → Type
  | .text => String
  | .int => Int64
  | .bool => Bool
  | .float => Binary.Double
  | .time => Calendar.Timestamp

def toValue : (k : ScalarKind) → k.Carrier → Value
  | .text, s => .text s
  | .int, n => .int n
  | .bool, b => .bool b
  | .float, x => .float x
  | .time, t => .timestamp t

def accepts : ScalarKind → ColumnType → Bool
  | .text, .character _ => true
  | .int, .parsed .int8 => true
  | .bool, .parsed .bool => true
  | .float, .parsed .float8 => true
  | .time, .parsed .timestamptz => true
  | _, _ => false

def isVersioned : ColumnType → Bool
  | .character type => type.versioned
  | _ => false

def write : (k : ScalarKind) → k.Carrier → ColumnType → Except BindError (List UInt8)
  | .text, s, type => .ok (Bind.characters (isVersioned type) s)
  | .int, n, _ => .ok (Bind.integer 8 n.toInt)
  | .bool, b, _ => .ok (Bind.boolean b)
  | .float, x, _ => .ok (Wire.bigEndian 8 x.bits.toNat)
  | .time, t, _ => Bind.moment t

def readUtf8 (bytes : List UInt8) : Except BindError String :=
  match Wire.ofUtf8? bytes with
  | some s => .ok s
  | none => .error .utf8

def readCharacters (type : ColumnType) (bytes : List UInt8) : Except BindError String :=
  if isVersioned type then
    match bytes with
    | 1 :: rest => readUtf8 rest
    | _ => .error (.unknownVersion type.display)
  else readUtf8 bytes

def eightBytes (surplus : BindError) (bytes : List UInt8) : Except BindError Unit :=
  if bytes.length < 8 then .error .tooFewBytes
  else if 8 < bytes.length then .error surplus
  else .ok ()

def readMoment (bytes : List UInt8) : Except BindError Calendar.Timestamp :=
  let t := Calendar.Timestamp.ofStoredMicros (Wire.ofSigned bytes)
  if t.isInRange then .ok t else .error .tooLargeToRead

def read : (k : ScalarKind) → ColumnType → List UInt8 → Except BindError k.Carrier
  | .text, type, bytes => readCharacters type bytes
  | .int, _, bytes => do
    eightBytes .tooManyBytes bytes
    .ok (Int64.ofInt (Wire.ofSigned bytes))
  | .bool, _, bytes =>
    match bytes with
    | [b] => .ok (b != 0)
    | _ => .error .tooManyBytes
  | .float, _, bytes => do
    eightBytes .tooManyBytes bytes
    .ok (Binary.Double.ofBitsNat (Wire.ofBigEndian bytes))
  | .time, _, bytes => do
    eightBytes .tooManyTimeBytes bytes
    readMoment bytes

-- The JSON text of a scalar. Times are written to the second.
def writeJson : (k : ScalarKind) → k.Carrier → List Char
  | .text, s => Json.writeText s.toList
  | .int, n => decimal n.toInt
  | .bool, b => if b then "true".toList else "false".toList
  | .float, x => Json.writeReal x
  | .time, t => Json.writeText t.text

-- The JSON text that stands for no scalar: null, or zero for a number.
def absentJson : ScalarKind → List Char
  | .int => ['0']
  | .float => ['0']
  | _ => "null".toList

def int64? (n : Int) : Option Int64 :=
  if (IntegerRange.signed 64).contains n then some (Int64.ofInt n) else none

def real (value : NumberValue) : Binary.Double :=
  match value with
  | .integer n => Binary.Double.ofQuotient (n < 0) n.natAbs 1
  | .real x => x

-- The scalar that a JSON value holds. An integer has to be written as one and to fit.
def ofJson? : (k : ScalarKind) → Json → Option k.Carrier
  | .text, .text s => some s
  | .int, .number n => n.integer?.bind int64?
  | .bool, .bool b => some b
  | .float, .number n => n.value?.map real
  | .time, .text s => Calendar.readLooseTimestamp? s.toList
  | _, _ => none

def same : (k : ScalarKind) → k.Carrier → k.Carrier → Bool
  | .text, a, b => a == b
  | .int, a, b => a == b
  | .bool, a, b => a == b
  | .float, a, b => !a.isNaN && !b.isNaN && (a == b || (a.isZero && b.isZero))
  | .time, a, b => a == b

end ScalarKind

structure Nullable (k : ScalarKind) where
  content : Option k.Carrier

namespace Nullable

variable {k : ScalarKind}

def isValid (n : Nullable k) : Bool :=
  n.content.isSome

def toValue (n : Nullable k) : Value :=
  n.content.elim .null k.toValue

-- As a field of a record it counts when it is there, whatever it holds.
def toField (n : Nullable k) : Field :=
  n.content.elim .absent fun c => .present (.required (k.toValue c))

def write (n : Nullable k) (type : ColumnType) : Except BindError Payload :=
  match n.content with
  | none => .ok none
  | some c => (k.write c type).map some

def writeChecked (n : Nullable k) (type : ColumnType) : Except BindError Payload :=
  if k.accepts type then n.write type else .error .wrongType

def read (type : ColumnType) (payload : Payload) : Except BindError (Nullable k) :=
  match payload with
  | none => .ok ⟨none⟩
  | some bytes => (k.read type bytes).map fun c => ⟨some c⟩

def readChecked (type : ColumnType) (payload : Payload) : Except BindError (Nullable k) :=
  if k.accepts type then read type payload else .error .wrongType

def toJson (n : Nullable k) : String :=
  String.ofList (n.content.elim k.absentJson k.writeJson)

-- Reads a JSON text, in which null stands for no scalar.
def ofJson? (json : String) : Option (Nullable k) :=
  match Json.read? Json.usualDepth json with
  | none => none
  | some .null => some ⟨none⟩
  | some value => (k.ofJson? value).map fun c => ⟨some c⟩

def same (a b : Nullable k) : Bool :=
  match a.content, b.content with
  | none, none => true
  | some a, some b => k.same a b
  | _, _ => false

end Nullable

end RecordSql
