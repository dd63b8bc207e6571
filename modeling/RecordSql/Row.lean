import RecordSql.Nullable

namespace RecordSql

structure Row where
  columns : List ColumnType
  cells : List Payload

inductive CellType
  | scalar (kind : ScalarKind)
  | int4
  deriving DecidableEq

structure CellReader where
  type : CellType
  nullable : Bool
  deriving DecidableEq

inductive CellError
  | noColumn (index : Nat)
  | unreadable (index : Nat)
  deriving DecidableEq

def CellError.message : CellError → String
  | .noColumn index => "invalid column `" ++ decimalNat index ++ "`"
  | .unreadable index => "error deserializing column " ++ decimalNat index

namespace CellType

def accepts : CellType → ColumnType → Bool
  | .scalar kind, column => kind.accepts column
  | .int4, .parsed .int4 => true
  | .int4, _ => false

def readInt4 (bytes : List UInt8) : Option Value :=
  if bytes.length = 4 then some (.int (Int64.ofInt (Wire.ofSigned bytes))) else none

def read? : CellType → ColumnType → List UInt8 → Option Value
  | .scalar kind, column, bytes => (kind.read column bytes).toOption.map kind.toValue
  | .int4, _, bytes => readInt4 bytes

end CellType

namespace CellReader

-- Reads what a column holds. The type is looked at first.
def read? (r : CellReader) (column : ColumnType) (payload : Payload) : Option Value :=
  if r.type.accepts column then
    match payload with
    | none => if r.nullable then some .null else none
    | some bytes => r.type.read? column bytes
  else none

end CellReader

def Row.read (row : Row) (reader : CellReader) (index : Nat) : Except CellError Value :=
  match row.columns[index]? with
  | none => .error (.noColumn index)
  | some column =>
    match reader.read? column (row.cells[index]?.getD none) with
    | some value => .ok value
    | none => .error (.unreadable index)

end RecordSql
