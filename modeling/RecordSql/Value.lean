import RecordSql.Binary.Text
import RecordSql.Calendar.Timestamp
import RecordSql.Integer
import RecordSql.Text.Quoted
import RecordSql.Uuid

namespace RecordSql

inductive Value
  | null
  | bool (value : Bool)
  | int (value : Int64)
  | uint (value : UInt64)
  | float (value : Binary.Double)
  | text (value : String)
  | timestamp (value : Calendar.Timestamp)
  | uuid (value : Uuid)
  | textArray (items : List String)
  deriving DecidableEq

namespace Value

-- The canonical text. Null has none, timestamps are written to the second, and the items of
-- an array stand between brackets, one space apart.
def encode : Value → String
  | .null => ""
  | .bool value => if value then "true" else "false"
  | .int value => String.ofList (decimal value.toInt)
  | .uint value => decimalNat value.toNat
  | .float value => value.render Binary.Layout.plain
  | .text value => value
  | .timestamp value => String.ofList value.text
  | .uuid value => String.ofList value.text
  | .textArray items => "[" ++ " ".intercalate items ++ "]"

def isNull : Value → Bool
  | .null => true
  | _ => false

-- Whether the value counts as unset when a field must have one: zero of either sign, false,
-- the empty text and the empty array. A moment or an identifier is never unset.
def isZero : Value → Bool
  | .null => true
  | .bool value => !value
  | .int value => value == 0
  | .uint value => value == 0
  | .float value => value.isZero
  | .text value => value == ""
  | .textArray items => items.isEmpty
  | .timestamp _ => false
  | .uuid _ => false

def inspect : Value → String
  | .null => "Null"
  | .bool value => "Bool(" ++ (if value then "true" else "false") ++ ")"
  | .int value => "Int(" ++ String.ofList (decimal value.toInt) ++ ")"
  | .uint value => "UInt(" ++ decimalNat value.toNat ++ ")"
  | .float value => "Float(" ++ value.render Binary.Layout.inspected ++ ")"
  | .text value => "Text(" ++ Text.quoted value ++ ")"
  | .timestamp value => "Timestamp(" ++ String.ofList value.inspected ++ ")"
  | .uuid value => "Uuid(" ++ String.ofList value.text ++ ")"
  | .textArray items => "TextArray(" ++ Text.listed (items.map Text.quoted) ++ ")"

end Value

-- What a record holds in a field: a value that is always there, or one that may be absent.
inductive Field
  | required (value : Value)
  | absent
  | present (content : Field)
  deriving DecidableEq

namespace Field

-- An absent field counts as null.
def toValue : Field → Value
  | .required value => value
  | .absent => .null
  | .present content => content.toValue

-- Whether statements leave the field out. A field that may be absent counts when it is
-- there, whatever it holds.
def isZero : Field → Bool
  | .required value => value.isZero
  | .absent => true
  | .present _ => false

end Field

end RecordSql
