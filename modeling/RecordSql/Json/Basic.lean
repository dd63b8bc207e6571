namespace RecordSql

-- A number as it is written: the digits before the point, those after it, and the exponent
-- with its sign. What it is worth depends on who reads it.
structure JsonNumber where
  negative : Bool
  whole : List Char
  fraction : Option (List Char)
  exponent : Option (Bool × List Char)
  deriving DecidableEq

-- A JSON text. Members stand in the order of the text and may repeat a key.
inductive Json
  | null
  | bool (value : Bool)
  | number (value : JsonNumber)
  | text (value : String)
  -- A text with half of a surrogate pair, or an object with such a key. It is well formed and
  -- has no value.
  | broken
  | array (items : List Json)
  | object (members : List (String × Json))

end RecordSql
