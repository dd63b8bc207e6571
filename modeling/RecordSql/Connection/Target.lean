import RecordSql.Connection.KeyValue
import RecordSql.Connection.Url

namespace RecordSql.Connection

def schemes : List (List Char) :=
  ["postgres://".toList, "postgresql://".toList]

def settings? (text : List Char) : Option (List Setting) :=
  match schemes.findSome? (·.isPrefixOf? text) with
  | some address => readAddress address
  | none => readSettings text.length text

-- The settings that a text gives, as an address or as pairs of keys and values. One setting
-- that is not valid spoils the text.
def read? (text : String) : Option (List Setting) :=
  match settings? text.toList with
  | none => none
  | some settings => if settings.all Setting.isValid then some settings else none

end RecordSql.Connection
