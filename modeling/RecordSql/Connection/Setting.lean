import RecordSql.Connection.Address
import RecordSql.Integer

namespace RecordSql.Connection

structure Setting where
  key : String
  value : String
  deriving DecidableEq

namespace Setting

def isInteger (range : IntegerRange) (text : String) : Bool :=
  (range.read? text.toList).isSome

-- Whether a text is a list of ports between commas. An empty item is the usual port.
def isPortList (text : String) : Bool :=
  (Text.splitOn ',' text.toList).all fun port =>
    port.isEmpty || ((IntegerRange.unsigned 16).read? port).isSome

def isAddressList (text : String) : Bool :=
  (Text.splitOn ',' text.toList).all isAddress

def freeText : List String :=
  ["user", "password", "dbname", "options", "application_name", "host"]

def words? (key : String) : Option (List String) :=
  [("sslmode", ["disable", "prefer", "require"]),
    ("sslnegotiation", ["postgres", "direct"]),
    ("target_session_attrs", ["any", "read-write", "read-only"]),
    ("channel_binding", ["disable", "prefer", "require"]),
    ("load_balance_hosts", ["disable", "random"])].lookup key

def numbers? (key : String) : Option IntegerRange :=
  [("connect_timeout", IntegerRange.signed 64),
    ("tcp_user_timeout", IntegerRange.signed 64),
    ("keepalives", IntegerRange.unsigned 64),
    ("keepalives_idle", IntegerRange.signed 64),
    ("keepalives_interval", IntegerRange.signed 64),
    ("keepalives_retries", IntegerRange.unsigned 32)].lookup key

def isValid (s : Setting) : Bool :=
  if freeText.contains s.key then true
  else if s.key == "port" then isPortList s.value
  else if s.key == "hostaddr" then isAddressList s.value
  else
    match words? s.key, numbers? s.key with
    | some words, _ => words.contains s.value
    | none, some range => isInteger range s.value
    | none, none => false

end Setting

end RecordSql.Connection
