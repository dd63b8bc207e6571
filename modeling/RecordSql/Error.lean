import RecordSql.Duration

namespace RecordSql

inductive Error
  | connection (reason : String)
  | query (reason : String)
  | notFound (reason : String)
  | decode (column : String) (reason : String)
  | validation (reason : String)
  | misuse (reason : String)
  | missingReturningClause
  | pool (reason : String)
  | timeout (after : Duration)
  | other (reason : String)
  deriving DecidableEq

namespace Error

def message : Error → String
  | .connection reason => "Connection error: " ++ reason
  | .query reason => reason
  | .notFound reason => "Not found: " ++ reason
  | .decode column reason => "Decode error on column '" ++ column ++ "': " ++ reason
  | .validation reason => "Validation error: " ++ reason
  | .misuse reason => "Builder misuse: " ++ reason
  | .missingReturningClause => "query has no RETURNING id clause"
  | .pool reason => "Pool error: " ++ reason
  | .timeout after => "Query timeout after " ++ after.inspect
  | .other reason => reason

def isNotFound : Error → Bool
  | .notFound _ => true
  | _ => false

def isTimeout : Error → Bool
  | .timeout _ => true
  | _ => false

def isMisuse : Error → Bool
  | .misuse _ => true
  | _ => false

end Error

end RecordSql
