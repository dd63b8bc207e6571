import RecordSql.Error
import RecordSql.Integer

namespace RecordSql.Store

inductive Level
  | debug
  | warning
  | error
  deriving DecidableEq

inductive Topic
  | store
  | sql
  deriving DecidableEq

structure LogEntry where
  level : Level
  topic : Topic
  message : String
  fields : List (String × String)
  deriving DecidableEq

namespace LogEntry

def statementFields (sql : String) (arguments : Nat) : List (String × String) :=
  [("sql", sql), ("param_count", decimalNat arguments)]

def errorField (error : Error) : String × String := ("error", error.message)

def executing (sql : String) (arguments : Nat) : LogEntry :=
  ⟨.debug, .sql, "executing", statementFields sql arguments⟩

def resultNotFound (sql : String) (arguments : Nat) : LogEntry :=
  ⟨.warning, .sql, "result not found", statementFields sql arguments⟩

def statementFailed (message : String) (error : Error) (sql : String) (arguments : Nat) : LogEntry :=
  ⟨.error, .sql, message, errorField error :: statementFields sql arguments⟩

def retrying (error : Error) (attempt retries : Nat) : LogEntry :=
  ⟨.warning, .store, "connection checkout failed, retrying",
    [errorField error, ("attempt", decimalNat attempt), ("retry_count", decimalNat retries)]⟩

-- Something that failed in the store itself.
def failed (message : String) (error : Error) : LogEntry :=
  ⟨.error, .store, message, [errorField error]⟩

def droppedOpen : LogEntry :=
  ⟨.warning, .store, "transaction dropped without commit or rollback, rolling back", []⟩

end LogEntry

end RecordSql.Store
