import RecordSql.Store.Statement

namespace RecordSql.Store

inductive Call
  | query
  | queryOne
  | queryOptional
  | execute
  deriving DecidableEq

inductive CallResult
  | rows (rows : List Row)
  | row (row : Row)
  | noRow
  | affected (count : Nat)

def oneRow : List Row → Except Error CallResult
  | [] => .error (.notFound "Expected one row, got none")
  | row :: _ => .ok (.row row)

def optionalRow : List Row → CallResult
  | [] => .noRow
  | row :: _ => .rows [row]

def Call.result (call : Call) (done : Completion) : Except Error CallResult :=
  match call with
  | .query => .ok (.rows done.rows)
  | .queryOne => oneRow done.rows
  | .queryOptional => .ok (optionalRow done.rows)
  | .execute => .ok (.affected done.affected)

def callOn (lease : Lease) (limit : Option Deadline) (call : Call) (sql : String)
    (arguments : List Value) : Action (Except Error CallResult) := do
  return (← statement lease limit sql arguments).bind call.result

-- Runs a statement on a connection of the pool. Only the checkout is bounded.
def call (context : Deadline) (call : Call) (sql : String) (arguments : List Value) :
    Action (Except Error (Except Error CallResult)) :=
  withLease context fun lease => callOn lease none call sql arguments

end RecordSql.Store
