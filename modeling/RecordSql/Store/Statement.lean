import RecordSql.Sql.Statement
import RecordSql.Store.Checkout
import RecordSql.Store.Exchange
import RecordSql.Store.Scan

namespace RecordSql.Store

open Server

variable {σ : Type}

def loggedStatement (failure : String) (lease : Lease) (limit : Deadline) (sql : String)
    (arguments : List Value) : Action (Except Error Completion) := do
  record (.executing sql arguments.length)
  match ← statement lease (some limit) sql arguments with
  | .ok done => return .ok done
  | .error e =>
    record (.statementFailed failure e sql arguments.length)
    return .error e

def executeOn (lease : Lease) (limit : Deadline) (sql : String) (arguments : List Value) :
    Action (Except Error Nat) := do
  return (← loggedStatement "exec failed" lease limit sql arguments).map (·.affected)

-- What a scan comes to. That nothing was found is logged and is no error.
def scanned (failure : String) (sql : String) (arguments : Nat) :
    Option Error → Action (Except Error Unit)
  | none => return .ok ()
  | some e => do
    if e.isNotFound then
      record (.resultNotFound sql arguments)
      return .ok ()
    else
      record (.statementFailed failure e sql arguments)
      return .error e

-- Hands the rows of a query to a scan. To find none is no error.
def queryOn (lease : Lease) (limit : Deadline) (scan : Scan σ) (state : σ) (sql : String)
    (arguments : List Value) : Action (σ × Except Error Unit) := do
  match ← loggedStatement "query failed" lease limit sql arguments with
  | .error e => return (state, .error e)
  | .ok done =>
    if done.rows.isEmpty then
      record (.resultNotFound sql arguments.length)
      return (state, .ok ())
    else
      let (state, refused) := scan.all state done.rows
      return (state, ← scanned "scan rows failed" sql arguments.length refused)

def queryRowOn (lease : Lease) (limit : Deadline) (scan : Scan σ) (state : σ) (sql : String)
    (arguments : List Value) : Action (σ × Except Error Unit) := do
  match ← loggedStatement "query row failed" lease limit sql arguments with
  | .error e => return (state, .error e)
  | .ok done =>
    match done.rows with
    | [] =>
      record (.resultNotFound sql arguments.length)
      return (state, .ok ())
    | row :: _ =>
      let (state, refused) := scan state row
      return (state, ← scanned "scan row failed" sql arguments.length refused)

def contains (part : List Char) : List Char → Bool
  | [] => part.isEmpty
  | c :: rest => part.isPrefixOf (c :: rest) || contains part rest

def hasReturningClause (sql : String) : Bool :=
  contains Sql.returningId.toList sql.toList

def firstCell (reader : CellReader) : List Row → Except Error Value
  | [] => .error (.notFound "Expected one row, got none")
  | row :: _ => (row.read reader 0).mapError (.decode "id" ·.message)

-- Executes a statement that gives back the identifier of a row and reads it. Without the
-- clause for it nothing is sent.
def returnedIdOn (lease : Lease) (limit : Deadline) (reader : CellReader) (sql : String)
    (arguments : List Value) : Action (Except Error Value) := do
  let failure := "exec with returned id failed"
  if !hasReturningClause sql then
    record (.statementFailed failure .missingReturningClause sql arguments.length)
    return .error .missingReturningClause
  else
    match ← loggedStatement failure lease limit sql arguments with
    | .error e => return .error e
    | .ok done =>
      match firstCell reader done.rows with
      | .error (.notFound reason) =>
        record (.statementFailed failure (.notFound reason) sql arguments.length)
        return .error (.notFound reason)
      | result => return result

def withLease {α : Type} (limit : Deadline) (use : Lease → Action α) : Action (Except Error α) := do
  match ← acquire limit with
  | .error e => return .error e
  | .ok lease =>
    let result ← use lease
    modify (·.giveBack lease)
    return .ok result

def exec (limit : Deadline) (sql : String) (arguments : List Value) : Action (Except Error Nat) := do
  return (← withLease limit fun lease => executeOn lease limit sql arguments).bind id

def scanResult (state : σ) : Except Error (σ × Except Error Unit) → σ × Except Error Unit
  | .ok result => result
  | .error e => (state, .error e)

def query (limit : Deadline) (scan : Scan σ) (state : σ) (sql : String) (arguments : List Value) :
    Action (σ × Except Error Unit) := do
  return scanResult state
    (← withLease limit fun lease => queryOn lease limit scan state sql arguments)

def queryRow (limit : Deadline) (scan : Scan σ) (state : σ) (sql : String)
    (arguments : List Value) : Action (σ × Except Error Unit) := do
  return scanResult state
    (← withLease limit fun lease => queryRowOn lease limit scan state sql arguments)

end RecordSql.Store
