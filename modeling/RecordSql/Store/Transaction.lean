import RecordSql.Store.Statement

namespace RecordSql.Store

open Server

def beginSql : String := "BEGIN ISOLATION LEVEL SERIALIZABLE"

def commitSql : String := "COMMIT"

def rollbackSql : String := "ROLLBACK"

-- Opens a transaction on a connection. When that fails the state of the connection is unknown,
-- and it is given up.
def beginOn (lease : Lease) (deadline : Deadline) : Action (Except Error Transaction) := do
  match ← batch lease (some deadline) beginSql with
  | .ok () => return .ok ⟨lease, deadline⟩
  | .error e =>
    record (.failed "begin transaction failed" e)
    modify (·.discard lease)
    return .error e

-- Opens a transaction on a connection of the pool. It lasts no longer than the configured
-- timeout.
def beginTransaction (context : Deadline) : Action (Except Error Transaction) := do
  let w ← get
  let deadline := context.child w.now w.config.timeout
  match ← acquire deadline with
  | .error e => return .error e
  | .ok lease => beginOn lease deadline

def welcomeError : Welcome → Option Error
  | .accept => none
  | .refuse => some refusal
  | .hangUp => some (.query "connection closed")
  | .ignore => some (.query "connection closed")

-- Opens a transaction on a connection of its own. No deadline bounds the time that it takes to
-- connect.
def beginUnpooled (deadline : Deadline) : Action (Except Error Transaction) := do
  let w ← get
  let (welcome, connection, opened) := w.connect
  match welcomeError welcome with
  | some e =>
    set opened
    waitUntil w.welcomeTick
    return .error e
  | none =>
    let (lease, leased) := opened.lease connection false
    set leased
    waitUntil w.welcomeTick
    beginOn lease deadline

def Transaction.bound (t : Transaction) (context : Deadline) : Deadline :=
  context.earliest t.deadline

-- Rolls back after a commit that failed. Whatever comes of it, the connection is given up.
def rollbackFailedCommit (t : Transaction) : Action Unit := do
  let w ← get
  let limit := Deadline.after w.now w.config.timeout
  match ← batch t.lease (some limit) rollbackSql with
  | .ok () => pure ()
  | .error e => record (.failed "rollback after failed commit failed" e)
  modify (·.discard t.lease)

-- Ends a transaction. The error of a commit that failed is reported even when the rollback
-- after it fails too.
def commit (context : Deadline) (t : Transaction) : Action (Except Error Unit) := do
  match ← batch t.lease (some (t.bound context)) commitSql with
  | .ok () =>
    modify (·.giveBack t.lease)
    return .ok ()
  | .error e =>
    record (.failed "commit failed, rolling back" e)
    rollbackFailedCommit t
    return .error e

def rollback (context : Deadline) (t : Transaction) : Action (Except Error Unit) := do
  match ← batch t.lease (some (t.bound context)) rollbackSql with
  | .ok () =>
    modify (·.giveBack t.lease)
    return .ok ()
  | .error e =>
    record (.failed "rollback failed" e)
    modify (·.discard t.lease)
    return .error e

def abandon (t : Transaction) : Action Unit := do
  record .droppedOpen
  let w ← get
  let message := w.nextMessage t.lease.connection
  set { w.send t.lease (.batch rollbackSql) with
    rollbacks := w.rollbacks ++ [Rollback.mk t.lease message] }

-- Lets go of an open transaction when nothing can be sent any more.
def abandonOffline (t : Transaction) : Action Unit := do
  record .droppedOpen
  modify (·.discard t.lease)

namespace World

def transaction? (w : World) (name : String) : Option Transaction :=
  w.transactions.lookup name

def removeTransaction (w : World) (name : String) : World :=
  { w with transactions := w.transactions.filter (·.1 != name) }

def insertTransaction (name : String) (t : Transaction) :
    List (String × Transaction) → List (String × Transaction)
  | [] => [(name, t)]
  | entry :: rest =>
    if name < entry.1 then (name, t) :: entry :: rest
    else entry :: insertTransaction name t rest

def keepTransaction (w : World) (name : String) (t : Transaction) : World :=
  { w with transactions := insertTransaction name t w.transactions }

end World

def dropNamed (name : String) : Action Unit := do
  let w ← get
  match w.transaction? name with
  | none => pure ()
  | some t =>
    set (w.removeTransaction name)
    abandon t

-- Keeps a transaction under a name. One that is already open under the name is let go.
def keepNamed (name : String) (t : Transaction) : Action Unit := do
  dropNamed name
  modify (·.keepTransaction name t)

end RecordSql.Store
