import RecordSql.Store.World

namespace RecordSql.Store

open Server

inductive PoolError
  | closed
  | refused
  | hungUp
  deriving DecidableEq

def PoolError.message : PoolError → String
  | .closed => "Pool has been closed"
  | .refused => "Error occurred while creating a new object: db error"
  | .hungUp => "Error occurred while creating a new object: connection closed"

def PoolError.error (e : PoolError) : Error := .pool e.message

namespace World

-- Opens the next connection and tells how the server took it. A connection that is not
-- accepted is severed from the start.
def connect (w : World) : Welcome × Nat × World :=
  let welcome := w.welcomes.head?.getD .accept
  let connection := w.links.length
  let link : Link := { severed := welcome != .accept }
  (welcome, connection,
    { w with
      welcomes := w.welcomes.tail
      links := w.links ++ [link]
      wire := w.wire ++ [.connect connection welcome] })

-- The tick at which the server has looked at the next connection, when it is opened now.
def welcomeTick (w : World) : Nat := w.server.openingTick w.now w.links.length

def lease (w : World) (connection : Nat) (pooled : Bool) : Lease × World :=
  (⟨w.leases, connection, pooled⟩, { w with leases := w.leases + 1 })

def lend (w : World) (connection : Nat) : Lease × World :=
  { w with pool := { w.pool with lent := w.pool.lent + 1 } }.lease connection true

def hasRoom (w : World) : Bool := w.pool.lent < w.pool.limit

end World

-- Waits until the tick at which the server has looked at a connection. Tells whether that comes
-- before the deadline; of both at one tick the deadline counts.
def awaitWelcome (limit : Deadline) (tick : Nat) : Action Bool := do
  waitUntil (min tick limit.expiry.nextTick)
  return tick < limit.expiry.nextTick

-- An attempt to connect that the server turns down, unless the deadline ends it.
def turnDown (limit : Deadline) (tick : Nat) (e : PoolError) : Action (Except Error Lease) := do
  if ← awaitWelcome limit tick then return .error e.error else return .error limit.error

-- Opens a connection for the pool, which counts as lent from the start. When the deadline has
-- passed the attempt is made and given up.
def openPooled (limit : Deadline) : Action (Except Error Lease) := do
  let w ← get
  let (welcome, connection, opened) := w.connect
  match welcome with
  | .accept =>
    let (lease, lent) := opened.lend connection
    set lent
    if ← awaitWelcome limit w.welcomeTick then return .ok lease
    else
      modify (·.discard lease)
      return .error limit.error
  | .refuse =>
    set opened
    turnDown limit w.welcomeTick .refused
  | .hangUp =>
    set opened
    turnDown limit w.welcomeTick .hungUp
  | .ignore =>
    set opened
    waitUntil limit.expiry.nextTick
    return .error limit.error

def takeOrOpen (limit : Deadline) : Action (Except Error Lease) := do
  let w ← get
  match w.pool.idle with
  | connection :: idle =>
    let (lease, lent) := { w with pool := { w.pool with idle } }.lend connection
    set lent
    return .ok lease
  | [] => openPooled limit

-- Waits until the pool may lend a connection. A deadline that has passed leaves no time to
-- wait.
def awaitRoom (limit : Deadline) : Action Bool := do
  let w ← get
  if w.hasRoom then return true
  else if limit.hasRung w.now then return false
  else return (← await (fun w => if w.hasRoom then some () else none) (some limit)).isSome

def checkout (limit : Deadline) : Action (Except Error Lease) := do
  if (← get).pool.closed then return .error PoolError.closed.error
  else if ← awaitRoom limit then takeOrOpen limit
  else return .error limit.error

-- Checks a connection out, with a number of attempts left after this one. A timeout ends the
-- attempts.
def acquireWith (limit : Deadline) (attempt : Nat) : Nat → Action (Except Error Lease)
  | 0 => do
    match ← checkout limit with
    | .ok lease => return .ok lease
    | .error e =>
      record (.failed "connection checkout failed" e)
      return .error e
  | left + 1 => do
    match ← checkout limit with
    | .ok lease => return .ok lease
    | .error e =>
      if e.isTimeout then
        record (.failed "connection checkout failed" e)
        return .error e
      else
        record (.retrying e (attempt + 1) (← get).config.retryCount)
        acquireWith limit (attempt + 1) left

def acquire (limit : Deadline) : Action (Except Error Lease) := do
  acquireWith limit 0 (← get).config.retryCount

end RecordSql.Store
