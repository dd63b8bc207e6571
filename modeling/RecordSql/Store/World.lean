import RecordSql.Deadline
import RecordSql.Server.Link
import RecordSql.Server.Script
import RecordSql.Store.Log
import RecordSql.StoreConfig

namespace RecordSql.Store

open Server

-- The right to use a connection until it is given back. Connections are counted from zero, and
-- no two leases have one number.
structure Lease where
  number : Nat
  connection : Nat
  pooled : Bool
  deriving DecidableEq

structure Transaction where
  lease : Lease
  deadline : Deadline
  deriving DecidableEq

-- A rollback that nobody waits for: its connection, and which of the messages it is.
structure Rollback where
  lease : Lease
  message : Nat
  deriving DecidableEq

-- The connections that are kept. Idle ones wait with the oldest in front; of those that are
-- lent only the number is known.
structure Pool where
  limit : Nat
  closed : Bool := false
  idle : List Nat := []
  lent : Nat := 0
  deriving DecidableEq

def Pool.size (p : Pool) : Nat := p.idle.length + p.lent

inductive WireEvent
  | connect (connection : Nat) (welcome : Welcome)
  | taken (connection : Nat) (content : Content)

structure World where
  config : StoreConfig
  server : Behaviour
  -- What happens to the connections that are still to be opened. After the last entry all of
  -- them are accepted.
  welcomes : List Welcome
  -- For each operation that starts after its deadline, whether its first message is sent all
  -- the same. After the last entry none is.
  races : List Bool := []
  timer : Timer := Timer.steady
  now : Moment := Moment.start
  links : List Link := []
  pool : Pool
  context : Deadline
  -- Open transactions by name, in rising order of the names.
  transactions : List (String × Transaction) := []
  rollbacks : List Rollback := []
  -- The number of leases so far.
  leases : Nat := 0
  wire : List WireEvent := []
  logs : List LogEntry := []

abbrev Action := StateM World

namespace World

def start (config : StoreConfig) (server : Behaviour) (welcomes : List Welcome)
    (races : List Bool) : World :=
  { config, server, welcomes, races
    pool := { limit := config.poolSize }
    context := Deadline.after Moment.start config.timeout }

def log (w : World) (entry : LogEntry) : World := { w with logs := w.logs ++ [entry] }

def updateLink (w : World) (connection : Nat) (change : Link → Link) : World :=
  { w with links := w.links.modify connection change }

def link? (w : World) (connection : Nat) : Option Link := w.links[connection]?

def reply? (w : World) (connection message : Nat) : Option Reply :=
  (w.link? connection).bind (·.reply? message)

def send (w : World) (lease : Lease) (content : Content) : World :=
  w.updateLink lease.connection (·.send ⟨lease.number, content⟩)

-- Gives a connection back. A pool that has shrunk does not keep it, and one that is not
-- pooled ends when its messages are answered.
def giveBack (w : World) (lease : Lease) : World :=
  if !lease.pooled then w
  else if w.pool.size ≤ w.pool.limit then
    { w with
      pool := { w.pool with idle := w.pool.idle ++ [lease.connection], lent := w.pool.lent - 1 } }
  else
    { w with pool := { w.pool with lent := w.pool.lent - 1 } }.updateLink lease.connection Link.sever

def discard (w : World) (lease : Lease) : World :=
  if !lease.pooled then w
  else
    { w with pool := { w.pool with lent := w.pool.lent - 1 } }.updateLink lease.connection Link.sever

def close (w : World) : World :=
  { w.pool.idle.foldl (fun w connection => w.updateLink connection Link.sever) w with
    pool := { w.pool with limit := 0, closed := true, idle := [] } }

-- The tick at which a connection answers what it works on. One that works on nothing can go on
-- at once.
def dueTick (w : World) (connection : Nat) : Nat :=
  (((w.link? connection).bind (·.current)).map (·.due)).getD 0

def isDueFirst (w : World) (a b : Nat) : Bool := w.dueTick a ≤ w.dueTick b

-- Lets every link do what it can do now. The one that is due first comes first, so that the
-- messages that are taken up, and the rollbacks that end, stand in that order.
def serve (w : World) : World :=
  let served := w.links.map (·.serve w.server w.now)
  let order := (List.range w.links.length).mergeSort w.isDueFirst
  let taken := fun (connection : Nat) =>
    (served[connection]?.map (·.2.map (.taken connection))).getD []
  { w with
    links := served.map (·.1)
    wire := w.wire ++ order.flatMap taken
    rollbacks := w.rollbacks.mergeSort fun a b =>
      w.isDueFirst a.lease.connection b.lease.connection }

-- Ends a rollback that has been answered. A connection whose rollback failed is given up.
def finishRollback (w : World) (rollback : Rollback) : World :=
  match w.reply? rollback.lease.connection rollback.message with
  | none => { w with rollbacks := w.rollbacks ++ [rollback] }
  | some .refused =>
    (w.log (.failed "background rollback failed" (.query "db error"))).discard rollback.lease
  | some _ => w.giveBack rollback.lease

def finishRollbacks (w : World) : World :=
  w.rollbacks.foldl finishRollback { w with rollbacks := [] }

-- Does all that can be done without time passing.
def settle (w : World) : World := w.serve.finishRollbacks

def waitFor (w : World) (tick : Nat) : World := { w with now := w.timer.ring w.now tick }

def nextDue (w : World) : Option Nat :=
  (w.links.filterMap fun l => l.current.map (·.due)).min?

def pending (w : World) : Nat :=
  w.links.foldl (fun count l => count + l.current.toList.length + l.waiting.length) 0

end World

-- Waits until something is ready, or until a tick. Of something and the limit at one tick the
-- limit counts. With every answer fewer messages are left.
def awaitWith {α : Type} (ready : World → Option α) (limit : Option Nat) : Nat → Action (Option α)
  | 0 => return none
  | fuel + 1 => do
    let w ← get
    match ready w with
    | some a => return some a
    | none =>
      match w.nextDue, limit with
      | some due, none =>
        set (w.waitFor due).settle
        awaitWith ready limit fuel
      | some due, some tick =>
        if tick ≤ due then
          set (w.waitFor tick)
          return none
        else
          set (w.waitFor due).settle
          awaitWith ready limit fuel
      | none, some tick =>
        set (w.waitFor tick)
        return none
      | none, none => return none

-- The number of the messages that are left is fuel enough.
def awaitUntil {α : Type} (ready : World → Option α) (limit : Option Nat) :
    Action (Option α) := do
  awaitWith ready limit ((← get).pending + 1)

def await {α : Type} (ready : World → Option α) (limit : Option Deadline) : Action (Option α) :=
  awaitUntil ready (limit.map (·.expiry.nextTick))

def waitUntil (tick : Nat) : Action Unit := do
  if (← get).now.lastTick < tick then
    let _ ← awaitUntil (fun _ => (none : Option Unit)) (some tick)

def record (entry : LogEntry) : Action Unit := modify (·.log entry)

end RecordSql.Store
