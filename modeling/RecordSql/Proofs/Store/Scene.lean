import Mathlib.Logic.Relation
import RecordSql.Proofs.Store.Backlog
import RecordSql.Proofs.Store.Custody

namespace RecordSql.Store

open Server

-- A store at some moment: with the leases of the operations that are under way, and with the
-- connections that were given up or closed.
structure Scene where
  held : List Lease := []
  gone : List Nat := []
  world : World

-- The leases that are out.
def Scene.out (s : Scene) : List Lease := s.world.leasesOut s.held

-- Time passes, something is logged, or the like. Connections and leases have no part in it.
structure Alongside (w after : World) : Prop where
  config : after.config = w.config
  links : after.links = w.links
  pool : after.pool = w.pool
  transactions : after.transactions = w.transactions
  rollbacks : after.rollbacks = w.rollbacks
  leases : after.leases = w.leases

namespace World

-- The message of a rollback is the last one that was sent over its connection.
def SentLast (w : World) (rollback : Rollback) : Prop :=
  ∃ earlier, w.sentOver rollback.lease.connection =
      earlier ++ [⟨rollback.lease.number, .batch rollbackSql⟩] ∧
    rollback.message = earlier.length

-- Whether a connection that is opened next is accepted.
def isWelcome (w : World) : Prop := w.connect.1 = .accept

end World

-- What can happen next, while any number of operations are under way. A connection may go back to
-- the pool when all that was sent over it has been answered, or when its lease is one of the stale
-- ones.
inductive Move (stale : Lease → Prop) : Scene → Scene → Prop
  | aside {held : List Lease} {gone : List Nat} {w after : World} (ha : Alongside w after) :
    Move stale ⟨held, gone, w⟩ ⟨held, gone, after⟩
  | serve {held : List Lease} {gone : List Nat} {w : World} :
    Move stale ⟨held, gone, w⟩ ⟨held, gone, w.serve⟩
  -- A connection is opened in vain.
  | openLost {held : List Lease} {gone : List Nat} {w : World} :
    Move stale ⟨held, gone, w⟩ ⟨held, w.links.length :: gone, w.connect.2.2⟩
  | sever {held : List Lease} {gone : List Nat} {w : World} {connection : Nat}
      (hg : connection ∈ gone) :
    Move stale ⟨held, gone, w⟩ ⟨held, gone, w.updateLink connection Link.sever⟩
  | lendIdle {held : List Lease} {gone : List Nat} {w : World} {connection : Nat} {idle : List Nat}
      (hi : w.pool.idle = connection :: idle) :
    Move stale ⟨held, gone, w⟩
      ⟨({ w with pool.idle := idle }.lend connection).1 :: held, gone,
        ({ w with pool.idle := idle }.lend connection).2⟩
  | lendOpened {held : List Lease} {gone : List Nat} {w : World} (hw : w.isWelcome)
      (hi : w.pool.idle = []) (hr : w.hasRoom = true) :
    Move stale ⟨held, gone, w⟩
      ⟨(w.connect.2.2.lend w.links.length).1 :: held, gone, (w.connect.2.2.lend w.links.length).2⟩
  -- A connection that is not pooled.
  | openOwn {held : List Lease} {gone : List Nat} {w : World} (hw : w.isWelcome) :
    Move stale ⟨held, gone, w⟩
      ⟨(w.connect.2.2.lease w.links.length false).1 :: held, gone,
        (w.connect.2.2.lease w.links.length false).2⟩
  | send {held : List Lease} {gone : List Nat} {w : World} {lease : Lease} (hu : w.Uses held lease)
      (content : Content) :
    Move stale ⟨held, gone, w⟩ ⟨held, gone, w.send lease content⟩
  | giveBack {held : List Lease} {gone : List Nat} {w : World} {lease : Lease}
      (hp : lease.pooled = true) (hs : w.pool.size ≤ w.pool.limit)
      (hq : w.backlog lease.connection = [] ∨ stale lease) :
    Move stale ⟨lease :: held, gone, w⟩ ⟨held, gone, w.giveBack lease⟩
  | discard {held : List Lease} {gone : List Nat} {w : World} {lease : Lease} :
    Move stale ⟨lease :: held, gone, w⟩ ⟨held, lease.connection :: gone, w.discard lease⟩
  | close {held : List Lease} {gone : List Nat} {w : World} :
    Move stale ⟨held, gone, w⟩ ⟨held, w.pool.idle ++ gone, w.close⟩
  -- An operation takes over open transactions, or leaves some behind.
  | handOver {held left : List Lease} {gone : List Nat} {w : World}
      {transactions : List (String × Transaction)} (hn : (transactions.map (·.1)).Nodup)
      (hp : (held ++ w.transactions.map (·.2.lease)).Perm
        (left ++ transactions.map (·.2.lease))) :
    Move stale ⟨held, gone, w⟩ ⟨left, gone, { w with transactions }⟩
  -- A rollback is left to itself.
  | leave {held : List Lease} {gone : List Nat} {w : World} {rollback : Rollback}
      (hl : w.SentLast rollback) :
    Move stale ⟨rollback.lease :: held, gone, w⟩
      ⟨held, gone, { w with rollbacks := w.rollbacks ++ [rollback] }⟩
  -- The rollbacks that were left look for their answers.
  | resume {held : List Lease} {gone : List Nat} {w : World} :
    Move stale ⟨held, gone, w⟩
      ⟨w.rollbacks.map (·.lease) ++ held, gone, { w with rollbacks := [] }⟩

-- Any number of moves.
abbrev Moves (stale : Lease → Prop) : Scene → Scene → Prop := Relation.ReflTransGen (Move stale)

end RecordSql.Store
