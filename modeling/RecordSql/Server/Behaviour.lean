import RecordSql.Clock
import RecordSql.Nullable

namespace RecordSql.Server

inductive Welcome
  | accept
  | refuse
  | hangUp
  | ignore
  deriving DecidableEq

structure ResultSet where
  columns : List ColumnType
  rows : List (List Payload)

inductive Content
  | batch (sql : String)
  | prepare (sql : String)
  | execute (sql : String) (arguments : List Payload)
  deriving DecidableEq

def Content.sql : Content → String
  | .batch sql => sql
  | .prepare sql => sql
  | .execute sql _ => sql

-- Something sent, and the lease of the connection under which it was sent.
structure Message where
  lease : Nat
  content : Content
  deriving DecidableEq

-- The parameters of a prepared statement. Those without a type in the list are text.
structure Signature where
  count : Nat
  types : List ColumnType

inductive Reply
  | refused
  | prepared (signature : Signature)
  | done (result : ResultSet) (affected : Nat)

-- How a server behaves. Whatever it does with a message may depend on the number of the message
-- on its connection, so that the same statement may fare differently each time.
structure Behaviour where
  -- How long it takes to accept or to turn down the connection of a number.
  opening : Nat → Duration
  -- What a statement takes. A statement that cannot be prepared is refused.
  prepare : Nat → Message → Option Signature
  -- What a statement gives and how many rows it affects, or nothing when it fails.
  run : Nat → Message → Option (ResultSet × Nat)
  delay : Nat → Message → Duration

def Behaviour.reply (server : Behaviour) (number : Nat) (message : Message) : Reply :=
  match message.content with
  | .prepare _ => ((server.prepare number message).map .prepared).getD .refused
  | _ => ((server.run number message).map fun (result, affected) => .done result affected).getD
      .refused

-- The tick at which the server has looked at a connection that is opened now.
def Behaviour.openingTick (server : Behaviour) (now : Moment) (connection : Nat) : Nat :=
  let takes := server.opening connection
  if takes.nanos = 0 then now.lastTick else (now.add takes).nextTick

end RecordSql.Server
