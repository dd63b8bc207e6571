import RecordSql.Row
import RecordSql.Store.World

namespace RecordSql.Store

open Server

def refusal : Error := .query "db error"

namespace World

-- Whether an operation that starts too late still sends its first message.
def takeRace (w : World) : Bool × World :=
  (w.races.head?.getD false, { w with races := w.races.tail })

def nextMessage (w : World) (connection : Nat) : Nat :=
  ((w.link? connection).map (·.sent.length)).getD 0

end World

-- The error when an answer does not come. Without a deadline only a severed connection keeps
-- it back.
def missingReply (limit : Option Deadline) : Error :=
  (limit.map (·.error)).getD (.query "connection closed")

-- Sends a message and waits for the answer. When the deadline has passed at the start the
-- answer is not waited for, and as a rule nothing is sent.
def exchange (lease : Lease) (limit : Option Deadline) (content : Content) :
    Action (Except Error Reply) := do
  let w ← get
  if limit.any (·.hasRung w.now) then
    let (sent, w) := w.takeRace
    set (if sent then (w.send lease content).settle else w)
    return .error (missingReply limit)
  else
    let message := w.nextMessage lease.connection
    set (w.send lease content).settle
    match ← await (·.reply? lease.connection message) limit with
    | some .refused => return .error refusal
    | some reply => return .ok reply
    | none => return .error (missingReply limit)

def batch (lease : Lease) (limit : Option Deadline) (sql : String) :
    Action (Except Error Unit) := do
  return (← exchange lease limit (.batch sql)).map fun _ => ()

def bindFrom (types : List ColumnType) (index : Nat) :
    List Value → Except Error (List Payload)
  | [] => .ok []
  | value :: rest =>
    match value.bind (types.head?.getD ColumnType.text) with
    | .ok payload => (bindFrom types.tail (index + 1) rest).map (payload :: ·)
    | .error _ => .error (.query ("error serializing parameter " ++ decimalNat index))

def bindArguments (signature : Signature) (arguments : List Value) : Except Error (List Payload) :=
  if signature.count = arguments.length then bindFrom signature.types 0 arguments
  else
    .error (.query ("expected " ++ decimalNat signature.count ++ " parameters but got " ++
      decimalNat arguments.length))

structure Completion where
  rows : List Row
  affected : Nat

def completionOf : Reply → Completion
  | .done result affected => ⟨result.rows.map (⟨result.columns, ·⟩), affected⟩
  | _ => ⟨[], 0⟩

def signatureOf : Reply → Signature
  | .prepared signature => signature
  | _ => ⟨0, []⟩

def statement (lease : Lease) (limit : Option Deadline) (sql : String) (arguments : List Value) :
    Action (Except Error Completion) := do
  match ← exchange lease limit (.prepare sql) with
  | .error e => return .error e
  | .ok reply =>
    match bindArguments (signatureOf reply) arguments with
    | .error e => return .error e
    | .ok payloads =>
      return (← exchange lease limit (.execute sql payloads)).map completionOf

end RecordSql.Store
