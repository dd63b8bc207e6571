import RecordSql.Store.Call
import RecordSql.Store.Transaction

namespace RecordSql.Store

-- How the rows of a query are read: the value of a row by its number, or why it is refused.
abbrev RowReader := Nat → Row → Except Error Value

-- Something that the user of a store does. Transactions go by names.
inductive Step
  | context (timeout : Option Duration)
  | advance (time : Duration)
  | close
  | begin (name : String)
  | beginUnpooled (name : String) (timeout : Duration)
  | exec (sql : String) (arguments : List Value)
  | query (read : RowReader) (sql : String) (arguments : List Value)
  | queryRow (read : RowReader) (sql : String) (arguments : List Value)
  | call (call : Call) (sql : String) (arguments : List Value)
  | callIn (name : String) (call : Call) (sql : String) (arguments : List Value)
  | execIn (name : String) (sql : String) (arguments : List Value)
  | returnedIdIn (name : String) (reader : CellReader) (sql : String) (arguments : List Value)
  | deadlineOf (name : String)
  | commit (name : String)
  | rollback (name : String)
  | drop (name : String)
  -- Runs steps with a transaction under the name. The outcome of the steps is the given one.
  | withTransaction (name : String) (steps : List Step) (outcome : Except Error Unit)

inductive Answer
  | done
  | noTransaction
  | finished (result : Except Error Unit)
  | affected (result : Except Error Nat)
  | scanned (values : List Value) (result : Except Error Unit)
  | notAcquired (error : Error)
  | called (result : Except Error CallResult)
  | identifier (result : Except Error Value)
  | deadline (remaining timeout : Duration)
  | within (inner : List Answer) (result : Except Error Unit)

def collecting (read : RowReader) : Scan (List Value) := fun values row =>
  match read values.length row with
  | .ok value => (values ++ [value], none)
  | .error e => (values, some e)

def callAnswer : Except Error (Except Error CallResult) → Answer
  | .ok result => .called result
  | .error e => .notAcquired e

def withNamed (name : String) (use : World → Transaction → Action Answer) :
    Action Answer := do
  let w ← get
  match w.transaction? name with
  | none => return .noTransaction
  | some t => use w t

def endNamed (name : String) (finish : Deadline → Transaction → Action (Except Error Unit)) :
    Action Answer :=
  withNamed name fun w t => do
    set (w.removeTransaction name)
    return .finished (← finish w.context t)

def keepOpened (name : String) : Except Error Transaction → Action Answer
  | .ok t => do
    keepNamed name t
    return .finished (.ok ())
  | .error e => return .finished (.error e)

def newContext (w : World) (timeout : Option Duration) : World :=
  { w with context := Deadline.after w.now (timeout.getD w.config.timeout) }

def advanceClock (w : World) (time : Duration) : World :=
  { w with now := w.now.add time }

-- Does something, and then all that can be done without time passing.
def settled {α : Type} (action : Action α) : Action α := do
  let result ← action
  modify (·.settle)
  return result

mutual

def Step.act : Step → Action Answer
  | .context timeout => do
    modify (newContext · timeout)
    return .done
  | .advance time => do
    modify (advanceClock · time)
    return .done
  | .close => do
    modify (·.close)
    return .done
  | .begin name => do
    keepOpened name (← beginTransaction (← get).context)
  | .beginUnpooled name timeout => do
    let w ← get
    keepOpened name (← RecordSql.Store.beginUnpooled (w.context.child w.now timeout))
  | .exec sql arguments => do
    return .affected (← RecordSql.Store.exec (← get).context sql arguments)
  | .query read sql arguments => do
    let (values, result) ←
      RecordSql.Store.query (← get).context (collecting read) [] sql arguments
    return .scanned values result
  | .queryRow read sql arguments => do
    let (values, result) ←
      RecordSql.Store.queryRow (← get).context (collecting read) [] sql arguments
    return .scanned values result
  | .call call sql arguments => do
    return callAnswer (← RecordSql.Store.call (← get).context call sql arguments)
  | .callIn name call sql arguments =>
    withNamed name fun _ t => do
      return .called (← callOn t.lease (some t.deadline) call sql arguments)
  | .execIn name sql arguments =>
    withNamed name fun w t => do
      return .affected (← executeOn t.lease (t.bound w.context) sql arguments)
  | .returnedIdIn name reader sql arguments =>
    withNamed name fun w t => do
      return .identifier (← returnedIdOn t.lease (t.bound w.context) reader sql arguments)
  | .deadlineOf name =>
    withNamed name fun w t =>
      return .deadline (t.deadline.remaining w.now) t.deadline.timeout
  | .commit name => endNamed name RecordSql.Store.commit
  | .rollback name => endNamed name RecordSql.Store.rollback
  | .drop name =>
    withNamed name fun _ _ => do
      dropNamed name
      return .done
  | .withTransaction name steps outcome => do
    match ← beginTransaction (← get).context with
    | .error e => return .within [] (.error e)
    | .ok t =>
      keepNamed name t
      let inner ← performAll steps
      dropNamed name
      return .within inner outcome

-- Does steps one after the other, and after each of them all that can be done without time
-- passing.
def performAll : List Step → Action (List Answer)
  | [] => return []
  | step :: rest => do
    let answer ← settled step.act
    return answer :: (← performAll rest)

end

def Step.perform (step : Step) : Action Answer := settled step.act

-- Lets go of the transactions that are still open when nothing can be sent any more, in the
-- order of their names.
def finish : Action Unit := do
  let w ← get
  set { w with transactions := [] }
  w.transactions.forM fun entry => abandonOffline entry.2

end RecordSql.Store
