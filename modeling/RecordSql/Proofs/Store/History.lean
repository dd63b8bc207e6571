import RecordSql.Proofs.Store.Transaction
import RecordSql.Store.Step

namespace RecordSql.Store

open Server

-- How a transaction came to its end.
inductive Ending
  | commit
  | rollback
  | drop
  deriving DecidableEq

-- What is done with an open transaction: a statement, and whether its deadline had passed when
-- it came, or the end.
inductive Use
  | statement (sql : String) (late : Bool)
  | ending (how : Ending)
  deriving DecidableEq

inductive Event
  -- A connection of the pool was handed out, and what the world was then.
  | handed (lease : Lease) (w : World)
  | opened (t : Transaction)
  | used (lease : Lease) (use : Use)

section Events

variable (name : String) (w : World)

def handedEvents (limit : Deadline) : List Event :=
  match (acquire limit).answer w with
  | .ok lease => [.handed lease ((acquire limit).after w)]
  | .error _ => []

-- The use of the open transaction of a name.
def namedEvents (use : Transaction → Use) : List Event :=
  match w.transaction? name with
  | some t => [.used t.lease (use t)]
  | none => []

def dropEvents : List Event := namedEvents name w fun _ => .ending .drop

-- The limit that a transaction is opened under.
def World.openingLimit (w : World) : Deadline := w.context.child w.now w.config.timeout

-- A transaction that is opened takes the place of one that is open under its name.
def openEvents (action : Action (Except Error Transaction)) : List Event :=
  match action.answer w with
  | .ok t => .opened t :: dropEvents name (action.after w)
  | .error _ => []

end Events

mutual

-- What happens in a step, in the order in which it happens.
def Step.events : Step → World → List Event
  | .context _, _ => []
  | .advance _, _ => []
  | .close, _ => []
  | .begin name, w =>
    handedEvents w w.openingLimit ++ openEvents name w (beginTransaction w.context)
  | .beginUnpooled name timeout, w =>
    openEvents name w (RecordSql.Store.beginUnpooled (w.context.child w.now timeout))
  | .exec _ _, w => handedEvents w w.context
  | .query _ _ _, w => handedEvents w w.context
  | .queryRow _ _ _, w => handedEvents w w.context
  | .call _ _ _, w => handedEvents w w.context
  | .callIn name _ sql _, w =>
    namedEvents name w fun t => .statement sql (t.deadline.hasRung w.now)
  | .execIn name sql _, w =>
    namedEvents name w fun t => .statement sql ((t.bound w.context).hasRung w.now)
  -- Without the clause for the identifier no statement is run.
  | .returnedIdIn name _ sql _, w =>
    if hasReturningClause sql then
      namedEvents name w fun t => .statement sql ((t.bound w.context).hasRung w.now)
    else []
  | .deadlineOf _, _ => []
  | .commit name, w => namedEvents name w fun _ => .ending .commit
  | .rollback name, w => namedEvents name w fun _ => .ending .rollback
  | .drop name, w => dropEvents name w
  | .withTransaction name steps _, w =>
    handedEvents w w.openingLimit ++ openEvents name w (beginTransaction w.context) ++
      match (beginTransaction w.context).answer w with
      | .ok t =>
        let kept := (keepNamed name t).after ((beginTransaction w.context).after w)
        history steps kept ++ dropEvents name ((performAll steps).after kept)
      | .error _ => []

def history : List Step → World → List Event
  | [], _ => []
  | step :: rest, w => step.events w ++ history rest (step.perform.after w)

end

-- What was done with the transaction of a lease.
def usesOf (lease : Lease) (events : List Event) : List Use :=
  events.filterMap fun
    | .used other use => if other = lease then some use else none
    | _ => none

mutual

-- The statements of callers.
def Step.statements : Step → List String
  | .exec sql _ => [sql]
  | .query _ sql _ => [sql]
  | .queryRow _ sql _ => [sql]
  | .call _ sql _ => [sql]
  | .callIn _ _ sql _ => [sql]
  | .execIn _ sql _ => [sql]
  | .returnedIdIn _ _ sql _ => [sql]
  | .withTransaction _ steps _ => statementsOf steps
  | _ => []

def statementsOf : List Step → List String
  | [] => []
  | step :: rest => step.statements ++ statementsOf rest

end

end RecordSql.Store
