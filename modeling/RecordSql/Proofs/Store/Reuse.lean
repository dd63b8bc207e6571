import RecordSql.Proofs.Store.Run

namespace RecordSql

open Server

-- Whether a statement opens a transaction, by its first word.
def startsTransaction (sql : String) : Bool :=
  let word := ((sql.toList.dropWhile Char.isWhitespace).takeWhile Char.isAlpha).map Char.toUpper
  word == "BEGIN".toList || word == "START".toList

-- To prepare a statement opens nothing.
def Server.Content.starts : Content → Bool
  | .batch sql => startsTransaction sql
  | .prepare _ => false
  | .execute sql _ => startsTransaction sql

namespace Store

-- A connection of the pool is not handed out inside of somebody's transaction: all that were
-- opened over it have been ended by a message that succeeded.
theorem handed_connection_ended (config : StoreConfig) (server : Behaviour) (welcomes : List Welcome)
    (races : List Bool) (steps : List Step)
    (hs : ∀ sql ∈ statementsOf steps, startsTransaction sql = false) (lease : Lease)
    (there : World)
    (h : .handed lease there ∈ history steps (World.start config server welcomes races)) :
    lease.connection < there.links.length ∧
      there.Ended (fun content => content.starts = true) lease.connection := by
  have hcommit : ¬(Content.batch commitSql).starts = true := by decide
  have hrollback : ¬(Content.batch rollbackSql).starts = true := by decide
  have hharmless : ∀ sql ∈ statementsOf steps,
      Harmless (fun content => content.starts = true) sql := by
    intro sql hm
    have hsql := hs sql hm
    exact ⟨by simp [Content.starts], fun _ => by simp [Content.starts, hsql]⟩
  have hrecord := performAll_keeps hcommit hrollback steps [] _ hharmless
    (record_start config server welcomes races)
  exact hrecord.handed lease there h

-- One connection for all: a transaction is dropped, and a statement after it gets the connection
-- over which the transaction was opened.
def dropThenExec : List Step :=
  [.begin "a", .execIn "a" "UPDATE t SET n = 1" [], .drop "a", .exec "DELETE FROM t" []]

theorem handed_connection_ended_dropThenExec :
    (∀ sql ∈ statementsOf dropThenExec, startsTransaction sql = false) ∧
      (Content.batch beginSql).starts = true ∧ ∃ there, Event.handed ⟨1, 0, true⟩ there ∈
          history dropThenExec (World.start { maxConnections := 1 } (Script.mk []) [] []) ∧
        (there.sentOver 0)[0]? = some ⟨0, .batch beginSql⟩ ∧
        there.Ended (fun content => content.starts = true) 0 := by
  have hs : ∀ sql ∈ statementsOf dropThenExec, startsTransaction sql = false := by
    decide +kernel
  have hany : (history dropThenExec (World.start { maxConnections := 1 } (Script.mk []) [] [])).any
      (fun
        | .handed lease there => decide (lease = ⟨1, 0, true⟩ ∧
            (there.sentOver 0)[0]? = some ⟨0, .batch beginSql⟩)
        | _ => false) = true := by
    decide +kernel
  obtain ⟨event, hm, he⟩ := List.any_eq_true.mp hany
  cases event with
  | handed lease there =>
    obtain ⟨rfl, hsent⟩ := of_decide_eq_true he
    have hended := handed_connection_ended { maxConnections := 1 } (Script.mk []) [] [] dropThenExec hs
      ⟨1, 0, true⟩ there hm
    exact ⟨hs, by decide, there, hm, hsent, hended.2⟩
  | opened t => simp at he
  | used lease use => simp at he

end Store

end RecordSql
