import RecordSql.Proofs.Store.Commit
import RecordSql.Proofs.Store.Execution

namespace RecordSql.Store

open Server

variable {stale : Lease → Prop} {origin : Scene} {held : List Lease} {w after : World}
  {lease : Lease} {limit : Deadline} {reader : CellReader} {sql : String}
  {arguments : List Value} {name : String} {t : Transaction}

section Clause

theorem contains_iff (part text : List Char) : contains part text = true ↔ part <:+: text := by
  induction text with
  | nil => simp [contains, List.isEmpty_iff]
  | cons c rest ih => simp [contains, ih, List.infix_cons_iff]

theorem hasReturningClause_iff :
    hasReturningClause sql = true ↔ "RETURNING id".toList <:+: sql.toList :=
  contains_iff _ _

-- Without the clause all that happens is that the failure is logged.
theorem returnedIdOn_guarded (lease : Lease) (limit : Deadline) (reader : CellReader)
    (arguments : List Value) (w : World) (h : hasReturningClause sql = false) :
    (returnedIdOn lease limit reader sql arguments).answer w = .error .missingReturningClause ∧
      (returnedIdOn lease limit reader sql arguments).after w =
        w.log (.statementFailed "exec with returned id failed" .missingReturningClause sql
          arguments.length) := by
  unfold returnedIdOn
  rw [h]
  exact ⟨rfl, rfl⟩

end Clause

section Outcome

-- The identifier that is made of what a statement comes to. It stands in the first column of the
-- first row.
inductive Identifies (reader : CellReader) : Except Error Completion → Except Error Value → Prop
  | failed (e : Error) : Identifies reader (.error e) (.error e)
  | noRow {done : Completion} (hr : done.rows = []) :
    Identifies reader (.ok done) (.error (.notFound "Expected one row, got none"))
  | unreadable {done : Completion} {row : Row} {rest : List Row} {cause : CellError}
    (hr : done.rows = row :: rest) (hc : row.read reader 0 = .error cause) :
    Identifies reader (.ok done) (.error (.decode "id" cause.message))
  | read {done : Completion} {row : Row} {rest : List Row} {value : Value}
    (hr : done.rows = row :: rest) (hc : row.read reader 0 = .ok value) :
    Identifies reader (.ok done) (.ok value)

theorem identifies_firstCell (done : Except Error Completion) :
    Identifies reader done (done.bind (firstCell reader ·.rows)) := by
  cases done with
  | error e => exact .failed e
  | ok done =>
    rw [Except.bind]
    cases hr : done.rows with
    | nil => exact .noRow hr
    | cons row rest =>
      rw [firstCell]
      cases hc : row.read reader 0 with
      | error cause => exact .unreadable hr hc
      | ok value => exact .read hr hc

theorem answer_returnedIdOn (h : hasReturningClause sql = true) :
    (returnedIdOn lease limit reader sql arguments).answer w =
      ((statement lease (some limit) sql arguments).answer
        (w.log (.executing sql arguments.length))).bind (firstCell reader ·.rows) := by
  unfold returnedIdOn
  simp only [h, Bool.not_true, Bool.false_eq_true, if_false]
  rw [Action.answer_bind, loggedStatement_answer]
  cases (statement lease (some limit) sql arguments).answer _ with
  | error e => rfl
  | ok done =>
    rw [Except.bind]
    dsimp only
    split
    · rename_i reason hcell
      rw [hcell]
      rfl
    · rfl

theorem returnedIdOn_concluded (h : Arrives stale origin held w) (hu : w.Uses held lease)
    (hc : hasReturningClause sql = true)
    (ha : after = (returnedIdOn lease limit reader sql arguments).after w) :
    (limit.hasRung after.now = false → ∃ done, Heard lease sql arguments w after done ∧
      Identifies reader done ((returnedIdOn lease limit reader sql arguments).answer w)) ∧
    (limit.hasRung after.now = true →
      (returnedIdOn lease limit reader sql arguments).answer w = .error limit.error) := by
  have hruns : Runs lease limit sql arguments Except.error
      (returnedIdOn lease limit reader sql arguments) :=
    returnedIdOn_runs limit sql arguments reader hc
  have hconcluded := hruns.concluded h hu
  rw [← ha] at hconcluded
  rw [answer_returnedIdOn hc]
  refine ⟨fun hn => ⟨_, hconcluded.inTime hn, identifies_firstCell _⟩, fun hr => ?_⟩
  rw [hconcluded.tooLate hr]
  rfl

end Outcome

section Open

-- A way to end a transaction. When the server answers in time, what it answers is what becomes of
-- the transaction.
def EndsAsAnswered (message : String) (finish : Deadline → Transaction → Action (Except Error Unit))
    (t : Transaction) (w : World) : Prop :=
  ∀ (context : Deadline) (asked : World),
    asked = (batch t.lease (some (t.bound context)) message).after w →
    (t.bound context).hasRung asked.now = false →
      Follows (t.lease.speech [.batch message]) w asked ∧
      ∃ reply, asked.reply? t.lease.connection (w.sentOver t.lease.connection).length =
          some reply ∧
        (finish context t).answer w = (reported reply).map fun _ => ()

-- A transaction is open under a name, with its connection and its deadline. It can be committed
-- and it can be rolled back.
structure StaysOpen (origin : Scene) (held : List Lease) (name : String) (t : Transaction)
    (w : World) : Prop where
  named : w.transaction? name = some t
  reachable : ∃ gone, Moves anyLease origin ⟨held, gone, w⟩
  connected : ¬w.Severed t.lease.connection
  commits : EndsAsAnswered commitSql commit t (w.removeTransaction name)
  rollsBack : EndsAsAnswered rollbackSql rollback t (w.removeTransaction name)

theorem answer_commit (context : Deadline) (t : Transaction) (w : World) :
    (commit context t).answer w =
      (batch t.lease (some (t.bound context)) commitSql).answer w := by
  cases hr : (batch t.lease (some (t.bound context)) commitSql).answer w with
  | ok _ => exact (commit_of_ok hr).1
  | error e => exact (commit_of_error hr).1

theorem answer_rollback (context : Deadline) (t : Transaction) (w : World) :
    (rollback context t).answer w =
      (batch t.lease (some (t.bound context)) rollbackSql).answer w := by
  rw [rollback, Action.answer_bind]
  cases (batch t.lease (some (t.bound context)) rollbackSql).answer w <;> rfl

theorem endsAsAnswered {message : String}
    {finish : Deadline → Transaction → Action (Except Error Unit)}
    (h : Arrives stale origin (t.lease :: held) w)
    (hf : ∀ context, (finish context t).answer w =
      (batch t.lease (some (t.bound context)) message).answer w) :
    EndsAsAnswered message finish t w := by
  intro context asked hasked hn
  obtain ⟨hfollows, reply, hr, he⟩ := (batch_decided h (uses_head t)).inTime (hasked ▸ hn)
  exact ⟨hasked ▸ hfollows, reply, hasked ▸ hr, (hf context).trans he⟩

theorem staysOpen (h : Arrives anyLease origin held w) (ht : w.transaction? name = some t) :
    StaysOpen origin held name t w where
  named := ht
  reachable := h.imp fun _ hgone => hgone.1
  connected := h.not_severed (uses_named h ht)
  commits := endsAsAnswered (h.release ht) fun context => answer_commit context t _
  rollsBack := endsAsAnswered (h.release ht) fun context => answer_rollback context t _

end Open

section Store

-- A statement that is to give back the identifier of a row has to ask for it, or nothing happens
-- at all. One that asks is answered in time or it is not, and in time the identifier is exactly
-- what the answers of the server hold. However it comes out, the transaction is open as it was. It
-- may be any that is open in a store, with any number of operations under way.
theorem returnedId_outcome (config : StoreConfig) (server : Behaviour) (welcomes : List Welcome)
    (races : List Bool) {held : List Lease} {gone : List Nat} {w : World}
    (hw : Moves anyLease (Scene.start config server welcomes races) ⟨held, gone, w⟩)
    {name : String} {t : Transaction} (ht : w.transaction? name = some t) (context : Deadline)
    (reader : CellReader) (sql : String) (arguments : List Value) (after : World)
    (result : Except Error Value)
    (ha : after = (returnedIdOn t.lease (t.bound context) reader sql arguments).after w)
    (hr : result = (returnedIdOn t.lease (t.bound context) reader sql arguments).answer w) :
    (¬"RETURNING id".toList <:+: sql.toList →
      result = .error .missingReturningClause ∧ ∃ entry, after = w.log entry) ∧
    ("RETURNING id".toList <:+: sql.toList →
      ((t.bound context).hasRung after.now = false →
        ∃ done, Heard t.lease sql arguments w after done ∧ Identifies reader done result) ∧
      ((t.bound context).hasRung after.now = true → result = .error (t.bound context).error)) ∧
    StaysOpen (Scene.start config server welcomes races) held name t after := by
  have h : Arrives anyLease (Scene.start config server welcomes races) held w :=
    ⟨gone, hw, hw.sound (sound_start config server welcomes races)⟩
  have hu := uses_named h ht
  have hafter := returnedIdOn_arrives sql arguments (t.bound context) reader h hu
  rw [← hasReturningClause_iff, Bool.not_eq_true]
  refine ⟨fun hc => ?_, fun hc => ?_, ?_⟩
  · obtain ⟨hanswer, hlogged⟩ :=
      returnedIdOn_guarded t.lease (t.bound context) reader arguments w hc
    exact ⟨hr.trans hanswer, _, ha.trans hlogged⟩
  · rw [hr]
    exact returnedIdOn_concluded h hu hc ha
  · have honce : RunsOnce t.lease _ sql _
        (returnedIdOn t.lease (t.bound context) reader sql arguments) :=
      returnedIdOn_once sql arguments (t.bound context) reader
    obtain ⟨_, hran⟩ := honce held w h.custody hu
    rw [← ha] at hafter hran
    refine staysOpen hafter ?_
    rw [World.transaction?, hran.follows.transactions]
    exact ht

def numberedInsert : String := "INSERT INTO t (v) VALUES ($1) RETURNING id"

-- Rows that get their numbers from the server. Two of them come back, with the numbers 7 and 8.
def numbering : Script :=
  ⟨[{ sql := numberedInsert, parameters := some [.parsed .int4],
      result := some ⟨[.parsed .int4], [[some [0, 0, 0, 7]], [some [0, 0, 0, 8]]]⟩ }]⟩

-- What the insert gives in a transaction that has just been opened, and that it is in time.
theorem numberedInsert_result {w : World}
    (hw : w = (performAll [.begin "a"]).after (World.start {} numbering [] [])) :
    w.transaction? "a" = some firstTransaction ∧
      ((returnedIdOn firstTransaction.lease (firstTransaction.bound w.context) ⟨.int4, false⟩
        numberedInsert [.int 3]).answer w).toOption = some (.int 7) ∧
      (firstTransaction.bound w.context).hasRung ((returnedIdOn firstTransaction.lease
        (firstTransaction.bound w.context) ⟨.int4, false⟩ numberedInsert [.int 3]).after w).now =
          false := by
  subst hw
  exact ⟨by decide +kernel, by decide +kernel, by decide +kernel⟩

-- The identifier is the number of the first row.
theorem returnedId_outcome_numbering :
    ∃ w after result done, w = (performAll [.begin "a"]).after (World.start {} numbering [] []) ∧
      w.transaction? "a" = some firstTransaction ∧ result = .ok (.int 7) ∧
      Heard firstTransaction.lease numberedInsert [.int 3] w after done ∧
      Identifies ⟨.int4, false⟩ done result ∧
      StaysOpen (Scene.start {} numbering [] []) [] "a" firstTransaction after := by
  have hstart : Arrives anyLease (Scene.start {} numbering [] []) [] _ :=
    start_arrives {} numbering [] []
  obtain ⟨gone, hmoves, -⟩ := (performAll_leads [.begin "a"] _ (fun _ _ => trivial) hstart).arrives
  obtain ⟨w, hw⟩ : ∃ w, w = (performAll [.begin "a"]).after (World.start {} numbering [] []) :=
    ⟨_, rfl⟩
  rw [← hw] at hmoves
  obtain ⟨hopen, hnumber, htime⟩ := numberedInsert_result hw
  obtain ⟨result, hr⟩ : ∃ result, result = (returnedIdOn firstTransaction.lease
      (firstTransaction.bound w.context) ⟨.int4, false⟩ numberedInsert [.int 3]).answer w :=
    ⟨_, rfl⟩
  obtain ⟨after, ha⟩ : ∃ after, after = (returnedIdOn firstTransaction.lease
      (firstTransaction.bound w.context) ⟨.int4, false⟩ numberedInsert [.int 3]).after w := ⟨_, rfl⟩
  obtain ⟨-, hasked, hstays⟩ := returnedId_outcome {} numbering [] [] hmoves hopen w.context
    ⟨.int4, false⟩ numberedInsert [.int 3] after result ha hr
  rw [← hr] at hnumber
  rw [← ha] at htime
  have hclause : "RETURNING id".toList <:+: numberedInsert.toList :=
    hasReturningClause_iff.mp (by decide +kernel)
  obtain ⟨done, hheard, hidentifies⟩ := (hasked hclause).1 htime
  have hvalue : result = .ok (.int 7) := by
    cases result with
    | error e => simp [Except.toOption] at hnumber
    | ok value => exact congrArg Except.ok (Option.some.inj hnumber)
  exact ⟨w, after, result, done, hw, hopen, hvalue, hheard, hidentifies, hstays⟩

end Store

end RecordSql.Store
