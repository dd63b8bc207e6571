import RecordSql.Proofs.Store.Exchange

namespace RecordSql.Store

open Server

variable {α β : Type} {opens : Content → Prop} {held : List Lease} {w : World} {lease : Lease}

-- The messages of one statement. Only a statement that comes too late may send none.
inductive Piece (late : Bool) (sql : String) : List Content → Prop
  | nothing (h : late = true) : Piece late sql []
  | prepared : Piece late sql [.prepare sql]
  | executed (payloads : List Payload) : Piece late sql [.prepare sql, .execute sql payloads]

-- An action that does nothing to the world but write to its log.
def Quiet (action : Action α) : Prop := ∀ w, ∃ logs, action.after w = { w with logs }

-- An action that sends, under one lease, messages that are allowed at the moment it starts.
def Sends (opens : Content → Prop) (lease : Lease) (allowed : Moment → List Content → Prop)
    (action : Action α) : Prop :=
  ∀ held w, Custody opens held w → w.Uses held lease →
    ∃ contents, allowed w.now contents ∧ Custody opens held (action.after w) ∧
      Follows (lease.speech contents) w (action.after w)

section Quiet

theorem quiet_pure (a : α) : Quiet (pure a) := fun w => ⟨w.logs, rfl⟩

theorem quiet_record (entry : LogEntry) : Quiet (record entry) := fun _ => ⟨_, rfl⟩

theorem Quiet.bind {action : Action α} {next : α → Action β} (h : Quiet action)
    (hn : ∀ a, Quiet (next a)) : Quiet (action >>= next) := by
  intro w
  obtain ⟨logs, hl⟩ := h w
  obtain ⟨more, hm⟩ := hn (action.answer w) (action.after w)
  exact ⟨more, by rw [Action.after_bind, hm, hl]⟩

theorem Quiet.keeps {action : Action α} (hq : Quiet action) (h : Custody opens held w) :
    Custody opens held (action.after w) ∧ Follows silence w (action.after w) := by
  obtain ⟨logs, hl⟩ := hq w
  have hf : Follows silence w { w with logs } := .of_eq rfl (Nat.le_refl _) rfl
  rw [hl]
  exact ⟨h.silent hf rfl (.refl _), hf⟩

end Quiet

section Sends

variable {allowed : Moment → List Content → Prop}

theorem Sends.bind_quiet {action : Action α} {next : α → Action β}
    (h : Sends opens lease allowed action) (hq : ∀ a, Quiet (next a)) :
    Sends opens lease allowed (action >>= next) := by
  intro held w hc hu
  obtain ⟨contents, ha, hc, hf⟩ := h held w hc hu
  obtain ⟨hc, hs⟩ := (hq (action.answer w)).keeps hc
  rw [Action.after_bind]
  exact ⟨contents, ha, hc, hf.trans_silent hs⟩

theorem Sends.record_bind {entry : LogEntry} {next : Action α}
    (h : Sends opens lease allowed next) :
    Sends opens lease allowed (do record entry; next) := by
  intro held w hc hu
  obtain ⟨hc, hs⟩ := (quiet_record entry).keeps hc
  obtain ⟨contents, ha, hc, hf⟩ := h held _ hc (hu.of_follows hs)
  rw [Action.after_bind]
  exact ⟨contents, ha, hc, hs.silent_trans hf⟩

end Sends

section Statement

variable (limit : Option Deadline) (deadline : Deadline) (sql : String) (arguments : List Value)

-- What a statement allows for under a limit.
def pieces (limit : Option Deadline) (sql : String) (now : Moment) : List Content → Prop :=
  Piece (limit.any (·.hasRung now)) sql

theorem statement_sends :
    Sends opens lease (pieces limit sql) (statement lease limit sql arguments) := by
  intro held w hc hu
  obtain ⟨first, hx⟩ := exchange_spec hc hu limit (.prepare sql)
  rw [statement, Action.after_bind]
  generalize (exchange lease limit (.prepare sql)).after w = mid at hx ⊢
  generalize (exchange lease limit (.prepare sql)).answer w = result at hx ⊢
  have hfirst : pieces limit sql w.now first := by
    rcases hx.sent with rfl | ⟨rfl, hl⟩
    · exact .prepared
    · exact .nothing hl
  cases result with
  | error e => exact ⟨first, hfirst, hx.custody, hx.follows⟩
  | ok reply =>
    obtain ⟨rfl, -⟩ := hx.answered reply rfl
    simp only
    cases bindArguments (signatureOf reply) arguments with
    | error e => exact ⟨_, hfirst, hx.custody, hx.follows⟩
    | ok payloads =>
      obtain ⟨second, hy⟩ := exchange_spec hx.custody (hu.of_follows hx.follows) limit
        (.execute sql payloads)
      simp only [Action.after_bind, Action.after_pure]
      refine ⟨_, ?_, hy.custody, hx.follows.speech_trans hy.follows⟩
      rcases hy.sent with rfl | ⟨rfl, -⟩
      · exact .executed payloads
      · exact .prepared

theorem loggedStatement_sends (failure : String) :
    Sends opens lease (pieces (some deadline) sql)
      (loggedStatement failure lease deadline sql arguments) := by
  refine Sends.record_bind ((statement_sends (some deadline) sql arguments).bind_quiet ?_)
  intro result
  cases result with
  | ok done => exact quiet_pure _
  | error e => exact (quiet_record _).bind fun _ => quiet_pure _

-- What is logged has no part in what a statement comes to.
theorem loggedStatement_answer (failure : String) (w : World) :
    (loggedStatement failure lease deadline sql arguments).answer w =
      (statement lease (some deadline) sql arguments).answer
        (w.log (.executing sql arguments.length)) := by
  rw [loggedStatement, record, Action.answer_bind, Action.after_modify, Action.answer_bind]
  cases (statement lease (some deadline) sql arguments).answer _ <;> rfl

theorem withLease_answer (use : Lease → Action α) (w : World) :
    (withLease deadline use).answer w = ((acquire deadline).answer w).map fun lease =>
      (use lease).answer ((acquire deadline).after w) := by
  rw [withLease, Action.answer_bind]
  cases (acquire deadline).answer w <;> rfl

theorem callOn_sends (call : Call) :
    Sends opens lease (pieces limit sql) (callOn lease limit call sql arguments) :=
  (statement_sends limit sql arguments).bind_quiet fun _ => quiet_pure _

-- An action that runs a statement, and then does nothing to the world but write to its log. When
-- the statement fails the action gives what the error comes to.
def Runs (lease : Lease) (deadline : Deadline) (sql : String) (arguments : List Value)
    (failed : Error → α) (action : Action α) : Prop :=
  ∃ failure next, action = loggedStatement failure lease deadline sql arguments >>= next ∧
    (∀ result, Quiet (next result)) ∧ ∀ e w, (next (.error e)).answer w = failed e

variable {deadline sql arguments} in
theorem Runs.sends {failed : Error → α} {action : Action α}
    (h : Runs lease deadline sql arguments failed action) :
    Sends opens lease (pieces (some deadline) sql) action := by
  obtain ⟨failure, next, rfl, hq, -⟩ := h
  exact (loggedStatement_sends deadline sql arguments failure).bind_quiet hq

theorem executeOn_runs :
    Runs lease deadline sql arguments Except.error (executeOn lease deadline sql arguments) :=
  ⟨_, _, rfl, fun _ => quiet_pure _, fun _ _ => rfl⟩

theorem quiet_scanned (failure : String) (count : Nat) (refused : Option Error) :
    Quiet (scanned failure sql count refused) := by
  cases refused with
  | none => exact quiet_pure _
  | some e =>
    simp only [scanned]
    split <;> exact (quiet_record _).bind fun _ => quiet_pure _

theorem queryOn_runs {σ : Type} (scan : Scan σ) (state : σ) :
    Runs lease deadline sql arguments (fun e => (state, .error e))
      (queryOn lease deadline scan state sql arguments) := by
  refine ⟨_, _, rfl, fun result => ?_, fun _ _ => rfl⟩
  cases result with
  | error e => exact quiet_pure _
  | ok done =>
    simp only
    split
    · exact (quiet_record _).bind fun _ => quiet_pure _
    · exact (quiet_scanned _ _ _ _).bind fun _ => quiet_pure _

theorem queryRowOn_runs {σ : Type} (scan : Scan σ) (state : σ) :
    Runs lease deadline sql arguments (fun e => (state, .error e))
      (queryRowOn lease deadline scan state sql arguments) := by
  refine ⟨_, _, rfl, fun result => ?_, fun _ _ => rfl⟩
  cases result with
  | error e => exact quiet_pure _
  | ok done =>
    simp only
    split
    · exact (quiet_record _).bind fun _ => quiet_pure _
    · exact (quiet_scanned _ _ _ _).bind fun _ => quiet_pure _

theorem returnedIdOn_runs (reader : CellReader) (h : hasReturningClause sql = true) :
    Runs lease deadline sql arguments Except.error
      (returnedIdOn lease deadline reader sql arguments) := by
  unfold returnedIdOn
  simp only [h, Bool.not_true, Bool.false_eq_true, if_false]
  refine ⟨_, _, rfl, fun result => ?_, fun _ _ => rfl⟩
  cases result with
  | error e => exact quiet_pure _
  | ok done =>
    simp only
    split
    · exact (quiet_record _).bind fun _ => quiet_pure _
    · exact quiet_pure _

-- Without the clause there is nothing to be sent.
theorem quiet_returnedIdOn (reader : CellReader) (h : hasReturningClause sql = false) :
    Quiet (returnedIdOn lease deadline reader sql arguments) := by
  unfold returnedIdOn
  simp only [h, Bool.not_false, if_true]
  exact (quiet_record _).bind fun _ => quiet_pure _

end Statement

end RecordSql.Store
