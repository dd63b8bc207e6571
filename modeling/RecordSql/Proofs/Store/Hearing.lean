import RecordSql.Proofs.Store.Patience

namespace RecordSql.Store

open Server

variable {α β : Type} {stale : Lease → Prop} {origin : Scene} {held : List Lease} {w : World}
  {lease : Lease}

section Exchange

-- An action that sends under a lease. It hears the answers to all that was sent over the
-- connection, unless what it gives tells that an answer is missing.
def Hears (stale : Lease → Prop) (origin : Scene) (lease : Lease) (missing : α → Prop)
    (action : Action α) : Prop :=
  ∀ held w, Arrives stale origin held w → w.Uses held lease →
    Arrives stale origin held (action.after w) ∧ (action.after w).Uses held lease ∧
      ((action.after w).backlog lease.connection = [] ∨ missing (action.answer w))

-- What comes of an action is that an answer did not come before the limit.
def Unheard (limit : Option Deadline) (result : Except Error α) : Prop :=
  ∃ deadline, limit = some deadline ∧ result = .error deadline.error

theorem Unheard.error {limit : Option Deadline} {e : Error}
    (h : Unheard limit (.error e : Except Error α)) : Unheard limit (.error e : Except Error β) := by
  obtain ⟨deadline, hl, he⟩ := h
  exact ⟨deadline, hl, congrArg Except.error (Except.error.inj he)⟩

theorem not_unheard_ok {limit : Option Deadline} {a : α} : ¬Unheard limit (.ok a) := by
  rintro ⟨_, -, he⟩
  simp at he

theorem exists_deadline {limit : Option Deadline} {now : Moment}
    (h : limit.any (·.hasRung now) = true) : ∃ deadline, limit = some deadline := by
  cases limit with
  | none => simp at h
  | some deadline => exact ⟨deadline, rfl⟩

-- An answer to the last message tells that all messages have been answered, and without a limit
-- there is an answer.
theorem await_hears {n : Nat} (h : Waits stale origin held lease n w)
    (hl : (w.sentOver lease.connection).length ≤ n + 1) (limit : Option Deadline) :
    Arrives stale origin held ((await (·.reply? lease.connection n) limit).after w) ∧
      (∀ reply, (await (·.reply? lease.connection n) limit).answer w = some reply →
        ((await (·.reply? lease.connection n) limit).after w).backlog lease.connection = []) ∧
      ((await (·.reply? lease.connection n) limit).answer w = none →
        ∃ deadline, limit = some deadline) := by
  have hf := (h.arrives.custody.await (·.reply? lease.connection n) limit).2
  refine ⟨h.arrives.await _ limit, fun reply hanswer => ?_, fun hanswer => ?_⟩
  · refine backlog_of_reply? (await_ready _ limit w reply hanswer) ?_
    rwa [hf.sent, silence, List.append_nil]
  · cases limit with
    | none => exact absurd hanswer (await_reply? h)
    | some deadline => exact ⟨deadline, rfl⟩

theorem exchange_hears (limit : Option Deadline) (content : Content) :
    Hears stale origin lease (Unheard limit) (exchange lease limit content) := by
  intro held w h hu
  obtain ⟨_, hx⟩ := exchange_spec h.custody hu limit content
  have huses := hu.of_follows hx.follows
  have hsend := h.send hu content
  have hf := (h.custody.send_follows hu content).trans_silent hsend.custody.settle.2
  have hlength : ((w.send lease content).settle.sentOver lease.connection).length =
      (w.sentOver lease.connection).length + 1 := hf.length_sent_speech
  have hwaits : Waits stale origin held lease (w.sentOver lease.connection).length
      (w.send lease content).settle :=
    ⟨hsend.settle, hu.of_follows hf, served_settle _, by omega⟩
  obtain ⟨ha, hheard, hlimited⟩ := await_hears hwaits (Nat.le_of_eq hlength) limit
  rw [exchange, Action.after_get_bind] at huses ⊢
  rw [Action.answer_get_bind]
  cases hl : limit.any (·.hasRung w.now) with
  | true =>
    simp only [hl, if_true, Action.after_bind, Action.answer_bind, Action.after_set,
      Action.after_pure, Action.answer_pure] at huses ⊢
    have hrace : Arrives stale origin held w.takeRace.2 := h.aside ⟨rfl, rfl, rfl, rfl, rfl, rfl⟩
    have hu : w.takeRace.2.Uses held lease := hu
    obtain ⟨deadline, rfl⟩ := exists_deadline hl
    refine ⟨?_, huses, .inr ⟨deadline, rfl, rfl⟩⟩
    split
    · exact (hrace.send hu content).settle
    · exact hrace
  | false =>
    simp only [hl, Bool.false_eq_true, if_false, Action.after_bind, Action.answer_bind,
      Action.after_set, World.nextMessage_eq] at huses ⊢
    generalize await (·.reply? lease.connection (w.sentOver lease.connection).length) limit =
      waiting at *
    cases hanswer : waiting.answer (w.send lease content).settle with
    | none =>
      simp only [hanswer] at huses ⊢
      obtain ⟨deadline, rfl⟩ := hlimited hanswer
      exact ⟨ha, huses, .inr ⟨deadline, rfl, rfl⟩⟩
    | some reply =>
      have hnone := hheard reply hanswer
      cases reply <;> simp only [hanswer] at huses ⊢ <;> exact ⟨ha, huses, .inl hnone⟩

end Exchange

section Statement

variable {missing : α → Prop} {unheard : β → Prop}

theorem Hears.bind_quiet {action : Action α} {next : α → Action β}
    (h : Hears stale origin lease missing action) (hq : ∀ a, Quiet (next a))
    (hm : ∀ a w, missing a → unheard ((next a).answer w)) :
    Hears stale origin lease unheard (action >>= next) := by
  intro held w ha hu
  obtain ⟨ha, hu, hb⟩ := h held w ha hu
  rw [Action.after_bind, Action.answer_bind]
  generalize action.after w = mid at *
  generalize action.answer w = a at *
  obtain ⟨logs, hl⟩ := hq a mid
  rw [hl]
  exact ⟨ha.aside ⟨rfl, rfl, rfl, rfl, rfl, rfl⟩, hu, hb.imp_right (hm a mid)⟩

theorem Hears.record_bind {entry : LogEntry} {next : Action α}
    (h : Hears stale origin lease missing next) :
    Hears stale origin lease missing (do record entry; next) := by
  intro held w ha hu
  exact h held (w.log entry) (ha.log entry) hu

variable (limit : Option Deadline) (deadline : Deadline) (sql : String) (arguments : List Value)

theorem statement_hears :
    Hears stale origin lease (Unheard limit) (statement lease limit sql arguments) := by
  intro held w h hu
  obtain ⟨ha, hu, hb⟩ := exchange_hears limit (.prepare sql) held w h hu
  rw [statement, Action.after_bind, Action.answer_bind]
  generalize (exchange lease limit (.prepare sql)).after w = mid at *
  generalize (exchange lease limit (.prepare sql)).answer w = result at *
  cases result with
  | error e =>
    exact ⟨ha, hu, hb.imp_right Unheard.error⟩
  | ok reply =>
    have hnone := hb.resolve_right not_unheard_ok
    dsimp only
    cases bindArguments (signatureOf reply) arguments with
    | error e => exact ⟨ha, hu, .inl hnone⟩
    | ok payloads =>
      obtain ⟨ha, hu, hb⟩ := exchange_hears limit (.execute sql payloads) held mid ha hu
      dsimp only
      rw [Action.after_bind, Action.answer_bind, Action.after_pure, Action.answer_pure]
      refine ⟨ha, hu, hb.imp_right ?_⟩
      rintro ⟨deadline, hl, he⟩
      exact ⟨deadline, hl, congrArg (·.map completionOf) he⟩

theorem loggedStatement_hears (failure : String) :
    Hears stale origin lease (Unheard (some deadline))
      (loggedStatement failure lease deadline sql arguments) := by
  refine Hears.record_bind ((statement_hears (some deadline) sql arguments).bind_quiet ?_ ?_)
  · intro result
    cases result with
    | ok done => exact quiet_pure _
    | error e => exact (quiet_record _).bind fun _ => quiet_pure _
  · rintro result w ⟨deadline, hl, rfl⟩
    exact ⟨deadline, hl, rfl⟩

variable {deadline sql arguments} in
theorem Runs.hears {failed : Error → α} {action : Action α}
    (h : Runs lease deadline sql arguments failed action) :
    Hears stale origin lease (· = failed deadline.error) action := by
  obtain ⟨failure, next, rfl, hq, hfailed⟩ := h
  refine (loggedStatement_hears deadline sql arguments failure).bind_quiet hq ?_
  rintro result w ⟨limit, hl, rfl⟩
  obtain rfl := Option.some.inj hl
  exact hfailed _ w

theorem Quiet.hears {action : Action α} (hq : Quiet action) :
    Hears stale origin lease (fun _ => True) action := by
  intro held w ha hu
  obtain ⟨logs, hl⟩ := hq w
  rw [hl]
  exact ⟨ha.aside ⟨rfl, rfl, rfl, rfl, rfl, rfl⟩, hu, .inr trivial⟩

theorem callOn_hears (call : Call) :
    Hears stale origin lease (Unheard limit) (callOn lease limit call sql arguments) := by
  refine (statement_hears limit sql arguments).bind_quiet (fun _ => quiet_pure _) ?_
  rintro result w ⟨deadline, hl, rfl⟩
  exact ⟨deadline, hl, rfl⟩

end Statement

end RecordSql.Store
