import RecordSql.Proofs.Store.Hearing
import RecordSql.Proofs.Store.Timeliness

namespace RecordSql.Store

open Server

variable {α : Type} {stale : Lease → Prop} {origin : Scene} {held : List Lease}
  {w mid after : World} {lease : Lease} {limit : Deadline}

section Clock

variable {tick : Nat}

theorem World.Elapsed.le (h : w.Elapsed tick after) : w.now.nanos ≤ after.now.nanos := by
  obtain ⟨passed, -, hafter⟩ := h.clock
  rw [hafter]
  exact w.timer.le_ring w.now passed

theorem World.Elapsed.now_eq (h : w.Elapsed 0 after) : after.now = w.now := by
  obtain ⟨passed, hpassed, hafter⟩ := h.clock
  obtain rfl : passed = 0 := Nat.le_zero.mp hpassed
  rw [hafter, Timer.ring_zero]

-- A timer that has rung stays so.
theorem World.Elapsed.hasRung (h : w.Elapsed tick after) (hr : limit.hasRung w.now = true) :
    limit.hasRung after.now = true :=
  decide_eq_true ((of_decide_eq_true hr).trans (Moment.lastTick_mono h.le))

-- What is got before a tick is got while the clock shows an earlier one. The induction is on the
-- fuel, and the clock goes on to answers that are due before the tick only.
theorem awaitWith_before {ready : World → Option α} {a : α} (fuel : Nat)
    (hw : w.now.lastTick < tick)
    (ha : (awaitWith ready (some tick) fuel).answer w = some a) :
    ((awaitWith ready (some tick) fuel).after w).now.lastTick < tick := by
  induction fuel generalizing w with
  | zero => exact hw
  | succ fuel ih =>
    rw [awaitWith, Action.after_get_bind]
    rw [awaitWith, Action.answer_get_bind] at ha
    cases hr : ready w with
    | some b => exact hw
    | none =>
      cases hd : w.nextDue with
      | none => simp [hr, hd] at ha
      | some due =>
        simp only [hr, hd] at ha ⊢
        by_cases ht : tick ≤ due
        · simp [ht] at ha
        · rw [if_neg ht, Action.answer_bind, Action.after_set] at ha
          rw [if_neg ht, Action.after_bind, Action.after_set]
          have hnow : (w.waitFor due).settle.now = w.timer.ring w.now due :=
            (World.elapsed_settle (w.waitFor due)).now_eq
          refine ih ?_ ha
          rw [hnow, Timer.lastTick_ring]
          exact Nat.max_lt.mpr ⟨hw, Nat.lt_of_not_le ht⟩

theorem awaitUntil_before {ready : World → Option α} {a : α} (hw : w.now.lastTick < tick)
    (ha : (awaitUntil ready (some tick)).answer w = some a) :
    ((awaitUntil ready (some tick)).after w).now.lastTick < tick :=
  awaitWith_before (w.pending + 1) hw ha

theorem await_before {ready : World → Option α} {a : α} (hn : limit.hasRung w.now = false)
    (ha : (await ready (some limit)).answer w = some a) :
    limit.hasRung ((await ready (some limit)).after w).now = false :=
  decide_eq_false (Nat.not_le_of_lt
    (awaitUntil_before (Nat.lt_of_not_le (of_decide_eq_false hn)) ha))

end Clock

-- What an exchange makes of the answer to its message.
def reported : Reply → Except Error Reply
  | .refused => .error refusal
  | reply => .ok reply

section Exchange

variable {content : Content}

-- Why an exchange fails: the server refuses, or the deadline passes.
theorem exchange_error {e : Error}
    (h : (exchange lease (some limit) content).answer w = .error e) :
    e = refusal ∨ e = limit.error := by
  rw [exchange, Action.answer_get_bind] at h
  cases hl : (some limit).any (·.hasRung w.now) with
  | true =>
    simp only [hl, if_true, Action.answer_bind, Action.answer_pure] at h
    exact .inr (Except.error.inj h).symm
  | false =>
    simp only [hl, Bool.false_eq_true, if_false, Action.answer_bind] at h
    split at h
    · exact .inl (Except.error.inj h).symm
    · simp at h
    · exact .inr (Except.error.inj h).symm

theorem Exchanged.contents_eq {opens : Content → Prop} {result : Except Error Reply}
    {contents : List Content}
    (h : Exchanged opens held lease (some limit) content w after result contents)
    (hn : limit.hasRung w.now = false) : contents = [content] := by
  rcases h.sent with hsent | ⟨-, hrung⟩
  · exact hsent
  · rw [Option.any_some, hn] at hrung
    exact absurd hrung Bool.false_ne_true

-- Where there is time left the message is sent and its answer waited for.
theorem after_exchange (hn : limit.hasRung w.now = false) :
    (exchange lease (some limit) content).after w =
      (await (·.reply? lease.connection (w.nextMessage lease.connection)) (some limit)).after
        (w.send lease content).settle := by
  rw [exchange, Action.after_get_bind, Option.any_some, hn, if_neg Bool.false_ne_true,
    Action.after_bind, Action.after_set, Action.after_bind]
  split <;> rfl

theorem answer_exchange_of_reply (hn : limit.hasRung w.now = false) {reply : Reply}
    (hr : (await (·.reply? lease.connection (w.nextMessage lease.connection)) (some limit)).answer
      (w.send lease content).settle = some reply) :
    (exchange lease (some limit) content).answer w ≠ .error limit.error := by
  rw [exchange, Action.answer_get_bind, Option.any_some, hn, if_neg Bool.false_ne_true,
    Action.answer_bind, Action.after_set, Action.answer_bind, hr]
  cases reply <;> simp [refusal, Deadline.error]

theorem batch_ok {limit : Option Deadline} {sql : String}
    (h : (batch lease limit sql).answer w = .ok ()) :
    ∃ reply, (exchange lease limit (.batch sql)).answer w = .ok reply := by
  rw [answer_batch] at h
  cases hr : (exchange lease limit (.batch sql)).answer w with
  | ok reply => exact ⟨reply, rfl⟩
  | error e => simp [hr, Except.map] at h

theorem batch_error {sql : String} {e : Error}
    (h : (batch lease (some limit) sql).answer w = .error e) : e = refusal ∨ e = limit.error := by
  rw [answer_batch] at h
  cases hr : (exchange lease (some limit) (.batch sql)).answer w with
  | ok reply =>
    rw [hr] at h
    exact absurd h (by simp [Except.map])
  | error other =>
    rw [hr, Except.map, Except.error.injEq] at h
    exact h ▸ exchange_error hr

-- Who waits is answered, or has waited until the deadline.
theorem exchange_until (h : Arrives stale origin held w) (hu : w.Uses held lease)
    (hn : limit.hasRung w.now = false) :
    ((exchange lease (some limit) content).after w).backlog lease.connection = [] ∨
      limit.hasRung ((exchange lease (some limit) content).after w).now = true := by
  obtain ⟨-, -, hb⟩ := exchange_hears (some limit) content held w h hu
  refine hb.imp_right ?_
  rintro ⟨deadline, hl, he⟩
  obtain rfl := Option.some.inj hl
  rw [after_exchange hn]
  refine await_until _ limit _ (Option.eq_none_iff_forall_ne_some.mpr fun reply hr => ?_)
  exact answer_exchange_of_reply hn hr he

-- What was answered stays answered.
theorem Follows.reply? {added : Nat → List Message} (h : Follows added w after) {c n : Nat}
    {reply : Reply} (hr : w.reply? c n = some reply) : after.reply? c n = some reply := by
  have heq : ∀ next : World, next.reply? c n = (next.answeredOver c)[n]?.map (·.reply) :=
    fun next => by
      unfold World.reply? World.answeredOver
      cases next.link? c <;> rfl
  rw [heq] at hr ⊢
  obtain ⟨exchange, he, rfl⟩ := Option.map_eq_some_iff.mp hr
  obtain ⟨later, hlater⟩ := h.answered c
  have hlength := (List.getElem?_eq_some_iff.mp he).1
  rw [← hlater, List.getElem?_append_left hlength, he]
  rfl

-- An exchange that starts in time gives what is awaited, or tells that it did not come.
theorem answer_exchange (hn : limit.hasRung w.now = false) :
    (exchange lease (some limit) content).answer w =
      match (await (·.reply? lease.connection (w.sentOver lease.connection).length)
        (some limit)).answer (w.send lease content).settle with
      | some reply => reported reply
      | none => .error limit.error := by
  rw [exchange, Action.answer_get_bind, Option.any_some, hn, if_neg Bool.false_ne_true,
    Action.answer_bind, Action.after_set, Action.answer_bind, World.nextMessage_eq]
  cases (await (·.reply? lease.connection (w.sentOver lease.connection).length)
    (some limit)).answer (w.send lease content).settle with
  | none => rfl
  | some reply => cases reply <;> rfl

-- What comes of an exchange that has a limit. In time it is the answer to the message that was
-- sent, and otherwise nothing but the limit is told.
structure Replied (lease : Lease) (limit : Deadline) (content : Content) (w after : World)
    (result : Except Error Reply) : Prop where
  inTime : limit.hasRung after.now = false → Follows (lease.speech [content]) w after ∧
    ∃ reply, after.reply? lease.connection (w.sentOver lease.connection).length = some reply ∧
      result = reported reply
  tooLate : limit.hasRung after.now = true → result = .error limit.error

theorem exchange_replied (h : Arrives stale origin held w) (hu : w.Uses held lease) :
    Replied lease limit content w ((exchange lease (some limit) content).after w)
      ((exchange lease (some limit) content).answer w) := by
  cases hn : limit.hasRung w.now with
  | true =>
    have hrung := (exchange_lasts lease limit content w).hasRung hn
    refine ⟨fun hin => absurd (hrung.symm.trans hin) (by decide), fun _ => ?_⟩
    rw [exchange, Action.answer_get_bind, Option.any_some, hn, if_pos rfl]
    rfl
  | false =>
    obtain ⟨contents, hx⟩ := exchange_spec h.custody hu (some limit) content
    obtain rfl := hx.contents_eq hn
    have hf := hx.follows
    have hnow : (w.send lease content).settle.now = w.now :=
      (World.elapsed_settle (w.send lease content)).now_eq
    rw [answer_exchange hn]
    rw [after_exchange hn, World.nextMessage_eq] at hf ⊢
    generalize (w.send lease content).settle = sent at *
    cases hanswer : (await (·.reply? lease.connection (w.sentOver lease.connection).length)
        (some limit)).answer sent with
    | none =>
      have hrung := await_until _ limit sent hanswer
      exact ⟨fun hin => absurd (hrung.symm.trans hin) (by decide), fun _ => rfl⟩
    | some reply =>
      have hbefore := await_before (hnow ▸ hn) hanswer
      refine ⟨fun _ => ⟨hf, reply, await_ready _ _ _ _ hanswer, rfl⟩, fun hrung => ?_⟩
      exact absurd (hrung.symm.trans hbefore) (by decide)

-- What comes of a text that is sent by itself. What the server answers in time decides it.
structure Decided (lease : Lease) (limit : Deadline) (sql : String) (w after : World)
    (result : Except Error Unit) : Prop where
  inTime : limit.hasRung after.now = false → Follows (lease.speech [.batch sql]) w after ∧
    ∃ reply, after.reply? lease.connection (w.sentOver lease.connection).length = some reply ∧
      result = (reported reply).map fun _ => ()
  tooLate : limit.hasRung after.now = true → result = .error limit.error

theorem batch_decided {sql : String} (h : Arrives stale origin held w) (hu : w.Uses held lease) :
    Decided lease limit sql w ((batch lease (some limit) sql).after w)
      ((batch lease (some limit) sql).answer w) := by
  have hreplied : Replied lease limit (.batch sql) w _ _ := exchange_replied h hu
  rw [after_batch, answer_batch]
  refine ⟨fun hin => ?_, fun hrung => by rw [hreplied.tooLate hrung, Except.map]⟩
  obtain ⟨hf, reply, hr, he⟩ := hreplied.inTime hin
  exact ⟨hf, reply, hr, by rw [he]⟩

end Exchange

section Logged

variable {β : Type} {sql : String} {arguments : List Value}

-- Nothing happened but that something was logged. This is a relation of its own, for else the
-- worlds would be computed to see that they are the same.
def World.Logged (w after : World) : Prop := ∃ logs, after = { w with logs }

namespace World.Logged

theorem trans (h : w.Logged mid) (hm : mid.Logged after) : w.Logged after := by
  obtain ⟨first, rfl⟩ := h
  obtain ⟨second, rfl⟩ := hm
  exact ⟨second, rfl⟩

theorem now_eq (h : w.Logged after) : after.now = w.now := by
  obtain ⟨logs, rfl⟩ := h
  rfl

theorem follows (h : w.Logged after) : Follows silence w after := by
  obtain ⟨logs, rfl⟩ := h
  exact .of_eq rfl (Nat.le_refl _) rfl

end World.Logged

theorem Quiet.logged {action : Action α} {next : α → Action β} (hq : ∀ a, Quiet (next a))
    (w : World) : (action.after w).Logged ((action >>= next).after w) :=
  hq (action.answer w) (action.after w)

theorem after_record (w : World) (entry : LogEntry) : (record entry).after w = w.log entry := rfl

theorem loggedStatement_logged (failure : String) (w : World) :
    ((statement lease (some limit) sql arguments).after
      (w.log (.executing sql arguments.length))).Logged
      ((loggedStatement failure lease limit sql arguments).after w) := by
  rw [loggedStatement, Action.after_bind, after_record]
  refine Quiet.logged (fun result => ?_) _
  cases result with
  | ok done => exact quiet_pure _
  | error e => exact (quiet_record _).bind fun _ => quiet_pure _

-- An action that runs a statement leaves the world as the statement does, but for the log.
theorem Runs.logged {failed : Error → α} {action : Action α}
    (h : Runs lease limit sql arguments failed action) (w : World) :
    ((statement lease (some limit) sql arguments).after
      (w.log (.executing sql arguments.length))).Logged (action.after w) := by
  obtain ⟨failure, next, rfl, hq, -⟩ := h
  exact (loggedStatement_logged failure w).trans (Quiet.logged hq w)

end Logged

section Statement

variable {sql : String} {arguments : List Value}

-- What a statement comes to by what the server answers. It is prepared, its arguments are bound,
-- and it is executed: where one of these fails, the rest is not tried.
inductive Heard (lease : Lease) (sql : String) (arguments : List Value) (w after : World) :
    Except Error Completion → Prop
  | unprepared (hf : Follows (lease.speech [.prepare sql]) w after)
    (hp : after.reply? lease.connection (w.sentOver lease.connection).length = some .refused) :
    Heard lease sql arguments w after (.error refusal)
  | unbound {prepared : Reply} {e : Error} (hf : Follows (lease.speech [.prepare sql]) w after)
    (hp : after.reply? lease.connection (w.sentOver lease.connection).length = some prepared)
    (hn : prepared ≠ .refused) (hb : bindArguments (signatureOf prepared) arguments = .error e) :
    Heard lease sql arguments w after (.error e)
  | executed {prepared reply : Reply} {payloads : List Payload}
    (hf : Follows (lease.speech [.prepare sql, .execute sql payloads]) w after)
    (hp : after.reply? lease.connection (w.sentOver lease.connection).length = some prepared)
    (hn : prepared ≠ .refused) (hb : bindArguments (signatureOf prepared) arguments = .ok payloads)
    (he : after.reply? lease.connection ((w.sentOver lease.connection).length + 1) = some reply) :
    Heard lease sql arguments w after ((reported reply).map completionOf)

theorem reported_eq_ok {reply other : Reply} (h : reported reply = .ok other) :
    reply = other ∧ other ≠ .refused := by
  cases reply with
  | refused => simp [reported] at h
  | prepared signature => exact ⟨Except.ok.inj h, Except.ok.inj h ▸ by simp⟩
  | done rows affected => exact ⟨Except.ok.inj h, Except.ok.inj h ▸ by simp⟩

theorem reported_eq_error {reply : Reply} {e : Error} (h : reported reply = .error e) :
    reply = .refused ∧ e = refusal := by
  cases reply with
  | refused => exact ⟨rfl, (Except.error.inj h).symm⟩
  | _ => simp [reported] at h

theorem Heard.silently {before : World} {result : Except Error Completion}
    (h : Heard lease sql arguments w after result) (hb : Follows silence before w)
    {later : World} (hl : Follows silence after later) :
    Heard lease sql arguments before later result := by
  have hsent : (before.sentOver lease.connection).length =
      (w.sentOver lease.connection).length := by
    rw [hb.sent, silence, List.append_nil]
  cases h with
  | unprepared hf hp =>
    exact .unprepared ((hb.silent_trans hf).trans_silent hl) (hsent ▸ hl.reply? hp)
  | unbound hf hp hn hbind =>
    exact .unbound ((hb.silent_trans hf).trans_silent hl) (hsent ▸ hl.reply? hp) hn hbind
  | executed hf hp hn hbind he =>
    exact .executed ((hb.silent_trans hf).trans_silent hl) (hsent ▸ hl.reply? hp) hn hbind
      (hsent ▸ hl.reply? he)

-- A statement with a limit comes to what the server answers in time, or to nothing but the limit.
structure Concluded (lease : Lease) (limit : Deadline) (sql : String) (arguments : List Value)
    (w after : World) (result : Except Error Completion) : Prop where
  inTime : limit.hasRung after.now = false → Heard lease sql arguments w after result
  tooLate : limit.hasRung after.now = true → result = .error limit.error

theorem statement_concluded (h : Arrives stale origin held w) (hu : w.Uses held lease) :
    Concluded lease limit sql arguments w ((statement lease (some limit) sql arguments).after w)
      ((statement lease (some limit) sql arguments).answer w) := by
  have hfirst : Replied lease limit (.prepare sql) w _ _ := exchange_replied h hu
  obtain ⟨hmid, humid, -⟩ := exchange_hears (some limit) (.prepare sql) held w h hu
  rw [statement, Action.after_bind, Action.answer_bind]
  generalize (exchange lease (some limit) (.prepare sql)).after w = mid at *
  generalize (exchange lease (some limit) (.prepare sql)).answer w = result at *
  obtain ⟨hin, hlate⟩ := hfirst
  cases result with
  | error e =>
    dsimp only
    rw [Action.after_pure, Action.answer_pure]
    refine ⟨fun hn => ?_, fun hr => congrArg Except.error (Except.error.inj (hlate hr))⟩
    obtain ⟨hf, reply, hp, he⟩ := hin hn
    obtain ⟨rfl, rfl⟩ := reported_eq_error he.symm
    exact .unprepared hf hp
  | ok prepared =>
    have hn : limit.hasRung mid.now = false :=
      Bool.eq_false_iff.mpr fun hr => by simpa using hlate hr
    obtain ⟨hf, reply, hp, he⟩ := hin hn
    obtain ⟨rfl, hnot⟩ := reported_eq_ok he.symm
    dsimp only
    cases hb : bindArguments (signatureOf reply) arguments with
    | error e =>
      dsimp only
      rw [Action.after_pure, Action.answer_pure]
      exact ⟨fun _ => .unbound hf hp hnot hb, fun hr => absurd (hr.symm.trans hn) (by decide)⟩
    | ok payloads =>
      have hsecond : Replied lease limit (.execute sql payloads) mid _ _ :=
        exchange_replied hmid humid
      dsimp only
      rw [Action.after_bind, Action.answer_bind, Action.after_pure, Action.answer_pure]
      generalize (exchange lease (some limit) (.execute sql payloads)).after mid = last at *
      generalize (exchange lease (some limit) (.execute sql payloads)).answer mid = result at *
      obtain ⟨hin, hlate⟩ := hsecond
      refine ⟨fun hn => ?_, fun hr => ?_⟩
      · obtain ⟨hg, second, hs, rfl⟩ := hin hn
        have hlength : (mid.sentOver lease.connection).length =
            (w.sentOver lease.connection).length + 1 := hf.length_sent_speech
        exact .executed (hf.speech_trans hg) (hg.reply? hp) hnot hb (hlength ▸ hs)
      · rw [hlate hr]
        rfl

theorem Concluded.silently {before later : World} {result : Except Error Completion}
    (h : Concluded lease limit sql arguments w after result) (hb : Follows silence before w)
    (hl : Follows silence after later) (hn : later.now = after.now) :
    Concluded lease limit sql arguments before later result := by
  refine ⟨fun hin => ?_, fun hr => ?_⟩
  · rw [hn] at hin
    exact (h.inTime hin).silently hb hl
  · rw [hn] at hr
    exact h.tooLate hr

theorem Runs.concluded {failed : Error → α} {action : Action α}
    (hr : Runs lease limit sql arguments failed action) (h : Arrives stale origin held w)
    (hu : w.Uses held lease) :
    Concluded lease limit sql arguments w (action.after w)
      ((statement lease (some limit) sql arguments).answer
        (w.log (.executing sql arguments.length))) := by
  have hlog : w.Logged (w.log (.executing sql arguments.length)) := ⟨_, rfl⟩
  have hstatement : Concluded lease limit sql arguments (w.log (.executing sql arguments.length))
      _ _ := statement_concluded (h.log _) hu
  exact hstatement.silently hlog.follows (hr.logged w).follows (hr.logged w).now_eq

end Statement

end RecordSql.Store
