import RecordSql.Proofs.Store.Patience

namespace RecordSql.Store

open Server

variable {α β σ : Type} {w mid after : World} {tick : Nat}

-- A world after some time, in which the clock has waited for no tick later than the given one.
-- The configuration and the timer stay as they are.
structure World.Elapsed (tick : Nat) (w after : World) : Prop where
  config : after.config = w.config
  timer : after.timer = w.timer
  clock : ∃ passed ≤ tick, after.now = w.timer.ring w.now passed

namespace World

namespace Elapsed

theorem of_eq (hc : after.config = w.config) (ht : after.timer = w.timer)
    (hn : after.now = w.now) : Elapsed tick w after :=
  ⟨hc, ht, 0, Nat.zero_le _, by rw [hn, Timer.ring_zero]⟩

theorem refl (w : World) : Elapsed tick w w := of_eq rfl rfl rfl

theorem trans (h : Elapsed tick w mid) (hm : Elapsed tick mid after) : Elapsed tick w after := by
  obtain ⟨first, hfirst, hmid⟩ := h.clock
  obtain ⟨second, hsecond, hafter⟩ := hm.clock
  refine ⟨hm.config.trans h.config, hm.timer.trans h.timer, max first second,
    Nat.max_le.mpr ⟨hfirst, hsecond⟩, ?_⟩
  rw [hafter, hmid, h.timer, Timer.ring_ring]

theorem of_before (h : Elapsed tick mid after) (hc : mid.config = w.config)
    (ht : mid.timer = w.timer) (hn : mid.now = w.now) : Elapsed tick w after :=
  (of_eq hc ht hn).trans h

theorem mono {later : Nat} (h : Elapsed tick w after) (hle : tick ≤ later) :
    Elapsed later w after := by
  obtain ⟨passed, hpassed, hafter⟩ := h.clock
  exact ⟨h.config, h.timer, passed, Nat.le_trans hpassed hle, hafter⟩

theorem nanos_le (h : Elapsed tick w after) :
    after.now.nanos ≤ (w.timer.ring w.now tick).nanos := by
  obtain ⟨passed, hpassed, hafter⟩ := h.clock
  rw [hafter]
  exact w.timer.nanos_ring_mono w.now hpassed

-- Whoever has waited no longer than until a tick, and no less, shows what a timer for it shows.
theorem now_eq_ring (h : Elapsed tick w after) (hn : tick ≤ after.now.lastTick) :
    after.now = w.timer.ring w.now tick := by
  obtain ⟨passed, hpassed, hafter⟩ := h.clock
  rw [hafter] at hn ⊢
  exact w.timer.ring_eq_of_le w.now hpassed hn

end Elapsed

-- What is done without waiting takes no time.
section Instant

variable (w)

theorem elapsed_updateLink (connection : Nat) (change : Link → Link) :
    Elapsed tick w (w.updateLink connection change) :=
  .of_eq rfl rfl rfl

theorem elapsed_giveBack (lease : Lease) : Elapsed tick w (w.giveBack lease) := by
  unfold giveBack
  split
  · exact .refl w
  · split <;> exact .of_eq rfl rfl rfl

theorem elapsed_discard (lease : Lease) : Elapsed tick w (w.discard lease) := by
  unfold discard
  split
  · exact .refl w
  · exact .of_eq rfl rfl rfl

theorem elapsed_finishRollback (rollback : Rollback) :
    Elapsed tick w (w.finishRollback rollback) := by
  unfold finishRollback
  split
  · exact .of_eq rfl rfl rfl
  · exact (elapsed_discard _ _).of_before rfl rfl rfl
  · exact elapsed_giveBack w _

theorem elapsed_finishRollbacks (rollbacks : List Rollback) :
    Elapsed tick w (rollbacks.foldl finishRollback w) := by
  induction rollbacks generalizing w with
  | nil => exact .refl w
  | cons rollback rest ih => exact (elapsed_finishRollback w rollback).trans (ih _)

theorem elapsed_settle : Elapsed tick w w.settle :=
  (elapsed_finishRollbacks _ _).of_before rfl rfl rfl

theorem elapsed_atMoment {now : Moment} {passed : Nat} (h : passed ≤ tick)
    (hn : now = w.timer.ring w.now passed) : Elapsed tick w { w with now } :=
  ⟨rfl, rfl, passed, h, hn⟩

theorem elapsed_waitFor {passed : Nat} (h : passed ≤ tick) : Elapsed tick w (w.waitFor passed) :=
  w.elapsed_atMoment h rfl

end Instant

end World

-- An action during which the clock waits for no tick later than the given one.
def Action.Lasts (tick : Nat) (action : Action α) : Prop :=
  ∀ w : World, w.Elapsed tick (action.after w)

section Lasts

theorem lasts_pure (a : α) : Action.Lasts tick (pure a) := fun w => .refl w

theorem lasts_modify {change : World → World} (h : ∀ w : World, w.Elapsed tick (change w)) :
    Action.Lasts tick (modify change) := h

theorem Quiet.lasts {action : Action α} (hq : Quiet action) : action.Lasts tick := by
  intro w
  obtain ⟨logs, hl⟩ := hq w
  rw [hl]
  exact .of_eq rfl rfl rfl

theorem lasts_record (entry : LogEntry) : (record entry).Lasts tick := (quiet_record entry).lasts

theorem Action.Lasts.bind {action : Action α} {next : α → Action β} (h : action.Lasts tick)
    (hn : ∀ a, (next a).Lasts tick) : (action >>= next).Lasts tick :=
  fun w => (h w).trans (hn (action.answer w) _)

end Lasts

section Await

-- The induction is on the fuel. Each time the clock goes on to an answer that comes before the
-- tick, or to the tick itself.
theorem awaitWith_lasts (ready : World → Option α) (fuel : Nat) :
    (awaitWith ready (some tick) fuel).Lasts tick := by
  induction fuel with
  | zero => exact lasts_pure none
  | succ fuel ih =>
    intro w
    rw [awaitWith, Action.after_get_bind]
    cases ready w with
    | some a => exact .refl w
    | none =>
      cases w.nextDue with
      | none => exact w.elapsed_waitFor (Nat.le_refl tick)
      | some due =>
        dsimp only
        by_cases ht : tick ≤ due
        · rw [if_pos ht, Action.after_bind, Action.after_set]
          exact w.elapsed_waitFor (Nat.le_refl tick)
        · rw [if_neg ht, Action.after_bind, Action.after_set]
          have hwait := w.elapsed_waitFor (Nat.le_of_not_le ht)
          exact (hwait.trans (World.elapsed_settle _)).trans (ih _)

theorem awaitUntil_lasts (ready : World → Option α) :
    (awaitUntil ready (some tick)).Lasts tick :=
  fun w => awaitWith_lasts ready (w.pending + 1) w

theorem await_lasts (ready : World → Option α) (limit : Deadline) :
    (await ready (some limit)).Lasts limit.expiry.nextTick :=
  awaitUntil_lasts ready

theorem waitUntil_lasts {limit : Nat} (h : tick ≤ limit) : (waitUntil tick).Lasts limit := by
  intro w
  rw [after_waitUntil]
  split
  · exact (awaitUntil_lasts _ w).mono h
  · exact .refl w

-- Who gets nothing has waited until the tick. There is fuel for every message that may be answered
-- before it, and on this the induction goes.
theorem awaitWith_until {ready : World → Option α} (fuel : Nat) (hf : w.pending < fuel)
    (hn : (awaitWith ready (some tick) fuel).answer w = none) :
    tick ≤ ((awaitWith ready (some tick) fuel).after w).now.lastTick := by
  induction fuel generalizing w with
  | zero => omega
  | succ fuel ih =>
    rw [awaitWith, Action.after_get_bind]
    rw [awaitWith, Action.answer_get_bind] at hn
    cases hr : ready w with
    | some a => simp [hr] at hn
    | none =>
      cases hd : w.nextDue with
      | none => exact w.timer.le_lastTick_ring w.now tick
      | some due =>
        simp only [hr, hd] at hn ⊢
        by_cases ht : tick ≤ due
        · rw [if_pos ht, Action.after_bind, Action.after_set]
          exact w.timer.le_lastTick_ring w.now tick
        · rw [if_neg ht, Action.answer_bind, Action.after_set] at hn
          rw [if_neg ht, Action.after_bind, Action.after_set]
          have hless := pending_waitFor_lt hd
          exact ih (by omega) hn

theorem awaitUntil_until {ready : World → Option α} (w : World)
    (hn : (awaitUntil ready (some tick)).answer w = none) :
    tick ≤ ((awaitUntil ready (some tick)).after w).now.lastTick :=
  awaitWith_until (w.pending + 1) (Nat.lt_succ_self _) hn

theorem await_until (ready : World → Option α) (limit : Deadline) (w : World)
    (hn : (await ready (some limit)).answer w = none) :
    limit.hasRung ((await ready (some limit)).after w).now = true :=
  decide_eq_true (awaitUntil_until w hn)

-- Where nothing is ready nothing is given.
theorem awaitUntil_never (limit : Option Nat) (w : World) :
    (awaitUntil (fun _ => (none : Option α)) limit).answer w = none := by
  cases ha : (awaitUntil (fun _ => (none : Option α)) limit).answer w with
  | none => rfl
  | some a => cases awaitUntil_ready _ limit w a ha

theorem now_waitUntil (tick : Nat) (w : World) :
    ((waitUntil tick).after w).now = w.timer.ring w.now tick := by
  refine (waitUntil_lasts (Nat.le_refl tick) w).now_eq_ring ?_
  rw [after_waitUntil]
  split
  · exact awaitUntil_until w (awaitUntil_never _ w)
  · exact Nat.le_of_not_lt (by assumption)

end Await

section Exchange

variable (lease : Lease) (limit : Deadline) (sql : String) (arguments : List Value)

theorem exchange_lasts (content : Content) :
    (exchange lease (some limit) content).Lasts limit.expiry.nextTick := by
  intro w
  have hsent : ∀ next : World, next.config = w.config → next.timer = w.timer → next.now = w.now →
      w.Elapsed limit.expiry.nextTick (next.send lease content).settle := fun next hc ht hn =>
    ((World.Elapsed.of_eq hc ht hn).trans (World.elapsed_updateLink next _ _)).trans
      (World.elapsed_settle _)
  rw [exchange, Action.after_get_bind]
  cases (some limit).any (·.hasRung w.now) with
  | true =>
    simp only [if_true, Action.after_bind, Action.after_set, Action.after_pure]
    split
    · exact hsent _ rfl rfl rfl
    · exact .of_eq rfl rfl rfl
  | false =>
    simp only [Bool.false_eq_true, if_false, Action.after_bind, Action.after_set]
    have hwaited := (hsent w rfl rfl rfl).trans (await_lasts
      (·.reply? lease.connection (w.nextMessage lease.connection)) limit _)
    split
    all_goals
      rw [Action.after_pure]
      exact hwaited

theorem batch_lasts : (batch lease (some limit) sql).Lasts limit.expiry.nextTick :=
  (exchange_lasts lease limit _).bind fun _ => lasts_pure _

theorem statement_lasts :
    (statement lease (some limit) sql arguments).Lasts limit.expiry.nextTick := by
  refine (exchange_lasts lease limit _).bind fun result => ?_
  cases result with
  | error e => exact lasts_pure _
  | ok reply =>
    dsimp only
    cases bindArguments (signatureOf reply) arguments with
    | error e => exact lasts_pure _
    | ok payloads => exact (exchange_lasts lease limit _).bind fun _ => lasts_pure _

theorem loggedStatement_lasts (failure : String) :
    (loggedStatement failure lease limit sql arguments).Lasts limit.expiry.nextTick := by
  refine (lasts_record _).bind fun _ => (statement_lasts lease limit sql arguments).bind ?_
  intro result
  cases result with
  | ok done => exact lasts_pure _
  | error e => exact (lasts_record _).bind fun _ => lasts_pure _

variable {lease limit sql arguments} in
theorem Runs.lasts {failed : Error → α} {action : Action α}
    (h : Runs lease limit sql arguments failed action) : action.Lasts limit.expiry.nextTick := by
  obtain ⟨failure, next, rfl, hq, -⟩ := h
  exact (loggedStatement_lasts lease limit sql arguments failure).bind fun result =>
    (hq result).lasts

theorem returnedIdOn_lasts (reader : CellReader) :
    (returnedIdOn lease limit reader sql arguments).Lasts limit.expiry.nextTick := by
  cases hr : hasReturningClause sql with
  | true => exact (returnedIdOn_runs limit sql arguments reader hr).lasts
  | false => exact (quiet_returnedIdOn limit sql arguments reader hr).lasts

end Exchange

section Checkout

variable (limit : Deadline)

theorem openPooled_lasts : (openPooled limit).Lasts limit.expiry.nextTick := by
  intro w
  have hopened : w.Elapsed limit.expiry.nextTick w.connect.2.2 := .of_eq rfl rfl rfl
  have hlent : w.Elapsed limit.expiry.nextTick (w.connect.2.2.lend w.links.length).2 :=
    .of_eq rfl rfl rfl
  have ho := openPooled_opening limit w
  generalize (openPooled limit).after w = after at ho ⊢
  generalize (openPooled limit).answer w = result at ho
  cases ho with
  | accepted _ ht => exact hlent.trans (waitUntil_lasts (Nat.le_of_lt ht) _)
  | tooLate =>
    exact (hlent.trans (waitUntil_lasts (Nat.le_refl _) _)).trans (World.elapsed_discard _ _)
  | turnedDown _ ht => exact hopened.trans (waitUntil_lasts (Nat.le_of_lt ht) _)
  | cutOff => exact hopened.trans (waitUntil_lasts (Nat.le_refl _) _)

theorem takeOrOpen_lasts : (takeOrOpen limit).Lasts limit.expiry.nextTick := by
  intro w
  rw [takeOrOpen, Action.after_get_bind]
  cases w.pool.idle with
  | nil => exact openPooled_lasts limit w
  | cons connection idle => exact .of_eq rfl rfl rfl

theorem awaitRoom_lasts : (awaitRoom limit).Lasts limit.expiry.nextTick := by
  intro w
  have hwait := await_lasts (fun w => if w.hasRoom then some () else none) limit w
  rw [awaitRoom, Action.after_get_bind]
  cases w.hasRoom with
  | true => exact .refl w
  | false =>
    cases limit.hasRung w.now with
    | true => exact .refl w
    | false => exact hwait

theorem checkout_lasts : (checkout limit).Lasts limit.expiry.nextTick := by
  intro w
  rw [checkout, Action.after_get_bind]
  cases w.pool.closed with
  | true => exact .refl w
  | false =>
    refine (awaitRoom_lasts limit).bind (fun hasRoom => ?_) w
    cases hasRoom with
    | true => exact takeOrOpen_lasts limit
    | false => exact lasts_pure _

-- The induction is on the attempts that are left. All of them have the one deadline.
theorem acquireWith_lasts (attempt left : Nat) :
    (acquireWith limit attempt left).Lasts limit.expiry.nextTick := by
  induction left generalizing attempt with
  | zero =>
    refine (checkout_lasts limit).bind fun result => ?_
    cases result with
    | ok lease => exact lasts_pure _
    | error e => exact (lasts_record _).bind fun _ => lasts_pure _
  | succ left ih =>
    refine (checkout_lasts limit).bind fun result => ?_
    cases result with
    | ok lease => exact lasts_pure _
    | error e =>
      dsimp only
      split
      · exact (lasts_record _).bind fun _ => lasts_pure _
      · exact fun w => ((lasts_record _).bind fun _ => ih (attempt + 1)) w

theorem acquire_lasts : (acquire limit).Lasts limit.expiry.nextTick :=
  fun w => acquireWith_lasts limit 0 w.config.retryCount w

theorem withLease_lasts {use : Lease → Action α}
    (hu : ∀ lease, (use lease).Lasts limit.expiry.nextTick) :
    (withLease limit use).Lasts limit.expiry.nextTick := by
  refine (acquire_lasts limit).bind fun result => ?_
  cases result with
  | error e => exact lasts_pure _
  | ok lease =>
    exact (hu lease).bind fun _ =>
      (lasts_modify fun w => w.elapsed_giveBack lease).bind fun _ => lasts_pure _

end Checkout

section Transactions

variable (context : Deadline) (t : Transaction)

theorem beginOn_lasts (lease : Lease) (deadline : Deadline) :
    (beginOn lease deadline).Lasts deadline.expiry.nextTick := by
  refine (batch_lasts lease deadline beginSql).bind fun result => ?_
  cases result with
  | ok _ => exact lasts_pure _
  | error e =>
    exact (lasts_record _).bind fun _ =>
      (lasts_modify fun w => w.elapsed_discard lease).bind fun _ => lasts_pure _

theorem beginTransaction_elapsed (w : World) :
    w.Elapsed (context.child w.now w.config.timeout).expiry.nextTick
      ((beginTransaction context).after w) := by
  rw [beginTransaction, Action.after_get_bind]
  generalize context.child w.now w.config.timeout = deadline
  refine (acquire_lasts deadline).bind (fun result => ?_) w
  cases result with
  | error e => exact lasts_pure _
  | ok lease => exact beginOn_lasts lease deadline

theorem rollback_lasts : (rollback context t).Lasts (t.bound context).expiry.nextTick := by
  refine (batch_lasts t.lease (t.bound context) rollbackSql).bind fun result => ?_
  cases result with
  | ok _ => exact (lasts_modify fun w => w.elapsed_giveBack t.lease).bind fun _ => lasts_pure _
  | error e =>
    exact (lasts_record _).bind fun _ =>
      (lasts_modify fun w => w.elapsed_discard t.lease).bind fun _ => lasts_pure _

-- The rollback after a commit that failed has a timeout of its own.
theorem rollbackFailedCommit_elapsed (w : World) :
    w.Elapsed (Deadline.expiryOf w.now w.config.timeout).nextTick
      ((rollbackFailedCommit t).after w) := by
  rw [rollbackFailedCommit, Action.after_get_bind]
  refine (batch_lasts t.lease (Deadline.after w.now w.config.timeout) rollbackSql).bind
    (fun result => ?_) w
  have hdiscard : ∀ tick, Action.Lasts tick (modify (World.discard · t.lease)) := fun tick =>
    lasts_modify fun w => w.elapsed_discard t.lease
  cases result with
  | ok _ => exact hdiscard _
  | error e => exact (lasts_record _).bind fun _ => hdiscard _

theorem tick_le_expiryOf (timer : Timer) (now : Moment) (tick : Nat) (timeout : Duration) :
    tick ≤ (Deadline.expiryOf (timer.ring now tick) timeout).nextTick := by
  have hlater := Moment.nextTick_mono (Deadline.le_expiryOf (timer.ring now tick) timeout)
  exact (timer.le_lastTick_ring now tick).trans ((Moment.lastTick_le_nextTick _).trans hlater)

-- That timeout starts when the commit has failed.
theorem rollbackFailedCommit_elapsed_of (h : w.Elapsed tick mid) :
    w.Elapsed (Deadline.expiryOf (w.timer.ring w.now tick) w.config.timeout).nextTick
      ((rollbackFailedCommit t).after mid) := by
  have hexpiry := Deadline.expiryOf_mono h.nanos_le w.config.timeout
  have hrolled := rollbackFailedCommit_elapsed t mid
  rw [h.config] at hrolled
  exact (h.mono (tick_le_expiryOf w.timer w.now tick w.config.timeout)).trans
    (hrolled.mono (Moment.nextTick_mono hexpiry))

theorem commit_elapsed (w : World) :
    w.Elapsed (Deadline.expiryOf (w.timer.ring w.now (t.bound context).expiry.nextTick)
      w.config.timeout).nextTick ((commit context t).after w) := by
  have hb := batch_lasts t.lease (t.bound context) commitSql w
  have hlater := tick_le_expiryOf w.timer w.now (t.bound context).expiry.nextTick w.config.timeout
  rw [commit, Action.after_bind]
  generalize (batch t.lease (some (t.bound context)) commitSql).after w = mid at hb ⊢
  generalize (batch t.lease (some (t.bound context)) commitSql).answer w = result
  cases result with
  | ok _ => exact (hb.mono hlater).trans (mid.elapsed_giveBack t.lease)
  | error e =>
    have hlogged := hb.trans (lasts_record (.failed "commit failed, rolling back" e) mid)
    rw [Action.after_bind, Action.after_bind, Action.after_pure]
    exact rollbackFailedCommit_elapsed_of t hlogged

end Transactions

section Operations

-- An action that starts in a world and ends by a deadline: when it starts, or at the latest when
-- the timer of the deadline rings. Where timers ring at their ticks this is the deadline, rounded
-- up to a whole millisecond, to the nanosecond.
structure Action.EndsBy (action : Action α) (w : World) (expiry : Moment) : Prop where
  ticks : (action.after w).now.lastTick ≤ max w.now.lastTick expiry.nextTick
  nanos (ht : w.timer.Punctual) :
    (action.after w).now.nanos ≤ max w.now.nanos (expiry.nextTick * Duration.nanosPerMilli)

theorem World.Elapsed.endsBy {action : Action α} {expiry : Moment}
    (h : w.Elapsed expiry.nextTick (action.after w)) : action.EndsBy w expiry := by
  have hle := h.nanos_le
  refine ⟨?_, fun ht => ?_⟩
  · rw [← w.timer.lastTick_ring]
    exact Moment.lastTick_mono hle
  · rwa [ht w.now expiry.nextTick] at hle

theorem expiry_bound (context : Deadline) (t : Transaction) :
    (t.bound context).expiry = ⟨min context.expiry.nanos t.deadline.expiry.nanos⟩ := by
  rw [← Deadline.expiry_earliest]
  rfl

-- No operation outlives its deadline, whatever the server does and however often a checkout is
-- tried again. A commit that fails is given the time of one more timeout to roll back.
theorem operations_endBy (w : World) (context : Deadline) (t : Transaction) (scan : Scan σ)
    (state : σ) (reader : CellReader) (sql : String) (arguments : List Value) :
    let timeout : Duration := ⟨min w.config.timeout.nanos Deadline.farFuture.nanos⟩
    let bound : Moment := ⟨min context.expiry.nanos t.deadline.expiry.nanos⟩
    (acquire context).EndsBy w context.expiry ∧
      (exec context sql arguments).EndsBy w context.expiry ∧
      (query context scan state sql arguments).EndsBy w context.expiry ∧
      (queryRow context scan state sql arguments).EndsBy w context.expiry ∧
      (beginTransaction context).EndsBy w
        ⟨min context.expiry.nanos (w.now.add timeout).nanos⟩ ∧
      (executeOn t.lease (t.bound context) sql arguments).EndsBy w bound ∧
      (returnedIdOn t.lease (t.bound context) reader sql arguments).EndsBy w bound ∧
      (rollback context t).EndsBy w bound ∧
      (commit context t).EndsBy w ((w.timer.ring w.now bound.nextTick).add timeout) := by
  intro timeout bound
  have hbound : (t.bound context).expiry = bound := expiry_bound context t
  have hchild : (context.child w.now w.config.timeout).expiry =
      ⟨min context.expiry.nanos (w.now.add timeout).nanos⟩ :=
    congrArg Moment.mk (Deadline.expiry_child context w.now w.config.timeout)
  rw [← hbound, ← hchild]
  refine ⟨(acquire_lasts context w).endsBy, ?_, ?_, ?_, (beginTransaction_elapsed context w).endsBy,
    ((executeOn_runs _ sql arguments).lasts w).endsBy,
    (returnedIdOn_lasts _ _ sql arguments reader w).endsBy, (rollback_lasts context t w).endsBy,
    (commit_elapsed context t w).endsBy⟩
  · exact (((withLease_lasts context fun lease => (executeOn_runs context sql arguments).lasts).bind
      fun _ => lasts_pure _) w).endsBy
  · exact (((withLease_lasts context fun lease =>
      (queryOn_runs context sql arguments scan state).lasts).bind fun _ => lasts_pure _) w).endsBy
  · exact (((withLease_lasts context fun lease =>
      (queryRowOn_runs context sql arguments scan state).lasts).bind fun _ => lasts_pure _) w).endsBy

-- A server that takes four milliseconds to turn a connection down.
def reluctant : Behaviour where
  opening _ := ⟨4000000⟩
  prepare _ _ := none
  run _ _ := none
  delay _ _ := ⟨0⟩

-- Half a millisecond has passed, and many attempts to connect are allowed.
def refusedStart : World :=
  { World.start { retryCount := 9 } reluctant (List.replicate 10 .refuse) [] with
    timer := .prompt
    now := ⟨500000⟩ }

def tenMillis : Deadline := Deadline.after Moment.start ⟨10000000⟩

-- Two attempts are turned down, and in the third the time is up. A commit whose transaction has as
-- long, and that nobody answers, is given the timeout of the store on top.
theorem operations_endBy_refused :
    refusedStart.timer.Punctual ∧
      (acquire tenMillis).answer refusedStart = .error tenMillis.error ∧
      ((acquire tenMillis).after refusedStart).links.length = 3 ∧
      ((acquire tenMillis).after refusedStart).now = ⟨10000000⟩ ∧
      ((acquire tenMillis).after refusedStart).now.nanos ≤ 10000000 ∧
      ((exec tenMillis "SELECT 1" []).after refusedStart).now.nanos ≤ 10000000 ∧
      ((commit tenMillis ⟨⟨0, 0, true⟩, tenMillis⟩).after refusedStart).now.nanos ≤
        30010000000 := by
  have hpunctual : refusedStart.timer.Punctual := Timer.punctual_prompt
  obtain ⟨hacquire, hexec, -, -, -, -, -, -, hcommit⟩ :=
    operations_endBy refusedStart tenMillis ⟨⟨0, 0, true⟩, tenMillis⟩ (fun _ _ => ((), none)) ()
      ⟨.int4, false⟩ "SELECT 1" []
  exact ⟨hpunctual, by decide +kernel, by decide +kernel, by decide +kernel,
    hacquire.nanos hpunctual, hexec.nanos hpunctual, hcommit.nanos hpunctual⟩

end Operations

end RecordSql.Store
