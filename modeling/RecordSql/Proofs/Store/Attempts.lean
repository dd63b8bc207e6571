import RecordSql.Proofs.Store.Timeliness

namespace RecordSql.Store

open Server

-- An attempt to connect, by the number of the connection and by what the server did with it.
def WireEvent.attempt? : WireEvent → Option (Nat × Welcome)
  | .connect connection welcome => some (connection, welcome)
  | .taken _ _ => none

namespace World

variable (w : World)

-- The attempts to connect that the server has seen.
def attempts : List (Nat × Welcome) := w.wire.filterMap WireEvent.attempt?

-- What the server will do with the attempts to come, counted from zero.
def upcoming (i : Nat) : Welcome := w.welcomes[i]?.getD .accept

def attempt (i : Nat) : Nat × Welcome := (w.links.length + i, w.upcoming i)

-- When an attempt to come begins. The first one begins now, and each of the others when the server
-- has looked at the one before.
def attemptStart : Nat → Moment
  | 0 => w.now
  | i + 1 => w.timer.ring (attemptStart i)
      (w.server.openingTick (attemptStart i) (w.links.length + i))

-- The tick at which the server has looked at an attempt to come.
def attemptTick (i : Nat) : Nat := w.server.openingTick (w.attemptStart i) (w.links.length + i)

-- An attempt to come that the deadline cuts off: the server ignores it or takes too long.
def CutOff (limit : Deadline) (i : Nat) : Prop :=
  w.upcoming i = .ignore ∨ limit.expiry.nextTick ≤ w.attemptTick i

-- An attempt to come that the server turns down before the deadline.
def TurnedDown (limit : Deadline) (i : Nat) : Prop :=
  (w.upcoming i).failure? ≠ none ∧ w.attemptTick i < limit.expiry.nextTick

instance (limit : Deadline) (i : Nat) : Decidable (w.CutOff limit i) :=
  inferInstanceAs (Decidable (_ ∨ _))

instance (limit : Deadline) (i : Nat) : Decidable (w.TurnedDown limit i) :=
  inferInstanceAs (Decidable (_ ∧ _))

-- Which of the attempts to come is the last one, when a number of them may follow the first: all
-- before it are turned down, and it is turned down itself only when no other may follow.
structure LastAttempt (w : World) (limit : Deadline) (left n : Nat) : Prop where
  bounded : n ≤ left
  turnedDown : ∀ i < n, w.TurnedDown limit i
  final : w.TurnedDown limit n → n = left

-- What a checkout comes to with its last attempt.
def outcome (limit : Deadline) (n : Nat) : Except Error Lease :=
  if limit.expiry.nextTick ≤ w.attemptTick n then .error limit.error
  else
    match w.upcoming n with
    | .accept => .ok ⟨w.leases, w.links.length + n, true⟩
    | .refuse => .error PoolError.refused.error
    | .hangUp => .error PoolError.hungUp.error
    | .ignore => .error limit.error

-- An open pool that has room and nothing idle, under a deadline that has not rung.
structure Vacant (w : World) (limit : Deadline) : Prop where
  isOpen : w.pool.closed = false
  room : w.hasRoom = true
  empty : w.pool.idle = []
  live : limit.hasRung w.now = false

-- A pool to which a connection may come back while an attempt lasts: a rollback is under way, and
-- attempts take time.
def Disturbed : Prop := w.rollbacks ≠ [] ∧ ∃ n, (w.server.opening n).nanos ≠ 0

end World

variable {w after next : World} {limit : Deadline} {n : Nat}

-- A deadline that has not expired has not rung.
theorem hasRung_of_isExpired {now : Moment} (h : limit.isExpired now = false) :
    limit.hasRung now = false := by
  have hlater : now.nanos < limit.expiry.nanos := Nat.lt_of_not_le (of_decide_eq_false h)
  refine decide_eq_false ?_
  simp only [Moment.nextTick, Moment.lastTick, Duration.nanosPerMilli]
  omega

section LastAttempt

variable {left m : Nat}

-- There is only one last attempt.
theorem World.LastAttempt.unique (h : w.LastAttempt limit left n)
    (hm : w.LastAttempt limit left m) : m = n := by
  have hle : ∀ {i j : Nat}, w.LastAttempt limit left i → w.LastAttempt limit left j → i ≤ j := by
    intro i j hi hj
    refine Nat.le_of_not_lt fun hlt => ?_
    have hlast := hj.final (hi.turnedDown j hlt)
    have hbounded := hi.bounded
    omega
  exact Nat.le_antisymm (hle hm h) (hle h hm)

theorem World.outcome_of_cutOff (h : w.CutOff limit n) :
    w.outcome limit n = .error limit.error := by
  unfold World.outcome
  split
  · rfl
  · rw [h.resolve_right (by assumption)]

theorem World.outcome_of_accept (h : w.upcoming n = .accept) (hc : ¬w.CutOff limit n) :
    w.outcome limit n = .ok ⟨w.leases, w.links.length + n, true⟩ := by
  rw [World.outcome, if_neg fun ht => hc (.inr ht), h]

theorem World.outcome_of_failure? {e : PoolError} (he : (w.upcoming n).failure? = some e)
    (hc : ¬w.CutOff limit n) : w.outcome limit n = .error e.error := by
  rw [World.outcome, if_neg fun ht => hc (.inr ht)]
  cases hw : w.upcoming n with
  | accept => simp [hw, Welcome.failure?] at he
  | ignore => simp [hw, Welcome.failure?] at he
  | refuse =>
    rw [hw] at he
    obtain rfl := Option.some.inj he
    rfl
  | hangUp =>
    rw [hw] at he
    obtain rfl := Option.some.inj he
    rfl

-- Only an attempt that is accepted in time succeeds.
theorem World.outcome_eq_ok {lease : Lease} (h : w.outcome limit n = .ok lease) :
    w.upcoming n = .accept ∧ ¬w.CutOff limit n := by
  unfold World.outcome at h
  split at h
  · cases h
  · rename_i ht
    split at h
    · rename_i hw
      exact ⟨hw, fun hc => hc.elim (by simp [hw]) ht⟩
    · cases h
    · cases h
    · cases h

theorem World.outcome_eq_error {e : Error} (h : w.outcome limit n = .error e)
    (ht : ¬w.TurnedDown limit n) : e = limit.error := by
  by_cases hc : w.CutOff limit n
  · exact (Except.error.inj ((World.outcome_of_cutOff hc).symm.trans h)).symm
  · cases hf : (w.upcoming n).failure? with
    | some cause =>
      exact absurd ⟨by simp [hf], Nat.lt_of_not_le fun hle => hc (.inr hle)⟩ ht
    | none =>
      cases hw : w.upcoming n with
      | accept =>
        rw [World.outcome_of_accept hw hc] at h
        cases h
      | ignore => exact absurd (.inl hw) hc
      | refuse => simp [hw, Welcome.failure?] at hf
      | hangUp => simp [hw, Welcome.failure?] at hf

theorem World.TurnedDown.not_cutOff (h : w.TurnedDown limit n) : ¬w.CutOff limit n := by
  rintro (hw | ht)
  · exact h.1 (by rw [hw]; rfl)
  · exact Nat.not_le_of_lt h.2 ht

theorem World.turnedDown_of_failure? {e : PoolError} (he : (w.upcoming n).failure? = some e)
    (hc : ¬w.CutOff limit n) : w.TurnedDown limit n :=
  ⟨by simp [he], Nat.lt_of_not_le fun ht => hc (.inr ht)⟩

end LastAttempt

section Waiting

-- What stays as it is while nobody connects and nobody takes a connection from the pool.
def World.fixed (w : World) : List Welcome × Behaviour × Timer × Nat × Nat × Bool :=
  (w.welcomes, w.server, w.timer, w.leases, w.pool.limit, w.pool.closed)

-- How a world goes on in the meantime.
structure Rests (w after : World) : Prop where
  attempts : after.attempts = w.attempts
  idle : w.pool.idle <+: after.pool.idle
  lent : after.pool.lent ≤ w.pool.lent
  links : after.links.length = w.links.length
  fixed : after.fixed = w.fixed

theorem Rests.refl (w : World) : Rests w w := ⟨rfl, List.prefix_rfl, Nat.le_refl _, rfl, rfl⟩

theorem Rests.trans {mid : World} (h : Rests w mid) (hm : Rests mid after) : Rests w after :=
  ⟨hm.attempts.trans h.attempts, h.idle.trans hm.idle, hm.lent.trans h.lent,
    hm.links.trans h.links, hm.fixed.trans h.fixed⟩

theorem attempts_serve (w : World) : w.serve.attempts = w.attempts := by
  unfold World.attempts
  rw [World.serve, List.filterMap_append, List.append_right_eq_self, List.filterMap_eq_nil_iff]
  intro event he
  obtain ⟨connection, -, he⟩ := List.mem_flatMap.mp he
  cases hs : (w.links.map (·.serve w.server w.now))[connection]? with
  | none => simp [hs] at he
  | some served =>
    simp only [hs, Option.map_some, Option.getD_some] at he
    obtain ⟨content, -, rfl⟩ := List.mem_map.mp he
    rfl

theorem rests_discard (w : World) (lease : Lease) : Rests w (w.discard lease) := by
  unfold World.discard
  split
  · exact .refl w
  · exact ⟨rfl, List.prefix_rfl, Nat.sub_le _ _, by simp [World.updateLink], rfl⟩

theorem rests_giveBack (w : World) (lease : Lease) : Rests w (w.giveBack lease) := by
  by_cases hk : lease.pooled = true ∧ w.pool.size ≤ w.pool.limit
  · simp only [World.giveBack, hk.1, hk.2, Bool.not_true, Bool.false_eq_true, if_true, if_false]
    exact ⟨rfl, List.prefix_append _ _, Nat.sub_le _ _, rfl, rfl⟩
  · rw [Custody.giveBack_eq_discard hk]
    exact rests_discard w lease

theorem rests_finishRollback (w : World) (rollback : Rollback) :
    Rests w (w.finishRollback rollback) := by
  unfold World.finishRollback
  split
  · exact ⟨rfl, List.prefix_rfl, Nat.le_refl _, rfl, rfl⟩
  · have hlog : ∀ entry, Rests w (w.log entry) := fun _ =>
      ⟨rfl, List.prefix_rfl, Nat.le_refl _, rfl, rfl⟩
    exact (hlog _).trans (rests_discard _ _)
  · exact rests_giveBack _ _

theorem rests_settle (w : World) : Rests w w.settle := by
  have hfold : ∀ (rollbacks : List Rollback) (next : World),
      Rests next (rollbacks.foldl World.finishRollback next) := by
    intro rollbacks
    induction rollbacks with
    | nil => exact .refl
    | cons rollback rest ih => exact fun next => (rests_finishRollback next rollback).trans (ih _)
  have hserve : Rests w { w.serve with rollbacks := [] } :=
    ⟨attempts_serve w, List.prefix_rfl, Nat.le_refl _, by simp [World.serve], rfl⟩
  exact hserve.trans (hfold _ _)

-- The moment is left open, for else it would be computed.
theorem rests_atMoment (w : World) (now : Moment) : Rests w { w with now } :=
  ⟨rfl, List.prefix_rfl, Nat.le_refl _, rfl, rfl⟩

theorem rests_awaitUntil {α : Type} (ready : World → Option α) (limit : Option Nat) (w : World) :
    Rests w ((awaitUntil ready limit).after w) :=
  awaitUntil_keeps ready (fun next h => h.trans (rests_settle next))
    (fun next tick h => h.trans (rests_atMoment next (next.timer.ring next.now tick))) limit w
    (.refl w)

theorem rests_waitUntil (tick : Nat) (w : World) : Rests w ((waitUntil tick).after w) := by
  rw [after_waitUntil]
  split
  · exact rests_awaitUntil _ _ w
  · exact .refl w

-- Where no rollback is under way nothing comes back.
theorem undisturbed_waitUntil (h : w.rollbacks = []) (tick : Nat) :
    ((waitUntil tick).after w).rollbacks = [] ∧ ((waitUntil tick).after w).pool = w.pool := by
  have hsettle : ∀ next : World, next.rollbacks = [] ∧ next.pool = w.pool →
      next.settle.rollbacks = [] ∧ next.settle.pool = w.pool := by
    rintro next ⟨hr, hp⟩
    have hserve : next.serve.rollbacks = [] := by simp [World.serve, hr]
    rw [World.settle, World.finishRollbacks, hserve]
    exact ⟨rfl, hp⟩
  rw [after_waitUntil]
  split
  · exact awaitUntil_keeps (P := fun next => next.rollbacks = [] ∧ next.pool = w.pool) _ hsettle
      (fun _ _ h => h) _ w ⟨h, rfl⟩
  · exact ⟨h, rfl⟩

end Waiting

section Opening

theorem connect_fst (w : World) : w.connect.1 = w.upcoming 0 := by
  simp only [World.connect, World.upcoming, List.head?_eq_getElem?]

theorem attempts_connect (w : World) : w.connect.2.2.attempts = w.attempts ++ [w.attempt 0] := by
  unfold World.attempts
  rw [World.attempt, ← connect_fst]
  simp [World.connect, WireEvent.attempt?]

-- A world in which the first of the attempts to come has been turned down. The others are one
-- closer.
structure OneCloser (w next : World) : Prop where
  attempts : next.attempts = w.attempts ++ [w.attempt 0]
  welcomes : next.welcomes = w.welcomes.tail
  links : next.links.length = w.links.length + 1
  server : next.server = w.server
  timer : next.timer = w.timer
  leases : next.leases = w.leases
  now : next.now = w.attemptStart 1

namespace OneCloser

theorem upcoming (h : OneCloser w next) (i : Nat) : next.upcoming i = w.upcoming (i + 1) := by
  simp only [World.upcoming, h.welcomes, List.getElem?_tail]

theorem attempt (h : OneCloser w next) (i : Nat) : next.attempt i = w.attempt (i + 1) := by
  rw [World.attempt, World.attempt, h.upcoming, h.links, Nat.add_assoc, Nat.add_comm 1 i]

theorem attemptStart (h : OneCloser w next) (i : Nat) :
    next.attemptStart i = w.attemptStart (i + 1) := by
  induction i with
  | zero => exact h.now
  | succ i ih =>
    rw [World.attemptStart, World.attemptStart, ih, h.timer, h.server, h.links, Nat.add_assoc,
      Nat.add_comm 1 i]

theorem attemptTick (h : OneCloser w next) (i : Nat) :
    next.attemptTick i = w.attemptTick (i + 1) := by
  rw [World.attemptTick, World.attemptTick, h.attemptStart, h.server, h.links, Nat.add_assoc,
    Nat.add_comm 1 i]

theorem turnedDown_iff (h : OneCloser w next) (i : Nat) :
    next.TurnedDown limit i ↔ w.TurnedDown limit (i + 1) := by
  rw [World.TurnedDown, World.TurnedDown, h.upcoming, h.attemptTick]

theorem outcome (h : OneCloser w next) (i : Nat) :
    next.outcome limit i = w.outcome limit (i + 1) := by
  rw [World.outcome, World.outcome, h.attemptTick, h.upcoming, h.leases, h.links, Nat.add_assoc,
    Nat.add_comm 1 i]

-- All that were turned down before, and the first one, are turned down.
theorem turnedDown (h : OneCloser w next) (hfirst : w.TurnedDown limit 0)
    (hrest : ∀ i < n, next.TurnedDown limit i) : ∀ i < n + 1, w.TurnedDown limit i := by
  intro i hi
  cases i with
  | zero => exact hfirst
  | succ i => exact (h.turnedDown_iff i).mp (hrest i (Nat.lt_of_succ_lt_succ hi))

theorem attempts_eq (h : OneCloser w next)
    (hl : after.attempts = next.attempts ++ (List.range (n + 1)).map next.attempt) :
    after.attempts = w.attempts ++ (List.range (n + 2)).map w.attempt := by
  have hall : (List.range (n + 2)).map w.attempt =
      w.attempt 0 :: (List.range (n + 1)).map next.attempt := by
    rw [List.range_succ_eq_map]
    simp [Function.comp_def, h.attempt]
  rw [hl, hall, h.attempts, List.append_assoc, List.singleton_append]

end OneCloser

-- The world after an attempt that was turned down. Its pool has what it had, and more when a
-- connection came back.
theorem oneCloser_log (entry : LogEntry)
    (h : after = (waitUntil w.welcomeTick).after w.connect.2.2) :
    OneCloser w (after.log entry) := by
  have hrests := rests_waitUntil w.welcomeTick w.connect.2.2
  have hnow := now_waitUntil w.welcomeTick w.connect.2.2
  rw [← h] at hrests hnow
  have hfixed : (after.log entry).fixed = w.connect.2.2.fixed := hrests.fixed
  simp only [World.fixed, Prod.mk.injEq] at hfixed
  obtain ⟨hwelcomes, hserver, htimer, hleases, -, -⟩ := hfixed
  refine ⟨hrests.attempts.trans (attempts_connect w), hwelcomes, ?_, hserver, htimer, hleases, hnow⟩
  exact hrests.links.trans (by simp [World.connect])

-- An attempt that is turned down leaves room for the next one, and time.
theorem room_log (entry : LogEntry) (hv : w.Vacant limit)
    (hw : w.welcomeTick < limit.expiry.nextTick)
    (h : after = (waitUntil w.welcomeTick).after w.connect.2.2) :
    (after.log entry).pool.closed = false ∧ (after.log entry).hasRoom = true ∧
      limit.hasRung (after.log entry).now = false := by
  have hrests := rests_waitUntil w.welcomeTick w.connect.2.2
  have hnow := now_waitUntil w.welcomeTick w.connect.2.2
  rw [← h] at hrests hnow
  have hfixed : after.fixed = w.connect.2.2.fixed := hrests.fixed
  simp only [World.fixed, Prod.mk.injEq] at hfixed
  obtain ⟨-, -, -, -, hlimit, hclosed⟩ := hfixed
  refine ⟨hclosed.trans hv.isOpen, decide_eq_true ?_, decide_eq_false (Nat.not_le_of_lt ?_)⟩
  · have hroom : w.pool.lent < w.pool.limit := of_decide_eq_true hv.room
    exact (Nat.lt_of_le_of_lt hrests.lent hroom).trans_eq hlimit.symm
  · have hlive : w.now.lastTick < limit.expiry.nextTick :=
      Nat.lt_of_not_le (of_decide_eq_false hv.live)
    change after.now.lastTick < _
    rw [hnow, Timer.lastTick_ring]
    exact Nat.max_lt.mpr ⟨hlive, hw⟩

-- A connection only comes back to a pool that is disturbed.
theorem disturbed_of_idle (he : w.pool.idle = [])
    (hi : ((waitUntil w.welcomeTick).after w.connect.2.2).pool.idle ≠ []) : w.Disturbed := by
  by_contra hn
  refine hi ?_
  by_cases hr : w.rollbacks = []
  · rw [(undisturbed_waitUntil (w := w.connect.2.2) hr w.welcomeTick).2]
    exact he
  · have hzero : (w.server.opening w.links.length).nanos = 0 := by
      by_contra hz
      exact hn ⟨hr, _, hz⟩
    have hpassed : w.welcomeTick = w.now.lastTick := by
      simp [World.welcomeTick, Behaviour.openingTick, hzero]
    rw [after_waitUntil, if_neg (fun hlt => ?_)]
    · exact he
    · exact Nat.lt_irrefl _ (hpassed ▸ hlt : w.now.lastTick < w.now.lastTick)

theorem disturbed_before (entry : LogEntry)
    (h : after = (waitUntil w.welcomeTick).after w.connect.2.2)
    (hd : (after.log entry).Disturbed) : w.Disturbed := by
  obtain ⟨hr, n, hn⟩ := hd
  have hserver := (oneCloser_log entry h).server
  refine ⟨fun hnone => hr ?_, n, hserver ▸ hn⟩
  have hkept := (undisturbed_waitUntil (w := w.connect.2.2) hnone w.welcomeTick).1
  rw [← h] at hkept
  exact hkept

-- What an attempt to open a connection comes to.
theorem openPooled_attempt (limit : Deadline) (w : World) :
    (openPooled limit).answer w = w.outcome limit 0 ∧
      ((openPooled limit).after w).attempts = w.attempts ++ [w.attempt 0] ∧
      (w.TurnedDown limit 0 →
        (openPooled limit).after w = (waitUntil w.welcomeTick).after w.connect.2.2) := by
  have hattempts := attempts_connect w
  have hlent : ((w.connect.2.2.lend w.links.length).2).attempts = w.attempts ++ [w.attempt 0] :=
    hattempts
  have hcut : ∀ {i}, w.connect.1 = .ignore ∨ limit.expiry.nextTick ≤ i → i = w.attemptTick 0 →
      w.CutOff limit 0 := fun h hi => by rwa [connect_fst, hi] at h
  have ho := openPooled_opening limit w
  generalize (openPooled limit).after w = after at ho ⊢
  generalize (openPooled limit).answer w = result at ho ⊢
  cases ho with
  | accepted hw ht =>
    rw [connect_fst] at hw
    refine ⟨(World.outcome_of_accept hw ?_).symm, ?_, fun h => absurd (by rw [hw]; rfl) h.1⟩
    · rintro (hi | hi)
      · simp [hw] at hi
      · exact Nat.not_le_of_lt ht hi
    · exact (rests_waitUntil _ _).attempts.trans hlent
  | tooLate hw ht =>
    refine ⟨(World.outcome_of_cutOff (hcut (.inr ht) rfl)).symm, ?_, fun h => ?_⟩
    · exact (rests_discard _ _).attempts.trans ((rests_waitUntil _ _).attempts.trans hlent)
    · exact absurd (hcut (.inr ht) rfl) h.not_cutOff
  | turnedDown hw ht =>
    rw [connect_fst] at hw
    refine ⟨(World.outcome_of_failure? hw ?_).symm, ?_, fun _ => rfl⟩
    · exact World.TurnedDown.not_cutOff ⟨by simp [hw], ht⟩
    · exact (rests_waitUntil _ _).attempts.trans hattempts
  | cutOff hw ht =>
    refine ⟨(World.outcome_of_cutOff (hcut ht rfl)).symm, ?_, fun h => ?_⟩
    · exact (rests_waitUntil _ _).attempts.trans hattempts
    · exact absurd (hcut ht rfl) h.not_cutOff

end Opening

section Checkout

-- Where there is room there is nothing to wait for.
theorem awaitRoom_of_hasRoom (limit : Deadline) (h : w.hasRoom = true) :
    (awaitRoom limit).answer w = true ∧ (awaitRoom limit).after w = w := by
  rw [awaitRoom, Action.answer_get_bind, Action.after_get_bind, h]
  exact ⟨rfl, rfl⟩

theorem checkout_vacant (h : w.Vacant limit) :
    (checkout limit).answer w = (openPooled limit).answer w ∧
      (checkout limit).after w = (openPooled limit).after w := by
  have htake : (takeOrOpen limit).answer w = (openPooled limit).answer w ∧
      (takeOrOpen limit).after w = (openPooled limit).after w := by
    rw [takeOrOpen, Action.answer_get_bind, Action.after_get_bind, h.empty]
    exact ⟨rfl, rfl⟩
  rw [checkout, Action.answer_get_bind, Action.after_get_bind, h.isOpen]
  simp only [Bool.false_eq_true, if_false, Action.answer_bind, Action.after_bind,
    awaitRoom_of_hasRoom limit h.room, if_true, htake, and_self]

theorem acquireWith_of_ok {lease : Lease} (attempt left : Nat)
    (h : (checkout limit).answer w = .ok lease) :
    (acquireWith limit attempt left).answer w = .ok lease := by
  cases left <;> rw [acquireWith, Action.answer_bind, h] <;> rfl

-- What is idle goes before what would have to be opened.
theorem takeOrOpen_idle (limit : Deadline) {connection : Nat} {idle : List Nat}
    (h : w.pool.idle = connection :: idle) :
    (takeOrOpen limit).answer w = .ok ⟨w.leases, connection, true⟩ ∧
      ((takeOrOpen limit).after w).attempts = w.attempts := by
  rw [takeOrOpen, Action.answer_get_bind, Action.after_get_bind, h]
  exact ⟨rfl, rfl⟩

theorem checkout_idle {connection : Nat} {idle : List Nat} (h : w.pool.idle = connection :: idle)
    (ho : w.pool.closed = false) (hr : w.hasRoom = true) :
    (checkout limit).answer w = .ok ⟨w.leases, connection, true⟩ := by
  rw [checkout, Action.answer_get_bind, ho]
  simp only [Bool.false_eq_true, if_false, Action.answer_bind, awaitRoom_of_hasRoom limit hr,
    if_true, (takeOrOpen_idle limit h).1]

theorem rests_awaitRoom (limit : Deadline) (w : World) : Rests w ((awaitRoom limit).after w) := by
  rw [awaitRoom, Action.after_get_bind]
  split
  · exact .refl w
  · split
    · exact .refl w
    · rw [Action.after_bind, Action.after_pure]
      exact rests_awaitUntil _ _ w

-- While something is idle nobody connects, also where there is no room for long.
theorem checkout_rests (limit : Deadline) (h : w.pool.idle ≠ []) :
    ((checkout limit).after w).attempts = w.attempts ∧
      ∀ e, (checkout limit).answer w = .error e → ((checkout limit).after w).pool.idle ≠ [] := by
  rw [checkout, Action.answer_get_bind, Action.after_get_bind]
  cases w.pool.closed with
  | true => exact ⟨rfl, fun _ _ => h⟩
  | false =>
    have hrests := rests_awaitRoom limit w
    have hidle : ((awaitRoom limit).after w).pool.idle ≠ [] := fun hn =>
      h (List.prefix_nil.mp (hn ▸ hrests.idle))
    simp only [Bool.false_eq_true, if_false, Action.after_bind, Action.answer_bind]
    generalize (awaitRoom limit).after w = mid at *
    cases (awaitRoom limit).answer w with
    | false => exact ⟨hrests.attempts, fun _ _ => hidle⟩
    | true =>
      obtain ⟨connection, idle, hi⟩ := List.exists_cons_of_ne_nil hidle
      obtain ⟨hanswer, hattempts⟩ := takeOrOpen_idle limit hi
      refine ⟨hattempts.trans hrests.attempts, fun e he => ?_⟩
      rw [if_pos rfl, hanswer] at he
      cases he

theorem acquireWith_rests (attempt left : Nat) (h : w.pool.idle ≠ []) :
    ((acquireWith limit attempt left).after w).attempts = w.attempts := by
  induction left generalizing attempt w with
  | zero =>
    obtain ⟨hattempts, -⟩ := checkout_rests limit h
    rw [acquireWith, Action.after_bind]
    cases (checkout limit).answer w <;> exact hattempts
  | succ left ih =>
    obtain ⟨hattempts, hidle⟩ := checkout_rests limit h
    rw [acquireWith, Action.after_bind]
    cases hc : (checkout limit).answer w with
    | ok lease => exact hattempts
    | error e =>
      have hidle := hidle e hc
      generalize (checkout limit).after w = mid at *
      dsimp only
      split
      · exact hattempts
      · rw [Action.after_get_bind, Action.after_bind]
        exact (ih (attempt + 1) (w := mid.log _) hidle).trans hattempts

-- A pool that is closed fails at once, as often as it is tried.
theorem acquireWith_closed (attempt left : Nat) (h : w.pool.closed = true) :
    (acquireWith limit attempt left).answer w = .error PoolError.closed.error ∧
      ∃ logs, (acquireWith limit attempt left).after w = { w with logs } := by
  have hclosed : ∀ next : World, next.pool.closed = true →
      (checkout limit).answer next = .error PoolError.closed.error ∧
        (checkout limit).after next = next := by
    intro next hn
    rw [checkout, Action.answer_get_bind, Action.after_get_bind, hn]
    exact ⟨rfl, rfl⟩
  induction left generalizing attempt w with
  | zero =>
    obtain ⟨hanswer, hafter⟩ := hclosed w h
    rw [acquireWith, Action.answer_bind, Action.after_bind, hanswer, hafter]
    exact ⟨rfl, _, rfl⟩
  | succ left ih =>
    obtain ⟨hanswer, hafter⟩ := hclosed w h
    rw [acquireWith, Action.answer_bind, Action.after_bind, hanswer, hafter]
    obtain ⟨hrest, logs, hlogs⟩ := ih (attempt + 1)
      (w := w.log (.retrying PoolError.closed.error (attempt + 1) w.config.retryCount)) h
    exact ⟨hrest, logs, hlogs⟩

theorem checkout_attempt (h : w.Vacant limit) :
    (checkout limit).answer w = w.outcome limit 0 ∧
      ((checkout limit).after w).attempts = w.attempts ++ [w.attempt 0] ∧
      (w.TurnedDown limit 0 →
        (checkout limit).after w = (waitUntil w.welcomeTick).after w.connect.2.2) := by
  rw [(checkout_vacant h).1, (checkout_vacant h).2]
  exact openPooled_attempt limit w

-- A checkout that is not turned down is the last one.
theorem acquireWith_last (attempt left : Nat) (h : w.Vacant limit) (ht : ¬w.TurnedDown limit 0) :
    (acquireWith limit attempt left).answer w = w.outcome limit 0 ∧
      ((acquireWith limit attempt left).after w).attempts = w.attempts ++ [w.attempt 0] := by
  obtain ⟨hanswer, hattempts, -⟩ := checkout_attempt h
  cases left with
  | zero =>
    rw [acquireWith, Action.answer_bind, Action.after_bind, ← hanswer]
    cases (checkout limit).answer w <;> exact ⟨rfl, hattempts⟩
  | succ left =>
    rw [acquireWith, Action.answer_bind, Action.after_bind, hanswer]
    cases ho : w.outcome limit 0 with
    | ok lease => exact ⟨rfl, hattempts⟩
    | error e =>
      obtain rfl := World.outcome_eq_error ho ht
      exact ⟨rfl, hattempts⟩

-- After one that is turned down the others follow.
theorem acquireWith_turnedDown (attempt left : Nat) (h : w.Vacant limit)
    (ht : w.TurnedDown limit 0) :
    ∃ entry, (acquireWith limit attempt (left + 1)).answer w =
        (acquireWith limit (attempt + 1) left).answer
          (((waitUntil w.welcomeTick).after w.connect.2.2).log entry) ∧
      (acquireWith limit attempt (left + 1)).after w =
        (acquireWith limit (attempt + 1) left).after
          (((waitUntil w.welcomeTick).after w.connect.2.2).log entry) := by
  obtain ⟨hanswer, -, hafter⟩ := checkout_attempt h
  obtain ⟨e, he⟩ := Option.ne_none_iff_exists'.mp ht.1
  rw [World.outcome_of_failure? he ht.not_cutOff] at hanswer
  refine ⟨.retrying e.error (attempt + 1) ((checkout limit).after w).config.retryCount, ?_⟩
  rw [acquireWith, Action.answer_bind, Action.after_bind, hanswer, ← hafter ht]
  exact ⟨rfl, rfl⟩

-- The induction is on the attempts that are left. When the first one is turned down there may be
-- something idle for the next, and otherwise the others are one closer.
theorem acquireWith_attempts (attempt left : Nat) (h : w.Vacant limit) :
    ∃ n ≤ left, (∀ i < n, w.TurnedDown limit i) ∧
      ((acquireWith limit attempt left).after w).attempts =
        w.attempts ++ (List.range (n + 1)).map w.attempt ∧
      ((w.TurnedDown limit n → n = left) ∧
          (acquireWith limit attempt left).answer w = w.outcome limit n ∨
        w.Disturbed ∧ n < left ∧ w.TurnedDown limit n ∧ ∃ connection,
          (acquireWith limit attempt left).answer w = .ok ⟨w.leases, connection, true⟩) := by
  induction left generalizing attempt w with
  | zero =>
    obtain ⟨hanswer, hattempts, -⟩ := checkout_attempt h
    refine ⟨0, Nat.le_refl _, by simp, ?_, .inl ⟨fun _ => rfl, ?_⟩⟩
    · rw [acquireWith, Action.after_bind]
      cases (checkout limit).answer w <;> exact hattempts
    · rw [acquireWith, Action.answer_bind, ← hanswer]
      cases (checkout limit).answer w <;> rfl
  | succ left ih =>
    by_cases ht : w.TurnedDown limit 0
    · obtain ⟨entry, hanswer, hafter⟩ := acquireWith_turnedDown attempt left h ht
      obtain ⟨mid, hmid⟩ : ∃ mid, mid = (waitUntil w.welcomeTick).after w.connect.2.2 := ⟨_, rfl⟩
      rw [hanswer, hafter, ← hmid]
      have hcloser := oneCloser_log entry hmid
      obtain ⟨hopen, hroom, hlive⟩ := room_log entry h ht.2 hmid
      cases hi : mid.pool.idle with
      | nil =>
        obtain ⟨n, hn, hturned, hattempts, hresult⟩ := ih (attempt + 1) ⟨hopen, hroom, hi, hlive⟩
        refine ⟨n + 1, Nat.succ_le_succ hn, hcloser.turnedDown ht hturned,
          hcloser.attempts_eq hattempts, ?_⟩
        rw [← hcloser.turnedDown_iff, ← hcloser.outcome, ← hcloser.leases, Nat.succ_inj,
          Nat.succ_lt_succ_iff]
        exact hresult.imp_right (And.imp_left (disturbed_before entry hmid))
      | cons connection idle =>
        have hidle : (mid.log entry).pool.idle = connection :: idle := hi
        refine ⟨0, Nat.zero_le _, by simp, ?_, .inr ⟨?_, Nat.succ_pos left, ht, connection, ?_⟩⟩
        · rw [acquireWith_rests _ _ (by simp [hidle])]
          exact hcloser.attempts
        · exact disturbed_of_idle h.empty (by simp [← hmid, hi])
        · rw [← hcloser.leases]
          exact acquireWith_of_ok _ _ (checkout_idle hidle hopen hroom)
    · obtain ⟨hanswer, hattempts⟩ := acquireWith_last attempt (left + 1) h ht
      exact ⟨0, Nat.zero_le _, by simp, hattempts, .inl ⟨fun hn => absurd hn ht, hanswer⟩⟩

end Checkout

-- A checkout of an open pool that has room and nothing idle tries to connect until the server
-- accepts, until the deadline cuts an attempt off, or until the first attempt and as many as may
-- follow it have been turned down. Its result is that of the last attempt, unless a connection came
-- back in the meantime, which is then taken. Where something is idle it does not connect, and where
-- the pool is closed it changes nothing but the log.
theorem acquire_attempts (limit : Deadline) (w : World) :
    (w.Vacant limit → ¬w.Disturbed →
      (∃ n, w.LastAttempt limit w.config.retryCount n ∧
        (∀ m, w.LastAttempt limit w.config.retryCount m → m = n) ∧
        ((acquire limit).after w).attempts = w.attempts ++ (List.range (n + 1)).map w.attempt ∧
        (w.upcoming n = .accept → ¬w.CutOff limit n →
          (acquire limit).answer w = .ok ⟨w.leases, w.links.length + n, true⟩) ∧
        (w.CutOff limit n → (acquire limit).answer w = .error (.timeout limit.timeout)) ∧
        ∀ e, (w.upcoming n).failure? = some e → ¬w.CutOff limit n →
          n = w.config.retryCount ∧ (acquire limit).answer w = .error e.error) ∧
      ((∃ lease, (acquire limit).answer w = .ok lease) ↔
        ∃ n ≤ w.config.retryCount, w.upcoming n = .accept ∧ ¬w.CutOff limit n ∧
          ∀ i < n, w.TurnedDown limit i)) ∧
    (w.Vacant limit → ∃ n ≤ w.config.retryCount, (∀ i < n, w.TurnedDown limit i) ∧
      ((acquire limit).after w).attempts = w.attempts ++ (List.range (n + 1)).map w.attempt ∧
      (w.LastAttempt limit w.config.retryCount n ∧
          (acquire limit).answer w = w.outcome limit n ∨
        w.Disturbed ∧ n < w.config.retryCount ∧ w.TurnedDown limit n ∧ ∃ connection,
          (acquire limit).answer w = .ok ⟨w.leases, connection, true⟩)) ∧
    (∀ connection idle, w.pool.idle = connection :: idle →
      ((acquire limit).after w).attempts = w.attempts ∧
      (w.pool.closed = false → w.hasRoom = true →
        (acquire limit).answer w = .ok ⟨w.leases, connection, true⟩)) ∧
    (w.pool.closed = true →
      (acquire limit).answer w = .error PoolError.closed.error ∧
        ∃ logs, (acquire limit).after w = { w with logs }) := by
  rw [acquire, Action.after_get_bind, Action.answer_get_bind]
  refine ⟨fun h hd => ?_, fun h => ?_, fun connection idle hi => ⟨?_, fun ho hr => ?_⟩,
    acquireWith_closed 0 _⟩
  · obtain ⟨n, hn, hturned, hattempts, hresult⟩ := acquireWith_attempts 0 w.config.retryCount h
    obtain ⟨hfinal, hanswer⟩ := hresult.resolve_right fun hback => hd hback.1
    have hlast : w.LastAttempt limit w.config.retryCount n := ⟨hn, hturned, hfinal⟩
    rw [hanswer]
    refine ⟨⟨n, hlast, fun m hm => hlast.unique hm, hattempts, World.outcome_of_accept,
      World.outcome_of_cutOff, fun e he hc =>
        ⟨hfinal (World.turnedDown_of_failure? he hc), World.outcome_of_failure? he hc⟩⟩, ?_⟩
    constructor
    · rintro ⟨lease, hok⟩
      obtain ⟨haccept, hc⟩ := World.outcome_eq_ok hok
      exact ⟨n, hn, haccept, hc, hturned⟩
    · rintro ⟨m, hm, haccept, hc, hall⟩
      obtain rfl := hlast.unique ⟨hm, hall, fun ht => absurd (by rw [haccept]; rfl) ht.1⟩
      exact ⟨_, World.outcome_of_accept haccept hc⟩
  · obtain ⟨n, hn, hturned, hattempts, hresult⟩ := acquireWith_attempts 0 w.config.retryCount h
    exact ⟨n, hn, hturned, hattempts,
      hresult.imp_left fun hlast => ⟨⟨hn, hturned, hlast.1⟩, hlast.2⟩⟩
  · exact acquireWith_rests 0 _ (by simp [hi])
  · exact acquireWith_of_ok 0 _ (checkout_idle hi ho hr)

-- A server that takes twenty seconds to look at a connection.
def hesitant : Behaviour :=
  { (Script.mk []).behaviour with opening := fun _ => Duration.ofSeconds 20 }

-- Two attempts are turned down and the third is accepted; the second of six is cut off, since the
-- server ignores it or since it is accepted too late; and all of two are turned down.
theorem acquire_attempts_turnedDown :
    let third := World.start { retryCount := 2 } (Script.mk []) [.refuse, .hangUp] []
    let stuck := World.start { retryCount := 5 } (Script.mk []) [.refuse, .ignore, .accept] []
    let slow := World.start { retryCount := 5 } hesitant [.refuse] []
    let down := World.start { retryCount := 1 } (Script.mk []) [.refuse, .hangUp, .accept] []
    (third.Vacant third.context ∧ (acquire third.context).answer third = .ok ⟨0, 2, true⟩ ∧
      ((acquire third.context).after third).attempts =
        [(0, .refuse), (1, .hangUp), (2, .accept)]) ∧
    (stuck.Vacant stuck.context ∧
      (acquire stuck.context).answer stuck = .error (.timeout (Duration.ofSeconds 30)) ∧
      ((acquire stuck.context).after stuck).attempts = [(0, .refuse), (1, .ignore)]) ∧
    (slow.Vacant slow.context ∧
      (acquire slow.context).answer slow = .error (.timeout (Duration.ofSeconds 30)) ∧
      ((acquire slow.context).after slow).attempts = [(0, .refuse), (1, .accept)]) ∧
    (down.Vacant down.context ∧
      (acquire down.context).answer down = .error PoolError.hungUp.error ∧
      ((acquire down.context).after down).attempts = [(0, .refuse), (1, .hangUp)]) := by
  intro third stuck slow down
  have hvacant : ∀ config server welcomes,
      (World.start config server welcomes []).hasRoom = true →
      (World.start config server welcomes []).context.isExpired Moment.start = false →
      (World.start config server welcomes []).Vacant
        (World.start config server welcomes []).context ∧
      ¬(World.start config server welcomes []).Disturbed :=
    fun _ _ _ hroom hlive => ⟨⟨rfl, hroom, rfl, hasRung_of_isExpired hlive⟩, fun hd => hd.1 rfl⟩
  obtain ⟨hthird, hcalm⟩ : third.Vacant third.context ∧ ¬third.Disturbed :=
    hvacant _ _ _ (by decide) (by decide)
  obtain ⟨hstuck, hstill⟩ : stuck.Vacant stuck.context ∧ ¬stuck.Disturbed :=
    hvacant _ _ _ (by decide) (by decide)
  obtain ⟨hslow, hquiet⟩ : slow.Vacant slow.context ∧ ¬slow.Disturbed :=
    hvacant _ _ _ (by decide) (by decide)
  obtain ⟨hdown, hsilent⟩ : down.Vacant down.context ∧ ¬down.Disturbed :=
    hvacant _ _ _ (by decide) (by decide)
  refine ⟨⟨hthird, ?_⟩, ⟨hstuck, ?_⟩, ⟨hslow, ?_⟩, ⟨hdown, ?_⟩⟩
  · obtain ⟨⟨n, -, honly, hattempts, haccept, -, -⟩, -⟩ :=
      (acquire_attempts third.context third).1 hthird hcalm
    obtain rfl := honly 2 ⟨by decide, by decide, by decide⟩
    exact ⟨haccept rfl (by decide), hattempts⟩
  · obtain ⟨⟨n, -, honly, hattempts, -, hcut, -⟩, -⟩ :=
      (acquire_attempts stuck.context stuck).1 hstuck hstill
    obtain rfl := honly 1 ⟨by decide, by decide, by decide⟩
    exact ⟨hcut (by decide), hattempts⟩
  · obtain ⟨⟨n, -, honly, hattempts, -, hcut, -⟩, -⟩ :=
      (acquire_attempts slow.context slow).1 hslow hquiet
    obtain rfl := honly 1 ⟨by decide, by decide, by decide⟩
    exact ⟨hcut (by decide), hattempts⟩
  · obtain ⟨⟨n, -, honly, hattempts, -, -, hturned⟩, -⟩ :=
      (acquire_attempts down.context down).1 hdown hsilent
    obtain rfl := honly 1 ⟨by decide, by decide, by decide⟩
    exact ⟨(hturned .hungUp rfl (by decide)).2, hattempts⟩

end RecordSql.Store
