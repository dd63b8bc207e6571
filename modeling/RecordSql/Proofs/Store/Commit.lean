import RecordSql.Proofs.Store.Conservation
import RecordSql.Proofs.Store.Reply

namespace RecordSql.Store

open Server

variable {stale : Lease → Prop} {origin s next : Scene} {held : List Lease} {gone : List Nat}
  {w after : World} {lease : Lease} {t : Transaction}

section Limit

-- A pool may keep as many connections as it was set up for, and none when it has been closed.
def World.Limited (w : World) : Prop :=
  w.pool.limit = if w.pool.closed then 0 else w.config.poolSize

theorem Move.limited (hm : Move stale s next) (h : s.world.Limited) : next.world.Limited := by
  cases hm with
  | aside ha =>
    unfold World.Limited
    rw [ha.pool, ha.config]
    exact h
  | giveBack hp hs hq =>
    unfold World.Limited at h ⊢
    simp only [World.giveBack, hp, hs, Bool.not_true, Bool.false_eq_true, if_true, if_false]
    exact h
  | @discard held gone w lease =>
    unfold World.discard
    split
    · exact h
    · exact h
  | close => exact rfl
  | _ => exact h

theorem Moves.limited (hm : Moves stale s next) (h : s.world.Limited) : next.world.Limited := by
  induction hm with
  | refl => exact h
  | tail _ hmove ih => exact hmove.limited ih

theorem limited_start (config : StoreConfig) (server : Behaviour) (welcomes : List Welcome)
    (races : List Bool) : (Scene.start config server welcomes races).world.Limited :=
  (if_neg Bool.false_ne_true).symm

-- A pool that is still open has room for what it lent.
theorem size_le_limit (h : Scene.Sound stale ⟨held, gone, w⟩) (hl : w.Limited)
    (hopen : w.pool.closed = false) : w.pool.size ≤ w.pool.limit := by
  unfold World.Limited at hl
  rw [hl, hopen]
  exact h.bounded

end Limit

section Retired

-- A connection that no operation ever gets again, whatever happens. Nothing more is sent over it.
structure Scene.Retired (s : Scene) (connection : Nat) : Prop where
  later : ∀ next, Moves anyLease s next → connection ∉ next.world.pool.idle ∧
    connection ∉ next.out.map (·.connection) ∧
    next.world.sentOver connection = s.world.sentOver connection
  handed : s.held = [] → ∀ steps lease there,
    .handed lease there ∈ history steps s.world.settle → lease.connection ≠ connection

theorem Scene.Sound.retired (h : s.Sound anyLease) {connection : Nat} (hc : connection ∈ s.gone) :
    s.Retired connection where
  later next hm := by
    have hnext := hm.sound h
    have hgone := hm.gone_subset hc
    exact ⟨hnext.notMem_idle hgone, hnext.notMem_out hgone, hm.sentOver_of_gone h hc⟩
  handed hh steps lease there hm := by
    obtain ⟨_, gone, w⟩ := s
    obtain rfl : _ = [] := hh
    have hstart : Arrives anyLease ⟨[], gone, w⟩ [] w := ⟨gone, .refl, h⟩
    have hleads := performAll_leads steps w.settle (fun _ _ => trivial) hstart.settle
    obtain ⟨later, hmoves, hsound⟩ := (hleads.handed lease there hm).arrives
    rintro rfl
    exact hsound.notMem_out (hmoves.gone_subset hc) List.mem_cons_self

end Retired

section FailedCommit

-- A connection that is given up is gone. Nothing else is seen of it but what is logged.
theorem Arrives.discardLogged (h : Arrives stale origin (lease :: held) w) (logs : List LogEntry) :
    Follows silence w (World.discard { w with logs } lease) ∧
      (World.discard { w with logs } lease).now = w.now ∧
      ∃ left, lease.connection ∈ left ∧
        Moves stale origin ⟨held, left, World.discard { w with logs } lease⟩ ∧
        Scene.Sound stale ⟨held, left, World.discard { w with logs } lease⟩ := by
  obtain ⟨gone, hmoves, hsound⟩ : Arrives stale origin (lease :: held) { w with logs } :=
    h.aside ⟨rfl, rfl, rfl, rfl, rfl, rfl⟩
  have hlog : Follows silence w { w with logs } := .of_eq rfl (Nat.le_refl _) rfl
  refine ⟨hlog.silent_trans (follows_discard _ lease), ?_,
    lease.connection :: gone, List.mem_cons_self, hmoves.tail .discard, hsound.discard⟩
  unfold World.discard
  split <;> rfl

-- This is a lemma of its own, for else the world would be computed to see that it stays the same.
theorem discard_logged (w : World) (lease : Lease) :
    ∃ logs, w.discard lease = World.discard { w with logs } lease :=
  ⟨w.logs, rfl⟩

-- Whether the rollback failed or not is only seen in the logs.
theorem after_rollbackFailedCommit (w : World) (t : Transaction) :
    ∃ logs, (rollbackFailedCommit t).after w =
      World.discard { (exchange t.lease (some (Deadline.after w.now w.config.timeout))
        (.batch rollbackSql)).after w with logs } t.lease := by
  rw [rollbackFailedCommit, Action.after_get_bind]
  dsimp only
  rw [Action.after_bind, after_batch, answer_batch]
  generalize (exchange t.lease (some (Deadline.after w.now w.config.timeout))
    (.batch rollbackSql)).after w = mid
  cases (exchange t.lease (some (Deadline.after w.now w.config.timeout))
    (.batch rollbackSql)).answer w with
  | ok reply =>
    dsimp only [Except.map]
    rw [Action.after_modify]
    exact discard_logged mid t.lease
  | error e =>
    obtain ⟨logs, hl⟩ := quiet_record (.failed "rollback after failed commit failed" e) mid
    dsimp only [Except.map]
    rw [Action.after_bind, Action.after_modify, hl]
    exact ⟨logs, rfl⟩

-- The rollback after a failed commit is sent once. Its answer is waited for until a timeout of its
-- own has passed, and then the connection is gone.
theorem rollbackFailedCommit_once (h : Arrives stale origin (t.lease :: held) w)
    (hpos : 0 < w.config.timeout.nanos) :
    Follows (t.lease.speech [.batch rollbackSql]) w ((rollbackFailedCommit t).after w) ∧
      (((rollbackFailedCommit t).after w).backlog t.lease.connection = [] ∨
        (Deadline.after w.now w.config.timeout).hasRung ((rollbackFailedCommit t).after w).now =
          true) ∧
      ∃ left, t.lease.connection ∈ left ∧
        Moves stale origin ⟨held, left, (rollbackFailedCommit t).after w⟩ ∧
        Scene.Sound stale ⟨held, left, (rollbackFailedCommit t).after w⟩ := by
  have hn := Deadline.hasRung_after w.now hpos
  obtain ⟨contents, hx⟩ := exchange_spec h.custody (uses_head t)
    (some (Deadline.after w.now w.config.timeout)) (.batch rollbackSql)
  obtain rfl := hx.contents_eq hn
  have ha := (exchange_hears (some (Deadline.after w.now w.config.timeout)) (.batch rollbackSql)
    _ w h (uses_head t)).1
  obtain ⟨logs, hafter⟩ := after_rollbackFailedCommit w t
  obtain ⟨hquiet, hnow, hgone⟩ := ha.discardLogged logs
  rw [hafter, hnow]
  refine ⟨hx.follows.trans_silent hquiet, ?_, hgone⟩
  refine (exchange_until h (uses_head t) hn).imp_left fun hnone => ?_
  have hsuffix := hquiet.backlog t.lease.connection
  rw [hnone] at hsuffix
  exact List.suffix_nil.mp hsuffix

end FailedCommit

section Commit

variable {context : Deadline}

theorem commit_of_error {e : Error}
    (h : (batch t.lease (some (t.bound context)) commitSql).answer w = .error e) :
    (commit context t).answer w = .error e ∧
      (commit context t).after w = (rollbackFailedCommit t).after
        (((batch t.lease (some (t.bound context)) commitSql).after w).log
          (.failed "commit failed, rolling back" e)) := by
  rw [commit, Action.answer_bind, Action.after_bind, h]
  dsimp only
  rw [Action.answer_bind, Action.answer_bind, Action.answer_pure, Action.after_bind,
    Action.after_bind, Action.after_pure, after_record]
  exact ⟨rfl, rfl⟩

theorem commit_of_ok
    (h : (batch t.lease (some (t.bound context)) commitSql).answer w = .ok ()) :
    (commit context t).answer w = .ok () ∧
      (commit context t).after w =
        ((batch t.lease (some (t.bound context)) commitSql).after w).giveBack t.lease := by
  rw [commit, Action.answer_bind, Action.after_bind, h]
  exact ⟨rfl, rfl⟩

-- What is done after a commit that failed, whatever becomes of the rollback. The world is left open,
-- for else it would be computed to see that a log entry changes nothing else.
theorem rollbackFailedCommit_logged (h : Arrives stale origin (t.lease :: held) w)
    (hpos : 0 < w.config.timeout.nanos) (entry : LogEntry) :
    Follows (t.lease.speech [.batch rollbackSql]) w ((rollbackFailedCommit t).after (w.log entry)) ∧
      w.Elapsed (Deadline.after w.now w.config.timeout).expiry.nextTick
        ((rollbackFailedCommit t).after (w.log entry)) ∧
      (((rollbackFailedCommit t).after (w.log entry)).backlog t.lease.connection = [] ∨
        (Deadline.after w.now w.config.timeout).hasRung
          ((rollbackFailedCommit t).after (w.log entry)).now = true) ∧
      ∃ left, t.lease.connection ∈ left ∧
        Scene.Sound stale ⟨held, left, (rollbackFailedCommit t).after (w.log entry)⟩ := by
  have hlog : Follows silence w (w.log entry) := .of_eq rfl (Nat.le_refl _) rfl
  have helapsed := (rollbackFailedCommit_elapsed t (w.log entry)).of_before (w := w) rfl rfl rfl
  obtain ⟨hf, huntil, left, hleft, -, hsound⟩ :=
    rollbackFailedCommit_once (t := t) (h.log entry) hpos
  exact ⟨hlog.silent_trans hf, helapsed, huntil, left, hleft, hsound⟩

-- A commit that failed for a reason that is known in the world `failed`, and what is done about it:
-- one rollback is sent, and waited for as long as its own deadline allows.
structure FailedCommit (t : Transaction) (limit fresh : Deadline) (reason : Error)
    (taken failed after : World) : Prop where
  cause : reason = refusal ∨ reason = limit.error
  attempted : ∃ contents, (contents = [.batch commitSql] ∨
      contents = [] ∧ limit.hasRung taken.now = true) ∧
    Follows (t.lease.speech contents) taken failed
  rolledBack : Follows (t.lease.speech [.batch rollbackSql]) failed after
  inTime : failed.Elapsed fresh.expiry.nextTick after
  awaited : after.backlog t.lease.connection = [] ∨ fresh.hasRung after.now = true

theorem commit_failed (h : Arrives stale origin (t.lease :: held) w)
    (hpos : 0 < w.config.timeout.nanos) {reason : Error}
    (he : (batch t.lease (some (t.bound context)) commitSql).answer w = .error reason) :
    FailedCommit t (t.bound context)
        (Deadline.after ((batch t.lease (some (t.bound context)) commitSql).after w).now
          w.config.timeout) reason w
        ((batch t.lease (some (t.bound context)) commitSql).after w) ((commit context t).after w) ∧
      ∃ left, t.lease.connection ∈ left ∧
        Scene.Sound stale ⟨held, left, (commit context t).after w⟩ := by
  obtain ⟨contents, hx⟩ := exchange_spec h.custody (uses_head t) (some (t.bound context))
    (.batch commitSql)
  have hsent := hx.sent
  rw [Option.any_some] at hsent
  rw [← after_batch] at hx
  have hattempt := (batch_arrives h (some (t.bound context)) commitSql).1
  have hconfig := (batch_lasts t.lease (t.bound context) commitSql w).config
  obtain ⟨hrolled, helapsed, huntil, left, hleft, hsound⟩ := rollbackFailedCommit_logged hattempt
    (hconfig ▸ hpos) (.failed "commit failed, rolling back" reason)
  rw [hconfig] at helapsed huntil
  rw [(commit_of_error he).2]
  exact ⟨⟨batch_error he, ⟨contents, hsent, hx.follows⟩, hrolled, helapsed, huntil⟩,
    left, hleft, hsound⟩

theorem mem_idle_giveBack (h : Scene.Sound stale ⟨held, gone, w⟩) (hl : w.Limited)
    (hp : lease.pooled = true) (hopen : (w.giveBack lease).pool.closed = false) :
    lease.connection ∈ (w.giveBack lease).pool.idle := by
  have hsame : (w.giveBack lease).pool.closed = w.pool.closed := by
    unfold World.giveBack
    split
    · rfl
    · split <;> rfl
  have hroom := size_le_limit h hl (hsame ▸ hopen)
  simp [World.giveBack, hp, hroom]

theorem commit_succeeded (h : Arrives stale origin (t.lease :: held) w)
    (horigin : origin.world.Limited)
    (hok : (batch t.lease (some (t.bound context)) commitSql).answer w = .ok ()) :
    Follows (t.lease.speech [.batch commitSql]) w ((commit context t).after w) ∧
      (t.lease.pooled = true → ((commit context t).after w).pool.closed = false →
        t.lease.connection ∈ ((commit context t).after w).pool.idle) := by
  obtain ⟨contents, hx⟩ := exchange_spec h.custody (uses_head t) (some (t.bound context))
    (.batch commitSql)
  rw [← after_batch] at hx
  obtain ⟨reply, hreply⟩ := batch_ok hok
  obtain ⟨rfl, -⟩ := hx.answered reply hreply
  obtain ⟨there, hmoves, hsound⟩ := (batch_arrives h (some (t.bound context)) commitSql).1
  have hlimited := hmoves.limited horigin
  rw [(commit_of_ok hok).2]
  generalize (batch t.lease (some (t.bound context)) commitSql).after w = done
    at hx hsound hlimited ⊢
  exact ⟨hx.follows.trans_silent (follows_giveBack done t.lease), mem_idle_giveBack hsound hlimited⟩

-- What the server answers to a commit in time decides it. A commit that fails is told as it failed,
-- and cleaned up: one rollback is sent after it, which has a timeout of its own and may fail or not,
-- and nobody gets the connection again. A commit that succeeds sends nothing else, and gives the
-- connection back to a pool that is still open. The transaction may be any that is open, with any
-- number of operations under way.
theorem commit_outcome (config : StoreConfig) (server : Behaviour) (welcomes : List Welcome)
    (races : List Bool) (hpos : 0 < config.timeout.nanos) {held : List Lease} {gone : List Nat}
    {w : World} (hw : Moves anyLease (Scene.start config server welcomes races) ⟨held, gone, w⟩)
    {name : String} {t : Transaction} (ht : w.transaction? name = some t) (context : Deadline)
    (taken asked after : World) (verdict : Except Error Unit)
    (htaken : taken = w.removeTransaction name)
    (hasked : asked = (batch t.lease (some (t.bound context)) commitSql).after taken)
    (hverdict : verdict = (batch t.lease (some (t.bound context)) commitSql).answer taken)
    (hafter : after = (commit context t).after taken) :
    Decided t.lease (t.bound context) commitSql taken asked verdict ∧
    (∀ reason, verdict = .error reason →
      (commit context t).answer taken = .error reason ∧
      FailedCommit t (t.bound context) (Deadline.after asked.now config.timeout) reason taken
        asked after ∧
      ∃ left, Scene.Retired ⟨held, left, after⟩ t.lease.connection) ∧
    (verdict = .ok () →
      (commit context t).answer taken = .ok () ∧
      Follows (t.lease.speech [.batch commitSql]) taken after ∧
      (t.lease.pooled = true → after.pool.closed = false →
        t.lease.connection ∈ after.pool.idle)) := by
  have hstart : Arrives anyLease (Scene.start config server welcomes races) held w :=
    ⟨gone, hw, hw.sound (sound_start config server welcomes races)⟩
  have hopen : Arrives anyLease (Scene.start config server welcomes races) (t.lease :: held) taken :=
    htaken ▸ hstart.release ht
  have hconfig : taken.config = config := by
    rw [htaken]
    exact hw.config
  subst hasked hverdict hafter
  refine ⟨batch_decided hopen (uses_head t), fun reason he => ?_, fun hok => ?_⟩
  · obtain ⟨hcommit, left, hleft, hsound⟩ := commit_failed hopen (hconfig ▸ hpos) he
    rw [hconfig] at hcommit
    exact ⟨(commit_of_error he).1, hcommit, left, hsound.retired hleft⟩
  · exact ⟨(commit_of_ok hok).1,
      commit_succeeded hopen (limited_start config server welcomes races) hok⟩

-- The commit is refused, and the rollback after it takes longer than it may.
def stuckRollback : Script :=
  ⟨[{ sql := commitSql, fails := true }, { sql := rollbackSql, delay := Duration.ofSeconds 60 }]⟩

-- The first transaction of a store, opened when the clock starts.
def firstTransaction : Transaction :=
  ⟨⟨0, 0, true⟩, Deadline.after Moment.start (Duration.ofSeconds 30)⟩

theorem commit_outcome_stuckRollback :
    ∃ w taken asked after, w = (performAll [.begin "a"]).after (World.start {} stuckRollback [] []) ∧
      w.transaction? "a" = some firstTransaction ∧ after.now = ⟨30000000000⟩ ∧
      Decided firstTransaction.lease (firstTransaction.bound w.context) commitSql taken asked
        (.error refusal) ∧
      (commit w.context firstTransaction).answer taken = .error refusal ∧
      FailedCommit firstTransaction (firstTransaction.bound w.context)
        (Deadline.after asked.now (Duration.ofSeconds 30)) refusal taken asked after ∧
      ∃ left, Scene.Retired ⟨[], left, after⟩ 0 := by
  have hstart : Arrives anyLease (Scene.start {} stuckRollback [] []) [] _ :=
    start_arrives {} stuckRollback [] []
  obtain ⟨gone, hmoves, -⟩ := (performAll_leads [.begin "a"] _ (fun _ _ => trivial) hstart).arrives
  have hopen : ((performAll [.begin "a"]).after
      (World.start {} stuckRollback [] [])).transaction? "a" = some firstTransaction := by
    decide +kernel
  have hnow : ((commit ((performAll [.begin "a"]).after (World.start {} stuckRollback [] [])).context
      firstTransaction).after (((performAll [.begin "a"]).after
        (World.start {} stuckRollback [] [])).removeTransaction "a")).now = ⟨30000000000⟩ := by
    decide +kernel
  have hrefused : (match (batch firstTransaction.lease (some (firstTransaction.bound
      ((performAll [.begin "a"]).after (World.start {} stuckRollback [] [])).context))
      commitSql).answer (((performAll [.begin "a"]).after
        (World.start {} stuckRollback [] [])).removeTransaction "a") with
      | .ok _ => none
      | .error reason => some reason) = some refusal := by
    decide +kernel
  split at hrefused
  · simp at hrefused
  · rename_i reason hr
    obtain rfl := Option.some.inj hrefused
    obtain ⟨hdecided, hfailed, -⟩ := commit_outcome {} stuckRollback [] [] (by decide) hmoves
      hopen _ _ _ _ _ rfl rfl hr.symm rfl
    obtain ⟨hanswer, hcommit, hretired⟩ := hfailed refusal rfl
    exact ⟨_, _, _, _, rfl, hopen, hnow, hdecided, hanswer, hcommit, hretired⟩

-- A pool that was closed in the meantime does not keep the connection of a commit that succeeds.
theorem not_idle_afterClose :
    ∃ w, w = (performAll [.begin "a", .close]).after (World.start {} (Script.mk []) [] []) ∧
      w.transaction? "a" = some firstTransaction ∧
      ((commit w.context firstTransaction).answer (w.removeTransaction "a")).isOk = true ∧
      ((commit w.context firstTransaction).after (w.removeTransaction "a")).pool.idle = [] :=
  ⟨_, rfl, by decide +kernel, by decide +kernel, by decide +kernel⟩

end Commit

end RecordSql.Store
