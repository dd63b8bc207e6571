import RecordSql.Proofs.Store.Hearing
import RecordSql.Proofs.Store.Transaction

namespace RecordSql.Store

open Server

variable {α : Type} {stale : Lease → Prop} {origin : Scene} {held : List Lease} {w : World}
  {lease : Lease}

theorem Arrives.quiet {action : Action α} (h : Arrives stale origin held w) (hq : Quiet action) :
    Arrives stale origin held (action.after w) := by
  obtain ⟨logs, hl⟩ := hq w
  rw [hl]
  exact h.aside ⟨rfl, rfl, rfl, rfl, rfl, rfl⟩

section Checkout

-- Where an attempt to get a lease leads to.
def Taken (stale : Lease → Prop) (origin : Scene) (held : List Lease) (after : World) :
    Except Error Lease → Prop
  | .ok lease => Arrives stale origin (lease :: held) after
  | .error _ => Arrives stale origin held after

theorem Arrives.openLost (h : Arrives stale origin held w) :
    Arrives stale origin held w.connect.2.2 :=
  h.move fun gone => ⟨w.links.length :: gone, .openLost⟩

variable (limit : Deadline)

theorem openPooled_takes (h : Arrives stale origin held w) (hi : w.pool.idle = [])
    (hr : w.hasRoom = true) :
    Taken stale origin held ((openPooled limit).after w) ((openPooled limit).answer w) := by
  have hlent : w.connect.1 = .accept → Arrives stale origin
      ((w.connect.2.2.lend w.links.length).1 :: held) (w.connect.2.2.lend w.links.length).2 :=
    fun hw => h.move fun gone => ⟨gone, .lendOpened hw hi hr⟩
  have ho := openPooled_opening limit w
  generalize (openPooled limit).after w = after at ho ⊢
  generalize (openPooled limit).answer w = result at ho ⊢
  cases ho with
  | accepted hw => exact (hlent hw).waitUntil _
  | tooLate hw => exact ((hlent hw).waitUntil _).discard
  | turnedDown => exact h.openLost.waitUntil _
  | cutOff => exact h.openLost.waitUntil _

theorem takeOrOpen_takes (h : Arrives stale origin held w) (hr : w.hasRoom = true) :
    Taken stale origin held ((takeOrOpen limit).after w) ((takeOrOpen limit).answer w) := by
  rw [takeOrOpen, Action.after_get_bind, Action.answer_get_bind]
  cases hi : w.pool.idle with
  | nil => exact openPooled_takes limit h hi hr
  | cons connection idle => exact h.move fun gone => ⟨gone, .lendIdle hi⟩

-- A lease is only taken where there is room for it.
theorem awaitRoom_arrives (h : Arrives stale origin held w) :
    Arrives stale origin held ((awaitRoom limit).after w) ∧
      ((awaitRoom limit).answer w = true → ((awaitRoom limit).after w).hasRoom = true) := by
  have hwait := h.await (fun w => if w.hasRoom then some () else none) (some limit)
  have hready := await_ready (fun w => if w.hasRoom then some () else none) (some limit) w ()
  rw [awaitRoom, Action.after_get_bind, Action.answer_get_bind]
  cases hr : w.hasRoom with
  | true => exact ⟨h, fun _ => hr⟩
  | false =>
    simp only [Bool.false_eq_true, if_false]
    cases limit.hasRung w.now with
    | true => exact ⟨h, fun ha => by simp at ha⟩
    | false =>
      simp only [Bool.false_eq_true, if_false, Action.after_bind, Action.after_pure,
        Action.answer_bind, Action.answer_pure]
      refine ⟨hwait, fun ha => ?_⟩
      obtain ⟨_, ha⟩ := Option.isSome_iff_exists.mp ha
      by_contra hn
      simpa [hn] using hready ha

theorem checkout_takes (h : Arrives stale origin held w) :
    Taken stale origin held ((checkout limit).after w) ((checkout limit).answer w) := by
  rw [checkout, Action.after_get_bind, Action.answer_get_bind]
  cases w.pool.closed with
  | true => exact h
  | false =>
    simp only [Bool.false_eq_true, if_false, Action.after_bind, Action.answer_bind]
    obtain ⟨ha, hr⟩ := awaitRoom_arrives limit h
    cases hroom : (awaitRoom limit).answer w with
    | false => exact ha
    | true => exact takeOrOpen_takes limit ha (hr hroom)

-- The induction is on the attempts that are left.
theorem acquireWith_takes (attempt left : Nat) (h : Arrives stale origin held w) :
    Taken stale origin held ((acquireWith limit attempt left).after w)
      ((acquireWith limit attempt left).answer w) := by
  induction left generalizing attempt w with
  | zero =>
    have ha := checkout_takes limit h
    rw [acquireWith, Action.after_bind, Action.answer_bind]
    generalize (checkout limit).after w = mid at *
    generalize (checkout limit).answer w = result at *
    cases result with
    | ok lease => exact ha
    | error e => exact ha.quiet (quiet_record (.failed "connection checkout failed" e))
  | succ left ih =>
    have ha := checkout_takes limit h
    rw [acquireWith, Action.after_bind, Action.answer_bind]
    generalize (checkout limit).after w = mid at *
    generalize (checkout limit).answer w = result at *
    cases result with
    | ok lease => exact ha
    | error e =>
      cases ht : e.isTimeout with
      | true =>
        simp only [ht, if_true, Action.after_bind, Action.answer_bind]
        exact ha.quiet (quiet_record (.failed "connection checkout failed" e))
      | false =>
        simp only [ht, Bool.false_eq_true, if_false, Action.after_get_bind, Action.answer_get_bind]
        simp only [Action.after_bind, Action.answer_bind]
        exact ih (attempt + 1) (ha.quiet
          (quiet_record (.retrying e (attempt + 1) mid.config.retryCount)))

theorem acquire_takes (h : Arrives stale origin held w) :
    Taken stale origin held ((acquire limit).after w) ((acquire limit).answer w) := by
  rw [acquire, Action.after_get_bind, Action.answer_get_bind]
  exact acquireWith_takes limit 0 _ h

-- An operation gives its connection back when it has heard all answers, or when its lease is a
-- stale one.
theorem withLease_arrives {missing : α → Prop} {use : Lease → Action α}
    (hu : ∀ lease, Hears stale origin lease missing (use lease))
    (hs : ∀ lease, (acquire limit).answer w = .ok lease →
      missing ((use lease).answer ((acquire limit).after w)) → stale lease)
    (h : Arrives stale origin held w) :
    Arrives stale origin held ((withLease limit use).after w) := by
  have ha := acquire_takes limit h
  rw [withLease, Action.after_bind]
  generalize (acquire limit).after w = mid at *
  generalize (acquire limit).answer w = result at *
  cases result with
  | error e => exact ha
  | ok lease =>
    obtain ⟨ha, -, hb⟩ := hu lease _ _ ha (List.mem_append_left _ List.mem_cons_self)
    simp only [Action.after_bind, Action.after_modify, Action.after_pure]
    exact ha.giveBack (hb.imp_right (hs lease rfl))

end Checkout

section Transactions

variable {t : Transaction} {name : String}

-- Where an attempt to open a transaction leads to.
def OpensAt (stale : Lease → Prop) (origin : Scene) (held : List Lease) (after : World) :
    Except Error Transaction → Prop
  | .ok t => Arrives stale origin (t.lease :: held) after
  | .error _ => Arrives stale origin held after

-- A message for a whole transaction. When it succeeds all that was sent has been answered.
theorem batch_arrives (h : Arrives stale origin (lease :: held) w) (limit : Option Deadline)
    (sql : String) :
    Arrives stale origin (lease :: held) ((batch lease limit sql).after w) ∧
      ((batch lease limit sql).answer w = .ok () →
        ((batch lease limit sql).after w).backlog lease.connection = []) := by
  obtain ⟨ha, -, hb⟩ := exchange_hears limit (.batch sql) _ w h
    (List.mem_append_left _ List.mem_cons_self)
  rw [after_batch, answer_batch]
  refine ⟨ha, fun hok => hb.resolve_right ?_⟩
  rintro ⟨deadline, -, he⟩
  rw [he] at hok
  simp [Except.map] at hok

theorem beginOn_arrives (deadline : Deadline) (h : Arrives stale origin (lease :: held) w) :
    OpensAt stale origin held ((beginOn lease deadline).after w)
      ((beginOn lease deadline).answer w) := by
  have ha := (batch_arrives h (some deadline) beginSql).1
  rw [beginOn, Action.after_bind, Action.answer_bind]
  generalize (batch lease (some deadline) beginSql).after w = after at *
  generalize (batch lease (some deadline) beginSql).answer w = result
  cases result with
  | ok _ =>
    dsimp only
    rw [Action.after_pure, Action.answer_pure]
    exact ha
  | error e =>
    simp only [Action.after_bind, Action.answer_bind, Action.after_modify, Action.after_pure,
      Action.answer_pure]
    exact (ha.quiet (quiet_record (.failed "begin transaction failed" e))).discard

theorem beginTransaction_arrives (context : Deadline) (h : Arrives stale origin held w) :
    OpensAt stale origin held ((beginTransaction context).after w)
      ((beginTransaction context).answer w) := by
  rw [beginTransaction, Action.after_get_bind, Action.answer_get_bind]
  generalize context.child w.now w.config.timeout = deadline
  simp only [Action.after_bind, Action.answer_bind]
  have ha := acquire_takes deadline h
  generalize (acquire deadline).after w = mid at *
  generalize (acquire deadline).answer w = result at *
  cases result with
  | ok lease => exact beginOn_arrives deadline ha
  | error e => exact ha

theorem welcomeError_eq_none {welcome : Welcome} (h : welcomeError welcome = none) :
    welcome = .accept := by
  cases welcome <;> simp [welcomeError] at h ⊢

theorem beginUnpooled_arrives (deadline : Deadline) (h : Arrives stale origin held w) :
    OpensAt stale origin held ((beginUnpooled deadline).after w)
      ((beginUnpooled deadline).answer w) := by
  have hopened : w.connect = (w.connect.1, w.links.length, w.connect.2.2) := rfl
  rw [beginUnpooled, Action.after_get_bind, Action.answer_get_bind, hopened]
  dsimp only
  cases hw : welcomeError w.connect.1 with
  | some e => exact h.openLost.waitUntil _
  | none =>
    have hown : Arrives stale origin ((w.connect.2.2.lease w.links.length false).1 :: held)
        (w.connect.2.2.lease w.links.length false).2 :=
      h.move fun gone => ⟨gone, .openOwn (welcomeError_eq_none hw)⟩
    dsimp only
    rw [Action.after_bind, Action.answer_bind, Action.after_set, Action.after_bind,
      Action.answer_bind]
    exact beginOn_arrives deadline (hown.waitUntil _)

theorem rollbackFailedCommit_arrives (h : Arrives stale origin (t.lease :: held) w) :
    Arrives stale origin held ((rollbackFailedCommit t).after w) := by
  rw [rollbackFailedCommit, Action.after_get_bind]
  generalize Deadline.after w.now w.config.timeout = limit
  have ha := (batch_arrives h (some limit) rollbackSql).1
  dsimp only
  rw [Action.after_bind]
  generalize (batch t.lease (some limit) rollbackSql).after w = after at *
  generalize (batch t.lease (some limit) rollbackSql).answer w = result
  cases result with
  | ok _ =>
    dsimp only
    rw [Action.after_modify]
    exact ha.discard
  | error e =>
    dsimp only
    rw [Action.after_bind, Action.after_modify]
    exact (ha.quiet (quiet_record (.failed "rollback after failed commit failed" e))).discard

variable (context : Deadline)

theorem commit_arrives (h : Arrives stale origin (t.lease :: held) w) :
    Arrives stale origin held ((commit context t).after w) := by
  obtain ⟨ha, hb⟩ := batch_arrives h (some (t.bound context)) commitSql
  rw [commit, Action.after_bind]
  generalize (batch t.lease (some (t.bound context)) commitSql).after w = after at *
  generalize (batch t.lease (some (t.bound context)) commitSql).answer w = result at *
  cases result with
  | ok _ =>
    dsimp only
    rw [Action.after_bind, Action.after_pure, Action.after_modify]
    exact ha.giveBack (.inl (hb rfl))
  | error e =>
    dsimp only
    rw [Action.after_bind, Action.after_bind, Action.after_pure]
    exact rollbackFailedCommit_arrives
      (ha.quiet (quiet_record (.failed "commit failed, rolling back" e)))

theorem rollback_arrives (h : Arrives stale origin (t.lease :: held) w) :
    Arrives stale origin held ((rollback context t).after w) := by
  obtain ⟨ha, hb⟩ := batch_arrives h (some (t.bound context)) rollbackSql
  rw [rollback, Action.after_bind]
  generalize (batch t.lease (some (t.bound context)) rollbackSql).after w = after at *
  generalize (batch t.lease (some (t.bound context)) rollbackSql).answer w = result at *
  cases result with
  | ok _ =>
    dsimp only
    rw [Action.after_bind, Action.after_pure, Action.after_modify]
    exact ha.giveBack (.inl (hb rfl))
  | error e =>
    dsimp only
    rw [Action.after_bind, Action.after_bind, Action.after_pure, Action.after_modify]
    exact (ha.quiet (quiet_record (.failed "rollback failed" e))).discard

theorem abandon_arrives (h : Arrives stale origin (t.lease :: held) w) :
    Arrives stale origin held ((abandon t).after w) := by
  have hlog := h.log .droppedOpen
  rw [abandon, Action.after_bind]
  change Arrives stale origin held (Action.after _ (w.log .droppedOpen))
  generalize w.log .droppedOpen = logged at *
  rw [Action.after_get_bind, Action.after_set]
  have hu : logged.Uses (t.lease :: held) t.lease := uses_head t
  have hsent := (hlog.custody.send_follows hu (.batch rollbackSql)).sent_speech
  have hlast : (logged.send t.lease (.batch rollbackSql)).SentLast
      ⟨t.lease, logged.nextMessage t.lease.connection⟩ :=
    ⟨_, hsent, World.nextMessage_eq _ _⟩
  exact (hlog.send hu (.batch rollbackSql)).move fun gone => ⟨gone, .leave hlast⟩

theorem abandonOffline_arrives (h : Arrives stale origin (t.lease :: held) w) :
    Arrives stale origin held ((abandonOffline t).after w) :=
  (h.log .droppedOpen).discard

end Transactions

end RecordSql.Store
