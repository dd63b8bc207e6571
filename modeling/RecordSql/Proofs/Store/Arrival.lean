import RecordSql.Proofs.Store.Sound

namespace RecordSql.Store

open Server

variable {α : Type} {stale : Lease → Prop} {origin : Scene} {held left : List Lease}
  {w after : World} {lease : Lease}

-- Moves lead from a scene to a world, with leases of operations that are under way there.
def Arrives (stale : Lease → Prop) (origin : Scene) (held : List Lease) (w : World) : Prop :=
  ∃ gone, Moves stale origin ⟨held, gone, w⟩ ∧ Scene.Sound stale ⟨held, gone, w⟩

namespace Arrives

theorem custody (h : Arrives stale origin held w) : Custody (fun _ => False) held w := by
  obtain ⟨_, -, hs⟩ := h
  exact hs.custody

-- Nobody has a connection that has been severed.
theorem not_severed (h : Arrives stale origin held w) (hu : w.Uses held lease) :
    ¬w.Severed lease.connection := by
  obtain ⟨_, -, hs⟩ := h
  exact fun hc => hs.notMem_out (hs.severed _ hc) (List.mem_map_of_mem (Custody.mem_out hu))

-- One move more.
theorem move (h : Arrives stale origin held w)
    (hm : ∀ gone, ∃ stillGone, Move stale ⟨held, gone, w⟩ ⟨left, stillGone, after⟩) :
    Arrives stale origin left after := by
  obtain ⟨gone, hmoves, hs⟩ := h
  obtain ⟨stillGone, hmove⟩ := hm gone
  exact ⟨stillGone, hmoves.tail hmove, hmove.sound hs⟩

theorem aside (h : Arrives stale origin held w) (ha : Alongside w after) :
    Arrives stale origin held after :=
  h.move fun gone => ⟨gone, .aside ha⟩

theorem log (h : Arrives stale origin held w) (entry : LogEntry) :
    Arrives stale origin held (w.log entry) :=
  h.aside ⟨rfl, rfl, rfl, rfl, rfl, rfl⟩

-- The moment is left open, for else it would be computed to see that nothing else changes.
theorem atMoment (h : Arrives stale origin held w) (now : Moment) :
    Arrives stale origin held { w with now } :=
  h.aside ⟨rfl, rfl, rfl, rfl, rfl, rfl⟩

theorem discard (h : Arrives stale origin (lease :: held) w) :
    Arrives stale origin held (w.discard lease) :=
  h.move fun _ => ⟨_, .discard⟩

theorem giveBack (h : Arrives stale origin (lease :: held) w)
    (hq : w.backlog lease.connection = [] ∨ stale lease) :
    Arrives stale origin held (w.giveBack lease) := by
  by_cases hk : lease.pooled = true ∧ w.pool.size ≤ w.pool.limit
  · exact h.move fun gone => ⟨gone, .giveBack hk.1 hk.2 hq⟩
  · rw [Custody.giveBack_eq_discard hk]
    exact h.discard

theorem send (h : Arrives stale origin held w) (hu : w.Uses held lease) (content : Content) :
    Arrives stale origin held (w.send lease content) :=
  h.move fun gone => ⟨gone, .send hu content⟩

section Settle

theorem finishRollback {rollback : Rollback} (h : Arrives stale origin (rollback.lease :: held) w)
    (hl : w.SentLast rollback) : Arrives stale origin held (w.finishRollback rollback) := by
  obtain ⟨earlier, hsent, hmessage⟩ := hl
  unfold World.finishRollback
  split
  · exact h.move fun gone => ⟨gone, .leave ⟨earlier, hsent, hmessage⟩⟩
  · exact (h.log _).discard
  · rename_i reply _ hr
    have hlength : (w.sentOver rollback.lease.connection).length ≤ rollback.message + 1 := by
      simp [hsent, hmessage]
    exact h.giveBack (.inl (backlog_of_reply? hr hlength))

theorem finishRollbacks (rollbacks : List Rollback) (w : World)
    (h : Arrives stale origin (rollbacks.map (·.lease) ++ held) w)
    (hl : ∀ rollback ∈ rollbacks, w.SentLast rollback) :
    Arrives stale origin held (rollbacks.foldl World.finishRollback w) := by
  induction rollbacks generalizing w with
  | nil => exact h
  | cons rollback rest ih =>
    obtain ⟨hl, hrest⟩ := List.forall_mem_cons.mp hl
    have hf := Custody.follows_finishRollback w rollback
    exact ih _ (h.finishRollback hl) fun other hm => hf.sentLast (hrest other hm)

theorem settle (h : Arrives stale origin held w) : Arrives stale origin held w.settle := by
  have hserve : Arrives stale origin held w.serve := h.move fun gone => ⟨gone, .serve⟩
  obtain ⟨gone, hmoves, hs⟩ := hserve
  exact finishRollbacks _ _ ⟨gone, hmoves.tail .resume, hs.resume⟩ hs.last

theorem awaitUntil (h : Arrives stale origin held w) (ready : World → Option α)
    (limit : Option Nat) :
    Arrives stale origin held ((Store.awaitUntil ready limit).after w) := by
  have hw : ∀ (next : World) (tick : Nat), Arrives stale origin held next →
      Arrives stale origin held (next.waitFor tick) := fun next tick hn =>
    hn.atMoment (next.timer.ring next.now tick)
  exact awaitUntil_keeps ready (fun _ hn => hn.settle) hw limit w h

theorem await (h : Arrives stale origin held w) (ready : World → Option α)
    (limit : Option Deadline) : Arrives stale origin held ((Store.await ready limit).after w) :=
  h.awaitUntil ready _

theorem waitUntil (h : Arrives stale origin held w) (tick : Nat) :
    Arrives stale origin held ((Store.waitUntil tick).after w) := by
  rw [after_waitUntil]
  split
  · exact h.awaitUntil _ _
  · exact h

end Settle

end Arrives

end RecordSql.Store
