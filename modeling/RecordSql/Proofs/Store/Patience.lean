import Mathlib.Algebra.GroupWithZero.Nat
import Mathlib.Algebra.Order.BigOperators.Group.List
import Mathlib.Algebra.Order.Group.Nat
import RecordSql.Proofs.Store.Arrival

namespace RecordSql.Store

open Server

variable {w : World}

def World.Served (w : World) : Prop := ∀ l ∈ w.links, l.Served

section Settle

-- Rollbacks that end may sever links, and do nothing else to them.
structure Settles (w after : World) : Prop where
  served : w.Served → after.Served
  backlogs : after.links.map (·.backlog) = w.links.map (·.backlog)

theorem Settles.refl (w : World) : Settles w w := ⟨id, rfl⟩

theorem Settles.trans {mid after : World} (h : Settles w mid) (hm : Settles mid after) :
    Settles w after :=
  ⟨fun hs => hm.served (h.served hs), hm.backlogs.trans h.backlogs⟩

theorem Settles.of_links {other after : World} (h : Settles other after)
    (hl : other.links = w.links) : Settles w after := by
  obtain ⟨hs, hb⟩ := h
  unfold World.Served at hs
  rw [hl] at hs hb
  exact ⟨hs, hb⟩

theorem settles_sever (w : World) (connection : Nat) :
    Settles w (w.updateLink connection Link.sever) := by
  constructor
  · intro h l hl
    obtain ⟨i, hi⟩ := List.mem_iff_getElem?.mp hl
    simp only [World.updateLink, List.getElem?_modify] at hi
    obtain ⟨old, ho, rfl⟩ := Option.map_eq_some_iff.mp hi
    have hold := h old (List.mem_of_getElem? ho)
    split
    · exact old.served_sever
    · exact hold
  · refine List.ext_getElem? fun i => ?_
    simp only [World.updateLink, List.getElem?_map, List.getElem?_modify]
    cases w.links[i]? with
    | none => rfl
    | some l =>
      by_cases hc : connection = i <;> simp [hc, Link.sever, Link.backlog]

theorem settles_finishRollback (w : World) (rollback : Rollback) :
    Settles w (w.finishRollback rollback) := by
  have hdiscard : ∀ next : World, Settles next (next.discard rollback.lease) := by
    intro next
    unfold World.discard
    split
    · exact .refl next
    · exact (settles_sever _ _).of_links rfl
  unfold World.finishRollback
  split
  · exact (Settles.refl _).of_links rfl
  · exact (hdiscard _).of_links rfl
  · by_cases hk : rollback.lease.pooled = true ∧ w.pool.size ≤ w.pool.limit
    · refine (Settles.refl _).of_links ?_
      simp [World.giveBack, hk.1, hk.2]
    · rw [Custody.giveBack_eq_discard hk]
      exact hdiscard w

theorem settles_finishRollbacks (rollbacks : List Rollback) (w : World) :
    Settles w (rollbacks.foldl World.finishRollback w) := by
  induction rollbacks generalizing w with
  | nil => exact .refl w
  | cons rollback rest ih => exact (settles_finishRollback w rollback).trans (ih _)

theorem links_serve (w : World) :
    w.serve.links = w.links.map fun l => (l.serve w.server w.now).1 := by
  simp only [World.serve, List.map_map]
  rfl

theorem settles_settle (w : World) : Settles w.serve w.settle :=
  (settles_finishRollbacks _ _).of_links rfl

theorem served_settle (w : World) : w.settle.Served := by
  refine (settles_settle w).served fun l hl => ?_
  rw [links_serve] at hl
  obtain ⟨old, -, rfl⟩ := List.mem_map.mp hl
  exact old.served_serve _ _

end Settle

section Pending

theorem pending_eq (w : World) : w.pending = ((w.links.map (·.backlog)).map List.length).sum := by
  have hfold : ∀ (links : List Link) (count : Nat),
      links.foldl (fun count l => count + l.current.toList.length + l.waiting.length) count =
        count + ((links.map (·.backlog)).map List.length).sum := by
    intro links
    induction links with
    | nil => intro count; rfl
    | cons l rest ih =>
      intro count
      rw [List.foldl_cons, ih]
      simp [Link.backlog, Nat.add_assoc]
  rw [World.pending, hfold, Nat.zero_add]

-- When the clock shows what a link is due at, something is answered.
theorem pending_settle_lt {l : Link} {task : Task} (hl : l ∈ w.links) (hc : l.current = some task)
    (hd : task.due ≤ w.now.lastTick) : w.settle.pending < w.pending := by
  rw [pending_eq, pending_eq, (settles_settle w).backlogs, links_serve]
  simp only [List.map_map]
  refine List.sum_lt_sum _ _ (fun l _ => ?_) ⟨l, hl, ?_⟩
  · exact l.length_backlog_serve _ _
  · exact l.length_backlog_serve_lt _ _ hc hd

-- The link that has the next answer.
theorem exists_due {due : Nat} (h : w.nextDue = some due) :
    ∃ l ∈ w.links, ∃ task, l.current = some task ∧ task.due = due := by
  have hm := List.min?_mem h
  obtain ⟨l, hl, ht⟩ := List.mem_filterMap.mp hm
  obtain ⟨task, hc, hd⟩ := Option.map_eq_some_iff.mp ht
  exact ⟨l, hl, task, hc, hd⟩

-- The next answer is one of those that are waited for. The moment is left open, for else it would
-- be computed.
theorem pending_waitFor_lt {due : Nat} (h : w.nextDue = some due) :
    (w.waitFor due).settle.pending < w.pending := by
  obtain ⟨l, hl, task, hc, rfl⟩ := exists_due h
  have hless : ∀ now : Moment, task.due ≤ now.lastTick →
      ({ w with now } : World).settle.pending < w.pending := fun now hd =>
    pending_settle_lt (w := { w with now }) hl hc hd
  exact hless (w.timer.ring w.now task.due) (w.timer.le_lastTick_ring w.now task.due)

theorem current_of_nextDue (h : w.nextDue = none) (l : Link) (hl : l ∈ w.links) :
    l.current = none := by
  have hn := List.filterMap_eq_nil_iff.mp (List.min?_eq_none_iff.mp h) l hl
  simpa using hn

end Pending

section Replies

variable {stale : Lease → Prop} {origin : Scene} {held : List Lease} {lease : Lease} {n : Nat}

-- Somebody who has a connection waits for the answer to a message.
structure Waits (stale : Lease → Prop) (origin : Scene) (held : List Lease) (lease : Lease) (n : Nat)
    (w : World) : Prop where
  arrives : Arrives stale origin held w
  uses : w.Uses held lease
  served : w.Served
  sent : n < (w.sentOver lease.connection).length

-- Where nothing is due any more all has been answered.
theorem Waits.reply? (h : Waits stale origin held lease n w) (hd : w.nextDue = none) :
    w.reply? lease.connection n ≠ none := by
  obtain ⟨ha, hu, hs, hn⟩ := h
  have hnever := ha.not_severed hu
  cases hl : w.link? lease.connection with
  | none => simp [World.sentOver, hl] at hn
  | some l =>
    have hm : l ∈ w.links := List.mem_of_getElem? hl
    have hc := current_of_nextDue hd l hm
    have hopen : l.severed = false := by
      by_contra hsevered
      exact hnever ⟨l, hl, by simpa using hsevered⟩
    have hb : l.backlog = [] := by simp [Link.backlog, hc, hs l hm hopen hc]
    have hlength := l.length_sent
    rw [hb, List.length_nil, Nat.add_zero] at hlength
    have hn : n < l.answered.length := by simpa [World.sentOver, hl, hlength] using hn
    simp [World.reply?, hl, Link.reply?, hn]

-- Later there is less to be waited for. The moment is left open, as for a lease.
theorem Waits.later (h : Waits stale origin held lease n w) (now : Moment) {l : Link} {task : Task}
    (hl : l ∈ w.links) (hc : l.current = some task) (hd : task.due ≤ now.lastTick) :
    Waits stale origin held lease n ({ w with now } : World).settle ∧
      ({ w with now } : World).settle.pending < w.pending := by
  have ha := h.arrives.atMoment now
  have hf := (h.arrives.custody.atMoment now).2.silent_trans ha.custody.settle.2
  refine ⟨⟨ha.settle, h.uses.of_follows hf, served_settle _, ?_⟩, pending_settle_lt hl hc hd⟩
  rw [hf.sent, silence, List.append_nil]
  exact h.sent

-- Somebody who waits without a limit gets an answer. The induction is on the fuel, of which
-- there is more than there are messages to be answered.
theorem awaitWith_reply? (fuel : Nat) (h : Waits stale origin held lease n w)
    (hf : w.pending < fuel) :
    (awaitWith (·.reply? lease.connection n) none fuel).answer w ≠ none := by
  induction fuel generalizing w with
  | zero => omega
  | succ fuel ih =>
    unfold awaitWith
    simp only [Action.answer_bind, Action.answer_get, Action.after_get]
    cases hr : w.reply? lease.connection n with
    | some reply => simp
    | none =>
      cases hd : w.nextDue with
      | none => exact absurd hr (h.reply? hd)
      | some due =>
        obtain ⟨l, hl, task, hc, rfl⟩ := exists_due hd
        obtain ⟨hw, hless⟩ :=
          h.later (w.timer.ring w.now task.due) hl hc (w.timer.le_lastTick_ring w.now task.due)
        exact ih hw (Nat.lt_of_lt_of_le hless (Nat.le_of_lt_succ hf))

theorem await_reply? (h : Waits stale origin held lease n w) :
    (await (·.reply? lease.connection n) none).answer w ≠ none :=
  awaitWith_reply? (w.pending + 1) h (Nat.lt_succ_self _)

end Replies

end RecordSql.Store
