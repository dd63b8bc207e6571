import RecordSql.Proofs.Store.Action
import RecordSql.Proofs.Store.Custody
import RecordSql.Store.Call

namespace RecordSql.Store

open Server

variable {α β : Type} {opens : Content → Prop} {held : List Lease} {w : World} {lease : Lease}

theorem World.Uses.of_follows {added : Nat → List Message} {after : World}
    (hu : w.Uses held lease) (hf : Follows added w after) : after.Uses held lease := by
  unfold World.Uses
  rwa [hf.transactions]

theorem Custody.awaitUntil (h : Custody opens held w) (ready : World → Option α)
    (limit : Option Nat) :
    Custody opens held ((Store.awaitUntil ready limit).after w) ∧
      Follows silence w ((Store.awaitUntil ready limit).after w) := by
  have hs : ∀ next, Custody opens held next ∧ Follows silence w next →
      Custody opens held next.settle ∧ Follows silence w next.settle := by
    intro next ⟨hc, hf⟩
    exact ⟨hc.settle.1, hf.silent_trans hc.settle.2⟩
  have hw : ∀ (next : World) (tick : Nat), Custody opens held next ∧ Follows silence w next →
      Custody opens held (next.waitFor tick) ∧ Follows silence w (next.waitFor tick) := by
    intro next tick ⟨hc, hf⟩
    obtain ⟨hc, hn⟩ := hc.atMoment (next.timer.ring next.now tick)
    exact ⟨hc, hf.silent_trans hn⟩
  exact awaitUntil_keeps ready hs hw limit w ⟨h, .refl w⟩

theorem Custody.await (h : Custody opens held w) (ready : World → Option α)
    (limit : Option Deadline) :
    Custody opens held ((Store.await ready limit).after w) ∧
      Follows silence w ((Store.await ready limit).after w) :=
  h.awaitUntil ready _

theorem Custody.waitUntil (h : Custody opens held w) (tick : Nat) :
    Custody opens held ((Store.waitUntil tick).after w) ∧
      Follows silence w ((Store.waitUntil tick).after w) := by
  rw [after_waitUntil]
  split
  · exact h.awaitUntil _ _
  · exact ⟨h, .refl w⟩

section Exchange

-- What is sent is the message or, too late, nothing. An answer that is no refusal is the answer
-- to that message.
structure Exchanged (opens : Content → Prop) (held : List Lease) (lease : Lease)
    (limit : Option Deadline) (content : Content) (w after : World) (result : Except Error Reply)
    (contents : List Content) : Prop where
  custody : Custody opens held after
  follows : Follows (lease.speech contents) w after
  sent : contents = [content] ∨ contents = [] ∧ limit.any (·.hasRung w.now) = true
  answered : ∀ reply, result = .ok reply → contents = [content] ∧
    ∃ exchange, (after.answeredOver lease.connection)[(w.sentOver lease.connection).length]? =
      some exchange ∧ exchange.message.content = content ∧ exchange.reply ≠ .refused

-- The next answer after those to all that was sent before belongs to what was said.
theorem answer_of_speech {content : Content} {after : World} {reply : Reply}
    (hf : Follows (lease.speech [content]) w after)
    (hr : after.reply? lease.connection (w.sentOver lease.connection).length = some reply) :
    ∃ exchange, (after.answeredOver lease.connection)[(w.sentOver lease.connection).length]? =
      some exchange ∧ exchange.message.content = content ∧ exchange.reply = reply := by
  obtain ⟨exchange, he, hx⟩ := World.reply?_eq_some _ _ _ _ hr
  have hmessage := World.sent_of_answeredOver _ _ _ _ he
  rw [hf.sent_speech] at hmessage
  have hm : exchange.message = ⟨lease.number, content⟩ := by simpa using hmessage.symm
  exact ⟨exchange, he, by rw [hm], hx⟩

theorem exchange_spec (h : Custody opens held w) (hu : w.Uses held lease)
    (limit : Option Deadline) (content : Content) :
    ∃ contents, Exchanged opens held lease limit content w
      ((exchange lease limit content).after w) ((exchange lease limit content).answer w)
      contents := by
  -- Nothing has to be known of the wait than what it keeps and what it gives.
  have hwait : ∀ (ready : World → Option Reply) (next : World), Custody opens held next →
      Custody opens held ((await ready limit).after next) ∧
        Follows silence next ((await ready limit).after next) :=
    fun ready next hn => hn.await ready limit
  have hready : ∀ (ready : World → Option Reply) (next : World) (reply : Reply),
      (await ready limit).answer next = some reply →
        ready ((await ready limit).after next) = some reply :=
    fun ready next reply => await_ready ready limit next reply
  rw [exchange, Action.after_get_bind, Action.answer_get_bind]
  generalize @await Reply = wait at *
  cases hl : limit.any (·.hasRung w.now) with
  | true =>
    simp only [if_true, Action.after_bind, Action.answer_bind, Action.after_set,
      Action.after_pure, Action.answer_pure]
    have hf : Follows silence w w.takeRace.2 := .of_eq rfl (Nat.le_refl _) rfl
    have hc : Custody opens held w.takeRace.2 := h.silent hf rfl (.refl _)
    by_cases hs : w.takeRace.1 = true
    · rw [if_pos hs]
      have hsend := hc.send (hu.of_follows hf) content
      refine ⟨[content], hsend.settle.1, ?_, .inl rfl, by simp⟩
      have hsent := hc.send_follows (hu.of_follows hf) content
      exact hf.silent_trans (hsent.trans_silent hsend.settle.2)
    · rw [if_neg hs]
      exact ⟨[], hc, (Follows.speech_nil lease).mp hf, .inr ⟨rfl, hl⟩, by simp⟩
  | false =>
    simp only [Bool.false_eq_true, if_false, Action.after_bind, Action.answer_bind,
      Action.after_set, World.nextMessage_eq]
    have hs := h.send hu content
    have hsent := (h.send_follows hu content).trans_silent hs.settle.2
    have hr := hready (·.reply? lease.connection (w.sentOver lease.connection).length)
      (w.send lease content).settle
    obtain ⟨hc, hf⟩ := hwait (·.reply? lease.connection (w.sentOver lease.connection).length) _
      hs.settle.1
    refine ⟨[content], ?_, ?_, .inl rfl, ?_⟩
    · split <;> exact hc
    · split <;> exact hsent.trans_silent hf
    · intro reply ha
      refine ⟨rfl, ?_⟩
      split at ha
      · simp at ha
      · rename_i hnot hanswer
        obtain rfl : _ = reply := by simpa using ha
        obtain ⟨exchange, he, hm, rfl⟩ := answer_of_speech (hsent.trans_silent hf) (hr _ hanswer)
        exact ⟨exchange, he, hm, fun hx => hnot hx⟩
      · simp at ha

theorem Exchanged.sublist {limit : Option Deadline} {content : Content} {after : World}
    {result : Except Error Reply} {contents : List Content}
    (h : Exchanged opens held lease limit content w after result contents) :
    contents.Sublist [content] := by
  rcases h.sent with rfl | ⟨rfl, -⟩
  · exact .refl _
  · exact List.nil_sublist _

-- A message that ends transactions has ended them all when it succeeded, for it is the last one
-- that was sent.
theorem Exchanged.ended {limit : Option Deadline} {sql : String} {after : World}
    {result : Except Error Reply} {contents : List Content} {reply : Reply}
    (h : Exchanged opens held lease limit (.batch sql) w after result contents)
    (hs : sql = commitSql ∨ sql = rollbackSql) (hn : ¬opens (.batch sql))
    (hr : result = .ok reply) : after.Ended opens lease.connection := by
  obtain ⟨rfl, exchange, ha, hm, hx⟩ := h.answered reply hr
  refine ended_of_answer ha ⟨?_, hx⟩ ?_
  · rw [hm]
    exact hs.imp (congrArg _) (congrArg _)
  · intro i message hi ho
    rw [h.follows.sent_speech, List.getElem?_append] at hi
    split at hi
    · assumption
    · have hc := List.mem_of_getElem? hi
      obtain rfl : message = ⟨lease.number, .batch sql⟩ := by simpa using hc
      exact absurd ho hn

@[simp] theorem after_batch (limit : Option Deadline) (sql : String) :
    (batch lease limit sql).after w = (exchange lease limit (.batch sql)).after w := by
  rw [batch, Action.after_bind, Action.after_pure]

@[simp] theorem answer_batch (limit : Option Deadline) (sql : String) :
    (batch lease limit sql).answer w =
      ((exchange lease limit (.batch sql)).answer w).map fun _ => () := by
  rw [batch, Action.answer_bind, Action.answer_pure]

end Exchange

end RecordSql.Store
