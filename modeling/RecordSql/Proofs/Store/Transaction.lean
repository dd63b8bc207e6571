import RecordSql.Proofs.Store.Checkout

namespace RecordSql.Store

open Server

variable {opens : Content → Prop} {held : List Lease} {w : World} {lease : Lease}

section Begin

-- What comes of an attempt to open a transaction. If it fails, nothing is left of it but what was
-- sent under a lease of its own.
def Begun (opens : Content → Prop) (held : List Lease) (w after : World) :
    Except Error Transaction → Prop
  | .ok t => Custody opens (t.lease :: held) after ∧
      Follows (t.lease.speech [.batch beginSql]) w after ∧ w.leases ≤ t.lease.number
  | .error _ => Custody opens held after ∧ Aside w after

variable (deadline : Deadline)

theorem beginOn_begins {mid : World} (hf : Follows silence w mid)
    (hl : Lent opens held w mid lease) :
    Begun opens held w ((beginOn lease deadline).after mid)
      ((beginOn lease deadline).answer mid) := by
  have hu : mid.Uses (lease :: held) lease := List.mem_append_left _ List.mem_cons_self
  obtain ⟨contents, hx⟩ := exchange_spec hl.custody hu (some deadline) (.batch beginSql)
  rw [beginOn, Action.after_bind, Action.answer_bind, after_batch, answer_batch]
  generalize (exchange lease (some deadline) (.batch beginSql)).after mid = after at *
  generalize (exchange lease (some deadline) (.batch beginSql)).answer mid = result at *
  cases result with
  | ok reply =>
    obtain ⟨rfl, -⟩ := hx.answered reply rfl
    dsimp only [Except.map]
    rw [Action.after_pure, Action.answer_pure]
    exact ⟨hx.custody, hf.silent_trans hx.follows, hl.fresh⟩
  | error e =>
    simp only [Except.map, Action.after_bind, Action.answer_bind, Action.after_modify,
      Action.after_pure, Action.answer_pure]
    obtain ⟨hc, hr⟩ := (quiet_record (.failed "begin transaction failed" e)).keeps hx.custody
    have hfollows := hx.follows.trans_silent (hr.trans_silent (follows_discard _ lease))
    exact ⟨hc.discard, (hf.silent_trans hfollows).aside_speech hl.fresh⟩

theorem beginTransaction_begins (context : Deadline) (h : Custody opens held w) :
    Begun opens held w ((beginTransaction context).after w)
      ((beginTransaction context).answer w) := by
  rw [beginTransaction, Action.after_get_bind, Action.answer_get_bind]
  generalize context.child w.now w.config.timeout = deadline
  simp only [Action.after_bind, Action.answer_bind]
  obtain ⟨hf, ha⟩ := acquire_acquires deadline w h
  generalize (acquire deadline).after w = mid at *
  generalize (acquire deadline).answer w = result at *
  cases result with
  | ok lease => exact beginOn_begins deadline hf ha
  | error e => exact ⟨ha, hf.aside⟩

theorem beginUnpooled_begins (h : Custody opens held w) :
    Begun opens held w ((beginUnpooled deadline).after w)
      ((beginUnpooled deadline).answer w) := by
  obtain ⟨hs, hl⟩ : Follows silence w (w.connect.2.2.lease w.links.length false).2 ∧
      Lent opens held w (w.connect.2.2.lease w.links.length false).2
        (w.connect.2.2.lease w.links.length false).1 :=
    lent_connect h false w.connect.2.2.pool.lent rfl
  have hopened : w.connect = (w.connect.1, w.links.length, w.connect.2.2) := rfl
  rw [beginUnpooled, Action.after_get_bind, Action.answer_get_bind, hopened]
  dsimp only
  cases welcomeError w.connect.1 with
  | some e =>
    obtain ⟨hc, hf⟩ := h.connect.waitUntil w.welcomeTick
    exact ⟨hc, ((follows_connect w).silent_trans hf).aside⟩
  | none =>
    have hw := hl.custody.waitUntil w.welcomeTick
    dsimp only
    rw [Action.after_bind, Action.answer_bind, Action.after_set, Action.after_bind,
      Action.answer_bind]
    exact beginOn_begins deadline (hs.silent_trans hw.2) (hl.later hw)

end Begin

section End

variable (hcommit : ¬opens (.batch commitSql)) (hrollback : ¬opens (.batch rollbackSql))
  (context : Deadline) (t : Transaction)

theorem uses_head : w.Uses (t.lease :: held) t.lease :=
  List.mem_append_left _ List.mem_cons_self

theorem rollbackFailedCommit_ends (h : Custody opens (t.lease :: held) w) :
    ∃ contents, contents.Sublist [.batch rollbackSql] ∧
      Custody opens held ((rollbackFailedCommit t).after w) ∧
      Follows (t.lease.speech contents) w ((rollbackFailedCommit t).after w) := by
  rw [rollbackFailedCommit, Action.after_get_bind]
  generalize Deadline.after w.now w.config.timeout = limit
  obtain ⟨contents, hx⟩ := exchange_spec h (uses_head t) (some limit) (.batch rollbackSql)
  dsimp only
  rw [Action.after_bind, after_batch, answer_batch]
  generalize (exchange t.lease (some limit) (.batch rollbackSql)).after w = after at *
  generalize (exchange t.lease (some limit) (.batch rollbackSql)).answer w = result at *
  refine ⟨contents, hx.sublist, ?_⟩
  cases result with
  | ok reply =>
    dsimp only [Except.map]
    rw [Action.after_modify]
    exact ⟨hx.custody.discard, hx.follows.trans_silent (follows_discard _ _)⟩
  | error e =>
    dsimp only [Except.map]
    rw [Action.after_bind, Action.after_modify]
    obtain ⟨hc, hs⟩ := (quiet_record (.failed "rollback after failed commit failed" e)).keeps
      hx.custody
    exact ⟨hc.discard, hx.follows.trans_silent (hs.trans_silent (follows_discard _ _))⟩

include hcommit in
-- A commit that failed is followed by a rollback, and nothing comes after either.
theorem commit_ends (h : Custody opens (t.lease :: held) w) :
    ∃ contents, contents.Sublist [.batch commitSql, .batch rollbackSql] ∧
      Custody opens held ((commit context t).after w) ∧
      Follows (t.lease.speech contents) w ((commit context t).after w) := by
  obtain ⟨first, hx⟩ := exchange_spec h (uses_head t) (some (t.bound context)) (.batch commitSql)
  rw [commit, Action.after_bind, after_batch, answer_batch]
  generalize (exchange t.lease (some (t.bound context)) (.batch commitSql)).after w = after at *
  generalize (exchange t.lease (some (t.bound context)) (.batch commitSql)).answer w = result at *
  cases result with
  | ok reply =>
    dsimp only [Except.map]
    rw [Action.after_bind, Action.after_pure, Action.after_modify]
    refine ⟨first, hx.sublist.trans (List.prefix_append _ _).sublist, ?_,
      hx.follows.trans_silent (follows_giveBack _ _)⟩
    exact hx.custody.giveBack (hx.ended (.inl rfl) hcommit rfl)
  | error e =>
    dsimp only [Except.map]
    rw [Action.after_bind, Action.after_bind, Action.after_pure]
    obtain ⟨hc, hs⟩ := (quiet_record (.failed "commit failed, rolling back" e)).keeps hx.custody
    obtain ⟨second, hsub, hk, hf⟩ := rollbackFailedCommit_ends t hc
    exact ⟨first ++ second, hx.sublist.append hsub, hk,
      hx.follows.speech_trans (hs.silent_trans hf)⟩

include hrollback in
theorem rollback_ends (h : Custody opens (t.lease :: held) w) :
    ∃ contents, contents.Sublist [.batch rollbackSql] ∧
      Custody opens held ((rollback context t).after w) ∧
      Follows (t.lease.speech contents) w ((rollback context t).after w) := by
  obtain ⟨contents, hx⟩ := exchange_spec h (uses_head t) (some (t.bound context))
    (.batch rollbackSql)
  rw [rollback, Action.after_bind, after_batch, answer_batch]
  generalize (exchange t.lease (some (t.bound context)) (.batch rollbackSql)).after w = after at *
  generalize (exchange t.lease (some (t.bound context)) (.batch rollbackSql)).answer w = result at *
  refine ⟨contents, hx.sublist, ?_⟩
  cases result with
  | ok reply =>
    dsimp only [Except.map]
    rw [Action.after_bind, Action.after_pure, Action.after_modify]
    exact ⟨hx.custody.giveBack (hx.ended (.inr rfl) hrollback rfl),
      hx.follows.trans_silent (follows_giveBack _ _)⟩
  | error e =>
    dsimp only [Except.map]
    rw [Action.after_bind, Action.after_bind, Action.after_pure, Action.after_modify]
    obtain ⟨hc, hs⟩ := (quiet_record (.failed "rollback failed" e)).keeps hx.custody
    exact ⟨hc.discard, hx.follows.trans_silent (hs.trans_silent (follows_discard _ _))⟩

-- The message of a rollback is the last one that was sent, and it opens nothing.
theorem rollsBack_send (hrollback : ¬opens (.batch rollbackSql)) {after : World}
    (hf : Follows (lease.speech [.batch rollbackSql]) w after) :
    after.RollsBack opens ⟨lease, w.nextMessage lease.connection⟩ := by
  have hsent : after.sentOver lease.connection =
      w.sentOver lease.connection ++ [⟨lease.number, .batch rollbackSql⟩] := hf.sent_speech
  unfold World.RollsBack
  rw [hsent, World.nextMessage_eq]
  refine ⟨List.getElem?_concat_length, fun i message hi ho => ?_⟩
  rw [List.getElem?_append] at hi
  split at hi
  · assumption
  · obtain rfl := List.mem_singleton.mp (List.mem_of_getElem? hi)
    exact absurd ho hrollback

include hrollback in
-- The connection is not given back here, but by the rollback that is left behind.
theorem abandon_ends (h : Custody opens (t.lease :: held) w) :
    Custody opens held ((abandon t).after w) ∧
      Follows (t.lease.speech [.batch rollbackSql]) w ((abandon t).after w) := by
  obtain ⟨hc, hs⟩ := (quiet_record .droppedOpen).keeps h
  rw [abandon, Action.after_bind, Action.after_get_bind]
  generalize (record .droppedOpen).after w = logged at *
  have hf := hc.send_follows (uses_head t) (.batch rollbackSql)
  have hleave := (hc.send (uses_head t) (.batch rollbackSql)).leave (rollsBack_send hrollback hf)
  have hsilent : Follows silence (logged.send t.lease (.batch rollbackSql))
      { logged.send t.lease (.batch rollbackSql) with
        rollbacks := logged.rollbacks ++ [⟨t.lease, logged.nextMessage t.lease.connection⟩] } :=
    .of_eq rfl (Nat.le_refl _) rfl
  exact ⟨hleave, hs.silent_trans (hf.trans_silent hsilent)⟩

end End

section Names

variable {name : String} {t : Transaction} {transactions : List (String × Transaction)}

-- A name stands for one transaction, so that nothing else goes with it.
theorem perm_of_lookup (hn : (transactions.map (·.1)).Nodup)
    (ht : transactions.lookup name = some t) :
    transactions.Perm ((name, t) :: transactions.filter (·.1 != name)) := by
  obtain ⟨front, back, rfl, hfront⟩ := List.lookup_eq_some_iff.mp ht
  have hkept : ∀ entries : List (String × Transaction), (∀ entry ∈ entries, entry.1 ≠ name) →
      entries.filter (·.1 != name) = entries := fun entries h =>
    List.filter_eq_self.mpr fun entry hm => by simpa using h entry hm
  have hback : ∀ entry ∈ back, entry.1 ≠ name := by
    rw [List.map_append, List.map_cons] at hn
    rintro entry hm rfl
    exact (List.nodup_cons.mp (List.nodup_append.mp hn).2.1).1 (List.mem_map.mpr ⟨entry, hm, rfl⟩)
  rw [List.filter_append, List.filter_cons_of_neg (by simp), hkept back hback,
    hkept front fun entry hm => Ne.symm (by simpa using hfront entry hm)]
  exact List.perm_middle

theorem perm_insertTransaction (name : String) (t : Transaction)
    (transactions : List (String × Transaction)) :
    (World.insertTransaction name t transactions).Perm ((name, t) :: transactions) := by
  induction transactions with
  | nil => exact .refl _
  | cons entry rest ih =>
    unfold World.insertTransaction
    split
    · exact .refl _
    · exact (ih.cons entry).trans (.swap _ _ _)

theorem Custody.release (h : Custody opens held w) (ht : w.transaction? name = some t) :
    Custody opens (t.lease :: held) (w.removeTransaction name) := by
  have hp := perm_of_lookup h.named ht
  refine h.rename (h.named.sublist (List.filter_sublist.map _)) ?_
  exact ((hp.map (·.2.lease)).append_left held).trans List.perm_middle

theorem Custody.keep (h : Custody opens (t.lease :: held) w) (hn : w.transaction? name = none) :
    Custody opens held (w.keepTransaction name t) := by
  have hp := perm_insertTransaction name t w.transactions
  have hl : ((World.insertTransaction name t w.transactions).map (·.2.lease)).Perm
      (t.lease :: w.transactions.map (·.2.lease)) := hp.map (·.2.lease)
  have hfree : name ∉ w.transactions.map (·.1) := by
    intro hm
    obtain ⟨entry, hentry, rfl⟩ := List.mem_map.mp hm
    simpa using List.lookup_eq_none_iff.mp hn entry hentry
  refine h.rename ((hp.map (·.1)).nodup_iff.mpr (List.nodup_cons.mpr ⟨hfree, h.named⟩)) ?_
  exact List.perm_middle.symm.trans (hl.append_left held).symm

theorem transaction?_removeTransaction (w : World) (name : String) :
    (w.removeTransaction name).transaction? name = none := by
  refine List.lookup_eq_none_iff.mpr fun entry hm => ?_
  simpa [bne_comm] using (List.mem_filter.mp hm).2

end Names

end RecordSql.Store
